/-!
# First occurrences

`distinct` keeps the first occurrence of every member of a list.
-/

namespace UnitReducer

/-- The members of a list in order of first occurrence. -/
def distinct {α : Type} [DecidableEq α] : List α → List α
  | [] => []
  | a :: l => a :: (distinct l).filter fun b => b ≠ a

theorem mem_distinct {α : Type} [DecidableEq α] {a : α} {l : List α} :
    a ∈ distinct l ↔ a ∈ l := by
  induction l with
  | nil => simp [distinct]
  | cons b l ih => by_cases h : a = b <;> simp [distinct, ih, h]

theorem nodup_distinct {α : Type} [DecidableEq α] (l : List α) : (distinct l).Nodup := by
  induction l with
  | nil => simp [distinct]
  | cons a l ih =>
    rw [distinct, List.nodup_cons]
    exact ⟨by simp, List.Pairwise.filter _ ih⟩

end UnitReducer
