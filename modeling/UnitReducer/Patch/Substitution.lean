import UnitReducer.Text.CharClass
/-!
# Leftmost substitution

A rule looks at the head of a text.  `substitute` applies it from left to right, at the leftmost
places where it matches; what a match takes is not looked at again.
-/

namespace UnitReducer.Patch

/-- A match at the head of a text: the number of characters it takes, and what replaces them. -/
structure Match where
  size : Nat
  replacement : Text
deriving DecidableEq, Repr

abbrev Rule := Text → Option Match

/-- What `find?` yields at the leftmost place where it yields anything. -/
def first? {α : Type} (find? : Text → Option α) : Text → Option α
  | [] => none
  | c :: cs =>
    match find? (c :: cs) with
    | some a => some a
    | none => first? find? cs

/-- Substitutes in what follows the first `skip` characters. -/
def substituteFrom (rule : Rule) : Nat → Text → Text
  | _, [] => []
  | skip + 1, _ :: cs => substituteFrom rule skip cs
  | 0, c :: cs =>
    match rule (c :: cs) with
    | some m => m.replacement ++ substituteFrom rule (m.size - 1) cs
    | none => c :: substituteFrom rule 0 cs

def substitute (rule : Rule) (t : Text) : Text :=
  substituteFrom rule 0 t

/-- The text with all substitutions, when the rule matches anywhere. -/
def substitute? (rule : Rule) (t : Text) : Option Text :=
  (first? rule t).map fun _ => substitute rule t

theorem substituteFrom_eq (rule : Rule) (skip : Nat) (t : Text) :
    substituteFrom rule skip t = substitute rule (t.drop skip) := by
  induction t generalizing skip with
  | nil => simp [substitute, substituteFrom]
  | cons c cs ih =>
    cases skip with
    | zero => rfl
    | succ skip => rw [substituteFrom, ih, List.drop_succ_cons]

theorem substitute_nil (rule : Rule) : substitute rule [] = [] := rfl

theorem substitute_cons (rule : Rule) (c : Char) (cs : Text) :
    substitute rule (c :: cs) =
      match rule (c :: cs) with
      | some m => m.replacement ++ substitute rule (cs.drop (m.size - 1))
      | none => c :: substitute rule cs := by
  rw [substitute, substituteFrom]
  cases rule (c :: cs) with
  | none => rfl
  | some m => simp only [substituteFrom_eq]

theorem first?_eq_none_iff {α : Type} {find? : Text → Option α} {t : Text} :
    first? find? t = none ↔ ∀ s, s ≠ [] → s <:+ t → find? s = none := by
  induction t with
  | nil => simp +contextual [first?]
  | cons c cs ih =>
    rw [first?]
    split
    next a h =>
      simp only [reduceCtorEq, false_iff]
      intro hall
      rw [hall (c :: cs) (by simp) (List.suffix_refl _)] at h
      simp at h
    next h =>
      rw [ih]
      constructor
      · intro hall s hs hsuffix
        rcases List.suffix_cons_iff.1 hsuffix with rfl | hsuffix
        · exact h
        · exact hall s hs hsuffix
      · intro hall s hs hsuffix
        exact hall s hs (hsuffix.trans (List.suffix_cons c cs))

end UnitReducer.Patch
