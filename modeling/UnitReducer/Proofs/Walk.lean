import UnitReducer.Reduction
import UnitReducer.Proofs.Results
/-!
# The walk over a unit

A walk remembers verdicts on include paths.  `SoundVerdicts` is its invariant:
what is remembered is what a comparison with the headers would give.  Under it the
memory cannot be noticed, and a walk gives every line the fate that `fates` gives
it from the context alone (`judge_eq_fates`).
-/

namespace UnitReducer.Reduction

/-! ## Success and failure -/

theorem reduce_eq_ok_iff {isSystem : Text → Bool} {source text : Text} {r : Report} :
    reduce isSystem source = .ok (text, r) ↔
      ∃ lines, Line.classifyAll source.lines = .ok lines ∧
        text = reconstruct isSystem (expansions lines) lines ∧
        r = report isSystem (expansions lines) lines := by
  unfold reduce
  rw [bind_eq_ok_iff]
  constructor
  · rintro ⟨lines, hlines, h⟩
    cases h
    exact ⟨lines, hlines, rfl, rfl⟩
  · rintro ⟨lines, hlines, rfl, rfl⟩
    exact ⟨lines, hlines, rfl⟩

theorem reduce_eq_error_iff {isSystem : Text → Bool} {source : Text} {e : MarkerError} :
    reduce isSystem source = .error e ↔ Line.classifyAll source.lines = .error e := by
  unfold reduce
  rw [bind_eq_error_iff]
  constructor
  · rintro (h | ⟨lines, -, h⟩)
    · exact h
    · cases h
  · exact Or.inl

/-! ## Remembered verdicts -/

def redundant (headers : List Text) (path : Text) : Bool :=
  headers.any fun header => Header.same header path

/-- Every remembered verdict is the true one. -/
def SoundVerdicts (headers : List Text) (known : Verdicts) : Prop :=
  ∀ path found, known.lookup path = some found → found = redundant headers path

theorem soundVerdicts_nil (headers : List Text) : SoundVerdicts headers [] := by
  intro path found h
  cases h

theorem SoundVerdicts.cons {headers : List Text} {known : Verdicts}
    (hknown : SoundVerdicts headers known) (path : Text) :
    SoundVerdicts headers ((path, redundant headers path) :: known) := by
  intro path' found h
  rw [List.lookup_cons] at h
  by_cases heq : path' = path
  · subst heq
    rw [beq_self_eq_true, Option.some.injEq] at h
    exact h.symm
  · rw [beq_eq_false_iff_ne.2 heq] at h
    exact hknown path' found h

theorem verdict_of_sound {headers : List Text} {known : Verdicts}
    (hknown : SoundVerdicts headers known) (path : Text) :
    (verdict headers known path).1 = redundant headers path ∧
      SoundVerdicts headers (verdict headers known path).2 := by
  unfold verdict
  cases hlookup : known.lookup path with
  | none => exact ⟨rfl, hknown.cons path⟩
  | some found => exact ⟨hknown path found hlookup, hknown⟩

/-! ## One line -/

/-- What becomes of a line when the lines at hand belong, or do not belong, to a
system header. -/
def fate (headers : List Text) (inSystem : Bool) : Line → Fate
  | .marker .. => .kept
  | .included path _ =>
    if inSystem then .systemInclude
    else if redundant headers path then .redundantInclude
    else .kept
  | .other _ => if inSystem then .systemLine else .kept

def inSystemAfter (isSystem : Text → Bool) (inSystem : Bool) (line : Line) : Bool :=
  match line.entered? with
  | some path => isSystem path
  | none => inSystem

theorem step_of_sound (isSystem : Text → Bool) {headers : List Text} {w : Walk}
    (hw : SoundVerdicts headers w.known) (line : Line) :
    (w.step isSystem headers line).1 = fate headers w.inSystem line ∧
      (w.step isSystem headers line).2.inSystem =
        inSystemAfter isSystem w.inSystem line ∧
      SoundVerdicts headers (w.step isSystem headers line).2.known := by
  cases line with
  | marker number path text => exact ⟨rfl, rfl, hw⟩
  | other text => exact ⟨rfl, rfl, hw⟩
  | included path text =>
      obtain ⟨hverdict, hknown⟩ := verdict_of_sound hw path
      rw [Walk.step, fate]
      by_cases hin : w.inSystem = true
      · rw [if_pos hin, if_pos hin]
        exact ⟨rfl, rfl, hw⟩
      · rw [if_neg hin, if_neg hin]
        refine ⟨?_, rfl, hknown⟩
        dsimp only
        rw [hverdict]

/-! ## All lines -/

/-- Every line with its fate, found without a memory. -/
def fates (isSystem : Text → Bool) (headers : List Text) :
    Bool → List Line → List (Line × Fate)
  | _, [] => []
  | inSystem, line :: lines =>
    (line, fate headers inSystem line) ::
      fates isSystem headers (inSystemAfter isSystem inSystem line) lines

theorem judge_eq_fates_of_sound (isSystem : Text → Bool) {headers : List Text} {w : Walk}
    (hw : SoundVerdicts headers w.known) (lines : List Line) :
    judge isSystem headers w lines = fates isSystem headers w.inSystem lines := by
  induction lines generalizing w with
  | nil => rfl
  | cons line lines ih =>
      obtain ⟨hfate, hcontext, hknown⟩ := step_of_sound isSystem hw line
      rw [judge, fates, ← hfate, ← hcontext, ← ih hknown]

theorem judge_eq_fates (isSystem : Text → Bool) (headers : List Text) (lines : List Line) :
    judge isSystem headers .start lines = fates isSystem headers false lines := by
  exact judge_eq_fates_of_sound isSystem (soundVerdicts_nil headers) lines

end UnitReducer.Reduction
