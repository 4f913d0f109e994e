import UnitReducer.Proofs.AllOrNothing
import UnitReducer.Proofs.LineGrammar
/-!
# Units that cannot be reduced

A marker is unusable when its number cannot be converted or does not fit 64 bits.
A unit is refused exactly when it holds such a marker, wherever it stands, and the
first one decides the error (`reduce_fails_at_first_unusable`).
-/

namespace UnitReducer

/-! ## One line -/

namespace Line

/-- The line is no include directive, and it is a marker with a number that cannot
be used. -/
def Unusable (line : Text) : Prop :=
  (¬ ∃ path, IncludeShape line path) ∧
    ∃ digits path, MarkerReading line digits path ∧ UnusableNumber digits

/-- The error that the number of a marker gives, with the name it is reported under.
Too many digits count before too large a value, and only the latter error carries
the line and its position. -/
def NumberFault (line : Text) (position : Nat) (e : MarkerError) : Prop :=
  ∃ digits path, MarkerReading line digits path ∧
    (4300 < digits.length ∧ e = .tooManyDigits digits.length ∧
        (PreprocessError.marker e).kind = "ValueError" ∨
      digits.length ≤ 4300 ∧ 2 ^ 64 - 1 < Decimal.natOfDigits digits ∧
        e = .outOfRange line (some position) ∧
        (PreprocessError.marker e).kind = "MalformedLineMarkerError")

theorem unusable_iff (index : Option Int) {line : Text} :
    Unusable line ↔ ∃ e, classify index line = .error e := by
  rw [exists_classify_eq_error_iff]
  constructor
  · exact And.right
  · intro h
    refine ⟨?_, h⟩
    obtain ⟨digits, path, hreading, -⟩ := h
    rw [exists_includeShape_iff, not_not]
    exact includePath?_of_markerReading hreading

theorem not_unusable_iff {line : Text} :
    ¬ Unusable line ↔ ∃ x, classify none line = .ok x := by
  rw [unusable_iff none]
  cases classify none line with
  | ok x => simp
  | error e => simp

theorem numberFault_iff {line : Text} {position : Nat} {e : MarkerError} :
    NumberFault line position e ↔ classify (some (position : Int)) line = .error e := by
  rw [classify_eq_error_iff_reading]
  constructor
  · rintro ⟨digits, path, hreading, ⟨hcount, he, -⟩ | ⟨hcount, hrange, he, -⟩⟩
    · exact ⟨digits, path, hreading, Or.inl ⟨hcount, he⟩⟩
    · exact ⟨digits, path, hreading, Or.inr ⟨hcount, hrange, he⟩⟩
  · rintro ⟨digits, path, hreading, ⟨hcount, rfl⟩ | ⟨hcount, hrange, rfl⟩⟩
    · exact ⟨digits, path, hreading, Or.inl ⟨hcount, rfl, rfl⟩⟩
    · exact ⟨digits, path, hreading, Or.inr ⟨hcount, hrange, rfl, rfl⟩⟩

theorem classifyAll_eq_error_iff {texts : List Text} {e : MarkerError} :
    classifyAll texts = .error e ↔
      ∃ before line after, texts = before ++ line :: after ∧
        (∀ l ∈ before, ¬ Unusable l) ∧ Unusable line ∧
        NumberFault line (before.length + 1) e := by
  simp only [classifyAll, classifyFrom_eq_error_iff, ← not_unusable_iff, numberFault_iff,
    Nat.add_comm 1]
  constructor
  · rintro ⟨before, line, after, htexts, hbefore, herror⟩
    exact ⟨before, line, after, htexts, hbefore, (unusable_iff _).2 ⟨e, herror⟩, herror⟩
  · rintro ⟨before, line, after, htexts, hbefore, -, herror⟩
    exact ⟨before, line, after, htexts, hbefore, herror⟩

end Line

/-! ## Whole units -/

namespace Reduction

theorem exists_reduce_eq_ok_iff_usable (isSystem : Text → Bool) {source : Text} :
    (∃ text report, reduce isSystem source = .ok (text, report)) ↔
      ∀ line ∈ source.lines, ¬ Line.Unusable line := by
  rw [exists_reduce_eq_ok_iff, WellFormedMarkers]
  apply forall₂_congr
  intro line _
  rw [Line.not_unusable_iff, Line.exists_classify_eq_ok_iff]

theorem exists_reduce_eq_error_iff (isSystem : Text → Bool) {source : Text} :
    (∃ e, reduce isSystem source = .error e) ↔
      ¬ ∃ text report, reduce isSystem source = .ok (text, report) := by
  cases reduce isSystem source with
  | ok pair =>
      obtain ⟨text, report⟩ := pair
      simp
  | error e => simp

/-- A unit is reduced unless it holds an unusable marker, be it in the body of a
system header.  The first one decides the error. -/
theorem reduce_fails_at_first_unusable (isSystem : Text → Bool) (source : Text) :
    ((∃ e, reduce isSystem source = .error e) ↔
      ∃ line ∈ source.lines, Line.Unusable line) ∧
    (∀ e, reduce isSystem source = .error e ↔
      ∃ before line after, source.lines = before ++ line :: after ∧
        (∀ l ∈ before, ¬ Line.Unusable l) ∧ Line.Unusable line ∧
        Line.NumberFault line (before.length + 1) e) ∧
    ((∃ text report, reduce isSystem source = .ok (text, report)) ↔
      ¬ ∃ line ∈ source.lines, Line.Unusable line) := by
  have hok : (∃ text report, reduce isSystem source = .ok (text, report)) ↔
      ¬ ∃ line ∈ source.lines, Line.Unusable line := by
    rw [exists_reduce_eq_ok_iff_usable]
    push Not
    rfl
  refine ⟨?_, ?_, hok⟩
  · rw [exists_reduce_eq_error_iff, hok, not_not]
  · intro e
    rw [reduce_eq_error_iff, Line.classifyAll_eq_error_iff]

end Reduction

end UnitReducer
