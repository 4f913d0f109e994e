import UnitReducer.Proofs.DirectiveShapes
import UnitReducer.Proofs.LineBreaks
import UnitReducer.Proofs.Results
import Mathlib.Data.List.Forall2
/-!
# Classified lines

A classified line holds the text it was read from, so it is rendered as that text
(`render_of_classify`), and its position plays no part in it.  Reading the text
again after a carriage return was taken off its end gives the same kind of line
with the same number and path (`classify_dropCarriageReturn`).
-/

namespace UnitReducer.Line

theorem classify_eq_ok_iff {index : Option Int} {text : Text} {line : Line} :
    classify index text = .ok line ↔
      (∃ path, includePath? text = some path ∧ line = .included path text) ∨
      (includePath? text = none ∧ ∃ digits path,
        markerFields? text = some (digits, path) ∧
        digits.length ≤ Decimal.digitLimit ∧ Decimal.natOfDigits digits ≤ maxNumber ∧
        line = .marker (Decimal.natOfDigits digits) path text) ∨
      (includePath? text = none ∧ markerFields? text = none ∧ line = .other text) := by
  unfold classify
  cases includePath? text with
  | some path => simp [eq_comm]
  | none =>
      cases markerFields? text with
      | none => simp [eq_comm]
      | some fields =>
          obtain ⟨digits, path⟩ := fields
          dsimp only
          by_cases hlimit : Decimal.digitLimit < digits.length
          · simp [hlimit, Nat.not_le.2 hlimit]
          · by_cases hrange : maxNumber < Decimal.natOfDigits digits
            · simp [hlimit, hrange, Nat.not_le.2 hrange]
            · simp [hlimit, hrange, Nat.not_lt.1 hlimit, Nat.not_lt.1 hrange, eq_comm]

theorem classify_eq_error_iff {index : Option Int} {text : Text} {e : MarkerError} :
    classify index text = .error e ↔
      includePath? text = none ∧ ∃ digits path,
        markerFields? text = some (digits, path) ∧
        (Decimal.digitLimit < digits.length ∧ e = .tooManyDigits digits.length ∨
          digits.length ≤ Decimal.digitLimit ∧
            maxNumber < Decimal.natOfDigits digits ∧ e = .outOfRange text index) := by
  unfold classify
  cases includePath? text with
  | some path => simp
  | none =>
      cases markerFields? text with
      | none => simp
      | some fields =>
          obtain ⟨digits, path⟩ := fields
          dsimp only
          by_cases hlimit : Decimal.digitLimit < digits.length
          · simp [hlimit, Nat.not_le.2 hlimit, eq_comm]
          · by_cases hrange : maxNumber < Decimal.natOfDigits digits
            · simp [hlimit, hrange, Nat.not_lt.1 hlimit, eq_comm]
            · simp [hlimit, hrange]

theorem classify_of_eq_ok {index : Option Int} {text : Text} {line : Line}
    (h : classify index text = .ok line) (index' : Option Int) :
    classify index' text = .ok line := by
  rw [classify_eq_ok_iff] at h ⊢
  exact h

theorem includePath?_nil : includePath? [] = none := by decide

theorem markerFields?_nil : markerFields? [] = none := by decide

/-- A classified line is rendered as the text it was read from: a directive never
has an empty text, so no spelling of its own stands in for it. -/
theorem render_of_classify {index : Option Int} {text : Text} {line : Line}
    (h : classify index text = .ok line) : line.render = text := by
  rw [classify_eq_ok_iff] at h
  rcases h with ⟨path, hpath, rfl⟩ | ⟨-, digits, path, hfields, -, -, rfl⟩ | ⟨-, -, rfl⟩
  · cases text with
    | nil =>
        rw [includePath?_nil] at hpath
        cases hpath
    | cons c text => rfl
  · cases text with
    | nil =>
        rw [markerFields?_nil] at hfields
        cases hfields
    | cons c text => rfl
  · rfl

/-! ## One carriage return less -/

/-- The line as it is read when a CR at the end of its text belongs to the line
break. -/
def dropReturn : Line → Line
  | .included path text => .included path (Text.dropCarriageReturn text)
  | .marker number path text => .marker number path (Text.dropCarriageReturn text)
  | .other text => .other (Text.dropCarriageReturn text)

@[simp] theorem entered?_dropReturn (line : Line) :
    line.dropReturn.entered? = line.entered? := by
  cases line <;> rfl

theorem includePath?_dropCarriageReturn (text : Text) :
    includePath? (Text.dropCarriageReturn text) = includePath? text := by
  by_cases hlast : text.getLast? = some '\r'
  · rw [Text.eq_append_return hlast, includePath?_append_return,
      Text.dropCarriageReturn_append_return]
  · rw [Text.dropCarriageReturn_of_ne hlast]

theorem markerFields?_dropCarriageReturn (text : Text) :
    markerFields? (Text.dropCarriageReturn text) = markerFields? text := by
  by_cases hlast : text.getLast? = some '\r'
  · rw [Text.eq_append_return hlast, markerFields?_append_return,
      Text.dropCarriageReturn_append_return]
  · rw [Text.dropCarriageReturn_of_ne hlast]

theorem classify_dropCarriageReturn {index : Option Int} {text : Text} {line : Line}
    (h : classify index text = .ok line) :
    classify index (Text.dropCarriageReturn text) = .ok line.dropReturn := by
  rw [classify_eq_ok_iff] at h ⊢
  rw [includePath?_dropCarriageReturn, markerFields?_dropCarriageReturn]
  rcases h with ⟨path, hpath, rfl⟩ | ⟨hnone, digits, path, hfields, hlimit, hrange, rfl⟩ |
    ⟨hnone, hnone', rfl⟩
  · exact Or.inl ⟨path, hpath, rfl⟩
  · exact Or.inr (Or.inl ⟨hnone, digits, path, hfields, hlimit, hrange, rfl⟩)
  · exact Or.inr (Or.inr ⟨hnone, hnone', rfl⟩)

/-! ## Whole texts -/

theorem classifyFrom_eq_ok_iff {index : Nat} {texts : List Text} {lines : List Line} :
    classifyFrom index texts = .ok lines ↔
      List.Forall₂ (fun text line => classify none text = .ok line) texts lines := by
  induction texts generalizing index lines with
  | nil =>
      rw [List.forall₂_nil_left_iff, classifyFrom, Except.ok.injEq, eq_comm]
  | cons text texts ih =>
      rw [classifyFrom, bind_eq_ok_iff, List.forall₂_cons_left_iff]
      constructor
      · rintro ⟨first, hfirst, h⟩
        obtain ⟨others, hothers, h⟩ := bind_eq_ok_iff.1 h
        cases h
        exact ⟨first, others, classify_of_eq_ok hfirst none, ih.1 hothers, rfl⟩
      · rintro ⟨first, others, hfirst, hothers, rfl⟩
        refine ⟨first, classify_of_eq_ok hfirst _, ?_⟩
        exact bind_eq_ok_iff.2 ⟨others, ih.2 hothers, rfl⟩

theorem classifyAll_eq_ok_iff {texts : List Text} {lines : List Line} :
    classifyAll texts = .ok lines ↔
      List.Forall₂ (fun text line => classify none text = .ok line) texts lines :=
  classifyFrom_eq_ok_iff

theorem classifyFrom_cons_eq_error_iff {index : Nat} {text : Text} {texts : List Text}
    {e : MarkerError} :
    classifyFrom index (text :: texts) = .error e ↔
      classify (some (index : Int)) text = .error e ∨
        (∃ line, classify none text = .ok line) ∧
          classifyFrom (index + 1) texts = .error e := by
  rw [classifyFrom, bind_eq_error_iff]
  apply or_congr Iff.rfl
  constructor
  · rintro ⟨line, hline, h⟩
    rcases bind_eq_error_iff.1 h with h | ⟨others, -, h⟩
    · exact ⟨⟨line, classify_of_eq_ok hline none⟩, h⟩
    · cases h
  · rintro ⟨⟨line, hline⟩, h⟩
    exact ⟨line, classify_of_eq_ok hline _, bind_eq_error_iff.2 (Or.inl h)⟩

theorem classifyFrom_eq_error_iff {index : Nat} {texts : List Text} {e : MarkerError} :
    classifyFrom index texts = .error e ↔
      ∃ before text after, texts = before ++ text :: after ∧
        (∀ t ∈ before, ∃ line, classify none t = .ok line) ∧
        classify (some ((index + before.length : Nat) : Int)) text = .error e := by
  induction texts generalizing index with
  | nil =>
      constructor
      · intro h
        cases h
      · rintro ⟨before, text, after, h, -⟩
        simp at h
  | cons first texts ih =>
      rw [classifyFrom_cons_eq_error_iff, ih]
      constructor
      · rintro (hfirst | ⟨hfirst, before, text, after, rfl, hbefore, herror⟩)
        · exact ⟨[], first, texts, rfl, by simp, hfirst⟩
        · refine ⟨first :: before, text, after, rfl, ?_, ?_⟩
          · exact List.forall_mem_cons.2 ⟨hfirst, hbefore⟩
          · rwa [List.length_cons, Nat.add_comm before.length, ← Nat.add_assoc]
      · rintro ⟨before, text, after, htexts, hbefore, herror⟩
        cases before with
        | nil =>
            obtain ⟨rfl, rfl⟩ := List.cons.inj htexts
            exact Or.inl herror
        | cons t before =>
            obtain ⟨rfl, rfl⟩ := List.cons.inj htexts
            obtain ⟨hfirst, hbefore⟩ := List.forall_mem_cons.1 hbefore
            refine Or.inr ⟨hfirst, before, text, after, rfl, hbefore, ?_⟩
            rwa [List.length_cons, Nat.add_comm before.length, ← Nat.add_assoc] at herror

theorem map_render_of_classifyAll {texts : List Text} {lines : List Line}
    (h : classifyAll texts = .ok lines) : lines.map render = texts := by
  rw [classifyAll_eq_ok_iff] at h
  induction h with
  | nil => rfl
  | cons hline hlines ih => rw [List.map_cons, ih, render_of_classify hline]

end UnitReducer.Line
