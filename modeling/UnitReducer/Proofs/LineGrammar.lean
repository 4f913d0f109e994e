import UnitReducer.Proofs.Classification
import Mathlib.Algebra.Group.Nat.Defs
/-!
# The grammar of lines

`MarkerReading` gives every way to read a line as a marker; where more than one
double quote follows, there are several, and the longest of them counts.  Together
with `IncludeShape` it decides how a line is classified
(`classify_follows_grammar`).  The plain spelling of a directive is read back as
that directive exactly when its path and its number can be spelled
(`classify_render_agrees_iff`).
-/

namespace UnitReducer.Line

/-! ## Readings of a marker -/

/-- `#`, a number and a quoted path set apart by ASCII whitespace, and then
anything.  The path has no LF. -/
inductive MarkerReading : Text → Text → Text → Prop
  | intro {w₁ digits w₂ path rest : Text}
      (hw₁ : w₁ ≠ [] ∧ ∀ c ∈ w₁, CharClass.asciiSpace c = true)
      (hdigits : digits ≠ [] ∧ ∀ c ∈ digits, c.isDigit = true)
      (hw₂ : w₂ ≠ [] ∧ ∀ c ∈ w₂, CharClass.asciiSpace c = true)
      (hpath : '\n' ∉ path) :
      MarkerReading ('#' :: (w₁ ++ (digits ++ (w₂ ++ '"' :: (path ++ '"' :: rest)))))
        digits path

/-- A reading whose path is as long as that of any other. -/
structure LongestReading (line digits path : Text) : Prop where
  reading : MarkerReading line digits path
  longest : ∀ digits' path', MarkerReading line digits' path' → path'.length ≤ path.length

theorem MarkerShape.reading {line digits path : Text} (h : MarkerShape line digits path) :
    MarkerReading line digits path := by
  obtain ⟨hw₁, hdigits, hw₂, hpath, -⟩ := h
  exact .intro hw₁ hdigits hw₂ hpath

theorem MarkerReading.newline_not_mem {line digits path : Text}
    (h : MarkerReading line digits path) : '\n' ∉ path := by
  cases h with
  | intro _ _ _ hpath => exact hpath

theorem quote_mem_takeWhile {path : Text} (hpath : '\n' ∉ path) (rest : Text) :
    '"' ∈ (path ++ '"' :: rest).takeWhile (· ≠ '\n') := by
  rw [List.takeWhile_append_of_pos (Text.forall_mem_ne hpath)]
  simp

theorem isPrefix_of_last_quote {path rest last tail : Text} (hpath : '\n' ∉ path)
    (htail : '"' ∉ tail.takeWhile (· ≠ '\n'))
    (h : path ++ '"' :: rest = last ++ '"' :: tail) : path <+: last := by
  rcases List.append_eq_append_iff.1 h with ⟨extra, hlast, -⟩ | ⟨extra, hextra, htail'⟩
  · exact ⟨extra, hlast.symm⟩
  · cases extra with
    | nil =>
        have heq : path = last := by simpa using hextra
        exact heq ▸ List.prefix_refl path
    | cons c extra =>
        -- the quote after `path` would stand in `tail`, and no LF before it
        obtain ⟨-, rfl⟩ := List.cons.inj htail'
        have hnewline : '\n' ∉ extra := by
          intro hmem
          apply hpath
          rw [hextra]
          exact List.mem_append_right _ (List.mem_cons_of_mem _ hmem)
        exact absurd (quote_mem_takeWhile hnewline rest) htail

theorem MarkerReading.exists_shape {line digits path : Text}
    (h : MarkerReading line digits path) :
    ∃ last, MarkerShape line digits last ∧ path <+: last := by
  obtain @⟨w₁, _, w₂, _, rest, hw₁, hdigits, hw₂, hpath⟩ := h
  obtain ⟨last, hlast⟩ : ∃ last, Text.untilLast? '"'
      ((path ++ '"' :: rest).takeWhile (· ≠ '\n')) = some last := by
    rw [Text.untilLast?, if_pos (quote_mem_takeWhile hpath rest)]
    exact ⟨_, rfl⟩
  obtain ⟨tail, htail, hnewline, hquote⟩ := untilLast?_takeWhile_eq_some_iff.1 hlast
  refine ⟨last, ?_, isPrefix_of_last_quote hpath hquote htail⟩
  rw [htail]
  exact .intro hw₁ hdigits hw₂ hnewline hquote

theorem MarkerShape.unique {line digits path digits' path' : Text}
    (h : MarkerShape line digits path) (h' : MarkerShape line digits' path') :
    digits = digits' ∧ path = path' := by
  have hfields := markerFields?_eq_some_iff.2 h
  rw [markerFields?_eq_some_iff.2 h', Option.some.injEq, Prod.mk.injEq] at hfields
  exact ⟨hfields.1.symm, hfields.2.symm⟩

theorem MarkerReading.of_shape {line digits path digits' last : Text}
    (h : MarkerReading line digits path) (hlast : MarkerShape line digits' last) :
    digits = digits' ∧ path <+: last := by
  obtain ⟨last', hlast', hpath⟩ := h.exists_shape
  obtain ⟨hdigits, heq⟩ := hlast'.unique hlast
  exact ⟨hdigits, heq ▸ hpath⟩

theorem markerShape_iff_longestReading {line digits path : Text} :
    MarkerShape line digits path ↔ LongestReading line digits path := by
  constructor
  · intro h
    refine ⟨h.reading, ?_⟩
    intro digits' path' h'
    exact (h'.of_shape h).2.length_le
  · intro h
    obtain ⟨last, hlast, hpath⟩ := h.reading.exists_shape
    have hlength := h.longest digits last hlast.reading
    rwa [hpath.eq_of_length_le hlength]

theorem exists_markerReading_iff {line : Text} :
    (∃ digits path, MarkerReading line digits path) ↔ markerFields? line ≠ none := by
  rw [Option.ne_none_iff_exists']
  constructor
  · rintro ⟨digits, path, h⟩
    obtain ⟨last, hlast, -⟩ := h.exists_shape
    exact ⟨(digits, last), markerFields?_eq_some_iff.2 hlast⟩
  · rintro ⟨⟨digits, path⟩, h⟩
    exact ⟨digits, path, (markerFields?_eq_some_iff.1 h).reading⟩

theorem exists_includeShape_iff {line : Text} :
    (∃ path, IncludeShape line path) ↔ includePath? line ≠ none := by
  rw [Option.ne_none_iff_exists']
  exact exists_congr fun path => includePath?_eq_some_iff.symm

theorem IncludeShape.unique {line path path' : Text} (h : IncludeShape line path)
    (h' : IncludeShape line path') : path = path' := by
  have hpath := includePath?_eq_some_iff.2 h
  rw [includePath?_eq_some_iff.2 h', Option.some.injEq] at hpath
  exact hpath.symm

theorem includePath?_of_markerReading {line digits path : Text}
    (h : MarkerReading line digits path) : includePath? line = none := by
  obtain ⟨last, hlast, -⟩ := h.exists_shape
  exact includePath?_of_markerShape hlast

/-! ## Numbers that cannot be used -/

/-- A run of digits that is too long to be converted, or has a value of more than 64
bits. -/
def UnusableNumber (digits : Text) : Prop :=
  4300 < digits.length ∨ 2 ^ 64 - 1 < Decimal.natOfDigits digits

theorem not_unusableNumber_iff {digits : Text} :
    ¬ UnusableNumber digits ↔
      digits.length ≤ Decimal.digitLimit ∧ Decimal.natOfDigits digits ≤ maxNumber := by
  rw [UnusableNumber, not_or, Nat.not_lt, Nat.not_lt]
  rfl

/-! ## One line -/

theorem classify_eq_included_iff {index : Option Int} {line path text : Text} :
    classify index line = .ok (.included path text) ↔ IncludeShape line path ∧ text = line := by
  rw [classify_eq_ok_iff, ← includePath?_eq_some_iff]
  constructor
  · rintro (⟨path', hpath', h⟩ | ⟨-, _, _, -, -, -, h⟩ | ⟨-, -, h⟩)
    · obtain ⟨rfl, rfl⟩ := Line.included.inj h
      exact ⟨hpath', rfl⟩
    · cases h
    · cases h
  · rintro ⟨hpath, rfl⟩
    exact Or.inl ⟨path, hpath, rfl⟩

theorem classify_eq_marker_iff {index : Option Int} {line path text : Text} {number : Nat} :
    classify index line = .ok (.marker number path text) ↔
      ∃ digits, LongestReading line digits path ∧ ¬ UnusableNumber digits ∧
        number = Decimal.natOfDigits digits ∧ text = line := by
  rw [classify_eq_ok_iff]
  constructor
  · rintro (⟨_, -, h⟩ | ⟨-, digits, path', hfields, hlimit, hrange, h⟩ | ⟨-, -, h⟩)
    · cases h
    · obtain ⟨rfl, rfl, rfl⟩ := Line.marker.inj h
      have hshape := markerFields?_eq_some_iff.1 hfields
      exact ⟨digits, markerShape_iff_longestReading.1 hshape,
        not_unusableNumber_iff.2 ⟨hlimit, hrange⟩, rfl, rfl⟩
    · cases h
  · rintro ⟨digits, hlongest, hnumber, rfl, rfl⟩
    have hshape := markerShape_iff_longestReading.2 hlongest
    obtain ⟨hlimit, hrange⟩ := not_unusableNumber_iff.1 hnumber
    exact Or.inr (Or.inl ⟨includePath?_of_markerShape hshape, digits, path,
      markerFields?_eq_some_iff.2 hshape, hlimit, hrange, rfl⟩)

theorem classify_eq_other_iff {index : Option Int} {line text : Text} :
    classify index line = .ok (.other text) ↔
      (¬ ∃ path, IncludeShape line path) ∧ (¬ ∃ digits path, MarkerReading line digits path) ∧
        text = line := by
  rw [exists_includeShape_iff, exists_markerReading_iff, not_not, not_not, classify_eq_ok_iff]
  constructor
  · rintro (⟨_, -, h⟩ | ⟨-, _, _, -, -, -, h⟩ | ⟨hinclude, hmarker, h⟩)
    · cases h
    · cases h
    · exact ⟨hinclude, hmarker, Line.other.inj h⟩
  · rintro ⟨hinclude, hmarker, rfl⟩
    exact Or.inr (Or.inr ⟨hinclude, hmarker, rfl⟩)

theorem classify_eq_error_iff_reading {index : Option Int} {line : Text} {e : MarkerError} :
    classify index line = .error e ↔
      ∃ digits path, MarkerReading line digits path ∧
        (4300 < digits.length ∧ e = .tooManyDigits digits.length ∨
          digits.length ≤ 4300 ∧ 2 ^ 64 - 1 < Decimal.natOfDigits digits ∧
            e = .outOfRange line index) := by
  rw [classify_eq_error_iff]
  constructor
  · rintro ⟨-, digits, path, hfields, hnumber⟩
    exact ⟨digits, path, (markerFields?_eq_some_iff.1 hfields).reading, hnumber⟩
  · rintro ⟨digits, path, hreading, hnumber⟩
    obtain ⟨last, hlast, -⟩ := hreading.exists_shape
    exact ⟨includePath?_of_markerShape hlast, digits, last,
      markerFields?_eq_some_iff.2 hlast, hnumber⟩

theorem exists_classify_eq_error_iff {index : Option Int} {line : Text} :
    (∃ e, classify index line = .error e) ↔
      ∃ digits path, MarkerReading line digits path ∧ UnusableNumber digits := by
  simp only [classify_eq_error_iff_reading]
  constructor
  · rintro ⟨e, digits, path, hreading, hnumber⟩
    refine ⟨digits, path, hreading, ?_⟩
    rcases hnumber with ⟨hcount, -⟩ | ⟨-, hrange, -⟩
    · exact Or.inl hcount
    · exact Or.inr hrange
  · rintro ⟨digits, path, hreading, hnumber⟩
    by_cases hcount : 4300 < digits.length
    · exact ⟨_, digits, path, hreading, Or.inl ⟨hcount, rfl⟩⟩
    · have hrange := hnumber.resolve_left hcount
      exact ⟨_, digits, path, hreading, Or.inr ⟨Nat.not_lt.1 hcount, hrange, rfl⟩⟩

/-- Classifies a line as `classify` does, but looks for a marker first. -/
def classifyMarkerFirst (index : Option Int) (line : Text) : Except MarkerError Line :=
  match markerFields? line with
  | some (digits, path) =>
    if Decimal.digitLimit < digits.length then .error (.tooManyDigits digits.length)
    else if maxNumber < Decimal.natOfDigits digits then .error (.outOfRange line index)
    else .ok (.marker (Decimal.natOfDigits digits) path line)
  | none =>
    match includePath? line with
    | some path => .ok (.included path line)
    | none => .ok (.other line)

theorem classify_eq_classifyMarkerFirst (index : Option Int) (line : Text) :
    classify index line = classifyMarkerFirst index line := by
  unfold classify classifyMarkerFirst
  cases hfields : markerFields? line with
  | none => rfl
  | some fields =>
      have hshape : MarkerShape line fields.1 fields.2 := markerFields?_eq_some_iff.1 hfields
      rw [includePath?_of_markerShape hshape]

/-- How a line is classified, in terms of the two shapes.  The shapes exclude each
other, and each of them determines the path. -/
structure FollowsGrammar (index : Option Int) (line : Text) : Prop where
  included : ∀ path text, classify index line = .ok (.included path text) ↔
    IncludeShape line path ∧ text = line
  hasMarker : markerFields? line ≠ none ↔ ∃ digits path, MarkerReading line digits path
  fields : ∀ digits path, markerFields? line = some (digits, path) ↔
    LongestReading line digits path
  marker : ∀ number path text, classify index line = .ok (.marker number path text) ↔
    ∃ digits, LongestReading line digits path ∧ ¬ UnusableNumber digits ∧
      number = Decimal.natOfDigits digits ∧ text = line
  refused : (∃ e, classify index line = .error e) ↔
    ∃ digits path, MarkerReading line digits path ∧ UnusableNumber digits
  other : ∀ text, classify index line = .ok (.other text) ↔
    (¬ ∃ path, IncludeShape line path) ∧ (¬ ∃ digits path, MarkerReading line digits path) ∧
      text = line
  exclusive : ¬ ((∃ path, IncludeShape line path) ∧ ∃ digits path, MarkerReading line digits path)
  order : classify index line = classifyMarkerFirst index line
  includedPath : ∀ path path', IncludeShape line path → IncludeShape line path' → path = path'
  number : ∀ digits path digits' path', MarkerReading line digits path →
    MarkerReading line digits' path' → digits = digits'
  markerPath : ∀ digits path digits' path', LongestReading line digits path →
    LongestReading line digits' path' → path = path'

/-- Lines are classified by the grammar of include directives and line markers. -/
theorem classify_follows_grammar (index : Option Int) (line : Text) :
    FollowsGrammar index line where
  included path text := classify_eq_included_iff
  hasMarker := exists_markerReading_iff.symm
  fields digits path := markerFields?_eq_some_iff.trans markerShape_iff_longestReading
  marker number path text := classify_eq_marker_iff
  refused := exists_classify_eq_error_iff
  other text := classify_eq_other_iff
  exclusive := by
    rintro ⟨hinclude, digits, path, hmarker⟩
    exact exists_includeShape_iff.1 hinclude (includePath?_of_markerReading hmarker)
  order := classify_eq_classifyMarkerFirst index line
  includedPath path path' h h' := h.unique h'
  number digits path digits' path' h h' := by
    obtain ⟨last, hlast, -⟩ := h'.exists_shape
    exact (h.of_shape hlast).1
  markerPath digits path digits' path' h h' := by
    have hshape := markerShape_iff_longestReading.2 h
    exact (hshape.unique (markerShape_iff_longestReading.2 h')).2

/-! ## Plain spellings -/

theorem render_included_nil (path : Text) :
    render (.included path []) = "#include \"".toList ++ path ++ ['"'] := rfl

theorem render_marker_nil (number : Nat) (path : Text) :
    render (.marker number path []) =
      '#' :: ' ' :: Decimal.ofNat number ++ ' ' :: '"' :: path ++ ['"'] := rfl

theorem includeShape_quoted {path : Text} (hpath : '"' ∉ path) (rest : Text) :
    IncludeShape ("#include \"".toList ++ (path ++ '"' :: rest)) path := by
  have hspace : ∀ c ∈ [' '], CharClass.space c = true := List.forall_mem_singleton.2 rfl
  have hshape : IncludeShape (['#'] ++ ([] ++ ("include".toList ++
      ([' '] ++ '"' :: (path ++ '"' :: rest))))) path :=
    .intro (Or.inr rfl) (by simp) hspace .quotes hpath
  exact hshape

theorem includeShape_spelled_iff {path : Text} :
    IncludeShape (render (.included path [])) path ↔ '"' ∉ path := by
  rw [render_included_nil, List.append_assoc]
  constructor
  · intro h hquote
    obtain ⟨start, rest, hstart, hstart'⟩ := List.eq_append_cons_of_mem hquote
    have hshape := includeShape_quoted hstart' (rest ++ ['"'])
    rw [← List.cons_append, ← List.append_assoc start, ← hstart] at hshape
    exact hstart' (hshape.unique h ▸ hquote)
  · intro hpath
    exact includeShape_quoted hpath []

theorem markerShape_spelled (number : Nat) {path : Text} (hpath : '\n' ∉ path) :
    MarkerShape (render (.marker number path [])) (Decimal.ofNat number) path := by
  have hspace : [' '] ≠ [] ∧ ∀ c ∈ [' '], CharClass.asciiSpace c = true :=
    ⟨List.cons_ne_nil ' ' [], List.forall_mem_singleton.2 rfl⟩
  have hdigits : Decimal.ofNat number ≠ [] ∧
      ∀ c ∈ Decimal.ofNat number, c.isDigit = true := by
    constructor
    · exact Nat.toDigits_ne_nil
    · intro c hc
      exact Nat.isDigit_of_mem_toDigits (by decide) (by decide) hc
  have hshape : MarkerShape ('#' :: ([' '] ++ (Decimal.ofNat number ++
      ([' '] ++ '"' :: (path ++ ['"']))))) (Decimal.ofNat number) path :=
    .intro hspace hdigits hspace hpath List.not_mem_nil
  simpa [render_marker_nil] using hshape

theorem length_ofNat_le {number : Nat} (h : number < 2 ^ 64) :
    (Decimal.ofNat number).length ≤ 4300 := by
  have hlength : (Decimal.ofNat number).length ≤ 20 := by
    rw [Decimal.ofNat, Nat.length_toDigits_le_iff (by decide) (by decide)]
    omega
  omega

theorem exists_agrees_included_iff {index : Option Int} {text path : Text} :
    (∃ line, classify index text = .ok line ∧ line.agrees (.included path []) = true) ↔
      IncludeShape text path := by
  constructor
  · rintro ⟨line, hline, hagrees⟩
    cases line with
    | included path' text' =>
        have hpath : path' = path := by simpa [agrees] using hagrees
        rw [hpath] at hline
        exact (classify_eq_included_iff.1 hline).1
    | marker number path' text' => simp [agrees] at hagrees
    | other text' => simp [agrees] at hagrees
  · intro h
    exact ⟨_, classify_eq_included_iff.2 ⟨h, rfl⟩, by simp [agrees]⟩

theorem exists_agrees_marker_iff {index : Option Int} {text path : Text} {number : Nat} :
    (∃ line, classify index text = .ok line ∧ line.agrees (.marker number path []) = true) ↔
      ∃ digits, LongestReading text digits path ∧ ¬ UnusableNumber digits ∧
        number = Decimal.natOfDigits digits := by
  constructor
  · rintro ⟨line, hline, hagrees⟩
    cases line with
    | marker number' path' text' =>
        obtain ⟨rfl, rfl⟩ : number' = number ∧ path' = path := by simpa [agrees] using hagrees
        obtain ⟨digits, hlongest, hnumber, hvalue, -⟩ := classify_eq_marker_iff.1 hline
        exact ⟨digits, hlongest, hnumber, hvalue⟩
    | included path' text' => simp [agrees] at hagrees
    | other text' => simp [agrees] at hagrees
  · rintro ⟨digits, hlongest, hnumber, hvalue⟩
    exact ⟨_, classify_eq_marker_iff.2 ⟨digits, hlongest, hnumber, hvalue, rfl⟩,
      by simp [agrees]⟩

/-- A directive that was not read from anywhere is spelled so that reading gives it
back, provided that its path and its number can be spelled.  A double quote in the
path of a marker does no harm, since that path reaches to the last quote. -/
theorem classify_render_agrees_iff (index : Option Int) :
    (∀ number path,
      (∃ line, classify index (render (.marker number path [])) = .ok line ∧
        line.agrees (.marker number path []) = true) ↔ number < 2 ^ 64 ∧ '\n' ∉ path) ∧
    ∀ path,
      (∃ line, classify index (render (.included path [])) = .ok line ∧
        line.agrees (.included path []) = true) ↔ '"' ∉ path := by
  constructor
  · intro number path
    rw [exists_agrees_marker_iff]
    constructor
    · rintro ⟨digits, hlongest, hnumber, hvalue⟩
      rw [UnusableNumber, not_or, ← hvalue] at hnumber
      exact ⟨by omega, hlongest.reading.newline_not_mem⟩
    · rintro ⟨hnumber, hpath⟩
      have hlongest := markerShape_iff_longestReading.1 (markerShape_spelled number hpath)
      have hvalue := Decimal.natOfDigits_ofNat number
      have hlength := length_ofNat_le hnumber
      refine ⟨_, hlongest, ?_, hvalue.symm⟩
      rw [UnusableNumber, hvalue]
      omega
  · intro path
    rw [exists_agrees_included_iff, includeShape_spelled_iff]

end UnitReducer.Line
