import UnitReducer.Line.Classify
import Mathlib.Data.List.TakeWhile
import Mathlib.Data.Option.Basic
/-!
# The shapes of directives

`IncludeShape` and `MarkerShape` say as grammar rules which lines are directives
and what they name.  The recognisers of `UnitReducer.Line.Classify` accept exactly
these lines (`includePath?_eq_some_iff`, `markerFields?_eq_some_iff`).  Neither
shape depends on a carriage return at the end of the line.
-/

namespace UnitReducer

/-! ## Pieces of text around a mark -/

namespace Text

theorem takeWhile_append_stop {p : Char → Bool} {run rest : Text}
    (hrun : ∀ c ∈ run, p c = true) (hstop : ∀ c ∈ rest.head?, p c = false) :
    (run ++ rest).takeWhile p = run := by
  rw [List.takeWhile_append_of_pos hrun]
  cases rest with
  | nil => rw [List.takeWhile_nil, List.append_nil]
  | cons c rest =>
      rw [List.takeWhile_cons, hstop c rfl]
      exact List.append_nil run

theorem dropWhile_append_stop {p : Char → Bool} {run rest : Text}
    (hrun : ∀ c ∈ run, p c = true) (hstop : ∀ c ∈ rest.head?, p c = false) :
    (run ++ rest).dropWhile p = rest := by
  rw [List.dropWhile_append_of_pos hrun]
  cases rest with
  | nil => rfl
  | cons c rest =>
      rw [List.dropWhile_cons, hstop c rfl]
      rfl

theorem mem_of_mem_head?_append {run rest : Text} {c : Char} (hrun : run ≠ [])
    (h : c ∈ (run ++ rest).head?) : c ∈ run := by
  cases run with
  | nil => exact absurd rfl hrun
  | cons a run =>
      rw [List.cons_append, List.head?_cons, Option.mem_some_iff] at h
      exact h ▸ List.mem_cons_self

theorem forall_mem_ne {mark : Char} {t : Text} (h : mark ∉ t) :
    ∀ c ∈ t, decide (c ≠ mark) = true := by
  intro c hc
  simpa using fun heq : c = mark => h (heq ▸ hc)

theorem takeWhile_ne_append {mark : Char} {start : Text} (hstart : mark ∉ start)
    (rest : Text) : (start ++ mark :: rest).takeWhile (· ≠ mark) = start := by
  exact takeWhile_append_stop (forall_mem_ne hstart) (by simp)

theorem dropWhile_ne_append {mark : Char} {start : Text} (hstart : mark ∉ start)
    (rest : Text) : (start ++ mark :: rest).dropWhile (· ≠ mark) = mark :: rest := by
  exact dropWhile_append_stop (forall_mem_ne hstart) (by simp)

theorem untilFirst?_eq_some_iff {mark : Char} {t start : Text} :
    untilFirst? mark t = some start ↔
      ∃ rest, t = start ++ mark :: rest ∧ mark ∉ start := by
  unfold untilFirst?
  constructor
  · intro h
    split at h
    next hmem =>
      obtain ⟨before, rest, rfl, hbefore⟩ := List.eq_append_cons_of_mem hmem
      rw [takeWhile_ne_append hbefore, Option.some.injEq] at h
      subst h
      exact ⟨rest, rfl, hbefore⟩
    next => cases h
  · rintro ⟨rest, rfl, hstart⟩
    rw [if_pos (by simp), takeWhile_ne_append hstart]

theorem untilLast?_append {mark : Char} {rest : Text} (hrest : mark ∉ rest)
    (start : Text) : untilLast? mark (start ++ mark :: rest) = some start := by
  have hreverse : (start ++ mark :: rest).reverse =
      rest.reverse ++ mark :: start.reverse := by simp
  rw [untilLast?, if_pos (by simp), hreverse,
    dropWhile_ne_append (by simpa using hrest), List.tail_cons, List.reverse_reverse]

theorem untilLast?_eq_some_iff {mark : Char} {t start : Text} :
    untilLast? mark t = some start ↔
      ∃ rest, t = start ++ mark :: rest ∧ mark ∉ rest := by
  constructor
  · intro h
    by_cases hmem : mark ∈ t
    · -- the last mark of a text is the first one of the reversed text
      obtain ⟨after, before, hreverse, hafter⟩ :=
        List.eq_append_cons_of_mem (List.mem_reverse.2 hmem)
      have ht : t = before.reverse ++ mark :: after.reverse := by
        rw [← List.reverse_reverse t, hreverse]
        simp
      have hrest : mark ∉ after.reverse := by simpa using hafter
      rw [ht, untilLast?_append hrest, Option.some.injEq] at h
      exact ⟨after.reverse, by rw [ht, h], hrest⟩
    · rw [untilLast?, if_neg hmem] at h
      cases h
  · rintro ⟨rest, rfl, hrest⟩
    exact untilLast?_append hrest start

theorem append_singleton_eq {t start rest : Text} {c mark : Char} (hc : c ≠ mark)
    (h : t ++ [c] = start ++ mark :: rest) :
    ∃ rest', rest = rest' ++ [c] ∧ t = start ++ mark :: rest' := by
  rcases List.eq_nil_or_concat rest with rfl | ⟨rest', d, rfl⟩
  · exact absurd (List.append_inj_right' h rfl) (by simpa using hc)
  · have h' : t ++ [c] = (start ++ mark :: rest') ++ [d] := by simpa using h
    have hlast := List.append_inj_right' h' rfl
    rw [List.singleton_inj] at hlast
    exact ⟨rest', by simp [hlast], List.append_inj_left' h' rfl⟩

end Text

namespace Line

/-! ## Include directives -/

inductive Delimiters : Char → Char → Prop
  | quotes : Delimiters '"' '"'
  | brackets : Delimiters '<' '>'

/-- An optional `#`, the word `include` between whitespace, a path between
delimiters, and then anything. -/
inductive IncludeShape : Text → Text → Prop
  | intro {hash w₁ w₂ path rest : Text} {opening closing : Char}
      (hhash : hash = [] ∨ hash = ['#'])
      (hw₁ : ∀ c ∈ w₁, CharClass.space c = true)
      (hw₂ : ∀ c ∈ w₂, CharClass.space c = true)
      (hdelimiters : Delimiters opening closing) (hpath : closing ∉ path) :
      IncludeShape
        (hash ++ (w₁ ++ ("include".toList ++ (w₂ ++ opening :: (path ++ closing :: rest)))))
        path

theorem delimited?_eq_some_iff {t path : Text} :
    delimited? t = some path ↔
      ∃ opening closing rest, Delimiters opening closing ∧ closing ∉ path ∧
        t = opening :: (path ++ closing :: rest) := by
  constructor
  · intro h
    unfold delimited? at h
    split at h
    · obtain ⟨rest, rfl, hpath⟩ := Text.untilFirst?_eq_some_iff.1 h
      exact ⟨_, _, rest, .quotes, hpath, rfl⟩
    · obtain ⟨rest, rfl, hpath⟩ := Text.untilFirst?_eq_some_iff.1 h
      exact ⟨_, _, rest, .brackets, hpath, rfl⟩
    · cases h
  · rintro ⟨opening, closing, rest, hdelimiters, hpath, rfl⟩
    cases hdelimiters with
    | quotes => exact Text.untilFirst?_eq_some_iff.2 ⟨rest, rfl, hpath⟩
    | brackets => exact Text.untilFirst?_eq_some_iff.2 ⟨rest, rfl, hpath⟩

theorem eq_append_dropHash (line : Text) :
    ∃ hash, (hash = [] ∨ hash = ['#']) ∧ line = hash ++ dropHash line := by
  unfold dropHash
  split
  · exact ⟨['#'], Or.inr rfl, rfl⟩
  · exact ⟨[], Or.inl rfl, rfl⟩

theorem dropHash_append {hash body : Text} (hhash : hash = [] ∨ hash = ['#'])
    (hbody : body.head? ≠ some '#') : dropHash (hash ++ body) = body := by
  rcases hhash with rfl | rfl
  · cases body with
    | nil => rfl
    | cons c body =>
        rw [List.nil_append, dropHash]
        intro rest heq
        rw [heq] at hbody
        exact hbody rfl
  · rfl

theorem Delimiters.space_opening {opening closing : Char}
    (h : Delimiters opening closing) : CharClass.space opening = false := by
  cases h <;> decide

theorem Delimiters.return_ne_closing {opening closing : Char}
    (h : Delimiters opening closing) : '\r' ≠ closing := by
  cases h <;> decide

theorem includePath?_eq_some_iff {line path : Text} :
    includePath? line = some path ↔ IncludeShape line path := by
  constructor
  · intro h
    unfold includePath? at h
    obtain ⟨rest, hafter, hrest⟩ := Option.bind_eq_some_iff.1 h
    rw [Text.after?_eq_some_iff] at hafter
    obtain ⟨opening, closing, tail, hdelimiters, hpath, htail⟩ :=
      delimited?_eq_some_iff.1 hrest
    obtain ⟨hash, hhash, hline⟩ := eq_append_dropHash line
    rw [← List.takeWhile_append_dropWhile (p := CharClass.space) (l := dropHash line),
      hafter, ← List.takeWhile_append_dropWhile (p := CharClass.space) (l := rest),
      htail] at hline
    rw [hline]
    exact .intro hhash (fun c hc => List.mem_takeWhile_imp hc)
      (fun c hc => List.mem_takeWhile_imp hc) hdelimiters hpath
  · rintro @⟨hash, w₁, w₂, _, rest, opening, closing, hhash, hw₁, hw₂, hdelimiters, hpath⟩
    have hhead : ∀ t, (w₁ ++ ("include".toList ++ t)).head? ≠ some '#' := by
      intro t
      cases w₁ with
      | nil => simp
      | cons c w₁ =>
          have hc := hw₁ c List.mem_cons_self
          intro hhash
          rw [List.cons_append, List.head?_cons, Option.some.injEq] at hhash
          rw [hhash] at hc
          exact absurd hc (by decide)
    unfold includePath?
    rw [dropHash_append hhash (hhead _)]
    have hword : ∀ t, (w₁ ++ ("include".toList ++ t)).dropWhile CharClass.space =
        "include".toList ++ t :=
      fun t => Text.dropWhile_append_stop hw₁ (by simp; decide)
    rw [hword, Text.after?_eq_some_iff.2 rfl, Option.bind_eq_bind, Option.bind_some,
      Text.dropWhile_append_stop hw₂ (by simpa using hdelimiters.space_opening)]
    exact delimited?_eq_some_iff.2 ⟨opening, closing, rest, hdelimiters, hpath, rfl⟩

/-! ## Line markers -/

/-- `#`, a number and a quoted path set apart by ASCII whitespace, and then
anything.  The path has no LF and is the longest one: no double quote stands
between its end and the next LF. -/
inductive MarkerShape : Text → Text → Text → Prop
  | intro {w₁ digits w₂ path rest : Text}
      (hw₁ : w₁ ≠ [] ∧ ∀ c ∈ w₁, CharClass.asciiSpace c = true)
      (hdigits : digits ≠ [] ∧ ∀ c ∈ digits, c.isDigit = true)
      (hw₂ : w₂ ≠ [] ∧ ∀ c ∈ w₂, CharClass.asciiSpace c = true)
      (hpath : '\n' ∉ path) (hrest : '"' ∉ rest.takeWhile (· ≠ '\n')) :
      MarkerShape ('#' :: (w₁ ++ (digits ++ (w₂ ++ '"' :: (path ++ '"' :: rest)))))
        digits path

theorem afterBlanks?_eq_some {t rest : Text} (h : afterBlanks? t = some rest) :
    ∃ w, (w ≠ [] ∧ ∀ c ∈ w, CharClass.asciiSpace c = true) ∧ t = w ++ rest := by
  cases t with
  | nil => cases h
  | cons c t =>
      rw [afterBlanks?] at h
      split at h
      next hc =>
        rw [Option.some.injEq] at h
        refine ⟨(c :: t).takeWhile CharClass.asciiSpace, ⟨?_, ?_⟩, ?_⟩
        · rw [List.takeWhile_cons, if_pos hc]
          simp
        · exact fun d hd => List.mem_takeWhile_imp hd
        · rw [← h, List.takeWhile_append_dropWhile]
      next => cases h

theorem afterBlanks?_append {w rest : Text}
    (hw : w ≠ [] ∧ ∀ c ∈ w, CharClass.asciiSpace c = true)
    (hrest : ∀ c ∈ rest.head?, CharClass.asciiSpace c = false) :
    afterBlanks? (w ++ rest) = some rest := by
  cases w with
  | nil => exact absurd rfl hw.1
  | cons a w =>
      rw [List.cons_append, afterBlanks?, if_pos (hw.2 a List.mem_cons_self),
        ← List.cons_append, Text.dropWhile_append_stop hw.2 hrest]

theorem space_of_asciiSpace {c : Char} (h : CharClass.asciiSpace c = true) :
    CharClass.space c = true := by
  simp only [CharClass.asciiSpace, Bool.or_eq_true, Bool.and_eq_true, decide_eq_true_eq,
    beq_iff_eq] at h
  simp only [CharClass.space, CharClass.inRanges, List.any_cons, List.any_nil,
    Bool.or_eq_true, Bool.and_eq_true, decide_eq_true_eq]
  omega

theorem space_of_isDigit {c : Char} (h : c.isDigit = true) : CharClass.space c = false := by
  have hc : 48 ≤ c.toNat ∧ c.toNat ≤ 57 := Char.isDigit_iff_toNat.1 h
  simp only [CharClass.space, CharClass.inRanges, List.any_cons, List.any_nil,
    Bool.or_eq_false_iff, Bool.and_eq_false_iff, decide_eq_false_iff_not, and_true]
  omega

theorem not_asciiSpace_and_isDigit (c : Char) :
    ¬ (CharClass.asciiSpace c = true ∧ c.isDigit = true) := by
  rintro ⟨hspace, hdigit⟩
  have hfalse := space_of_isDigit hdigit
  rw [space_of_asciiSpace hspace] at hfalse
  cases hfalse

theorem isDigit_of_asciiSpace {c : Char} (h : CharClass.asciiSpace c = true) :
    c.isDigit = false := by
  simpa [h] using not_asciiSpace_and_isDigit c

theorem asciiSpace_of_isDigit {c : Char} (h : c.isDigit = true) :
    CharClass.asciiSpace c = false := by
  simpa [h] using not_asciiSpace_and_isDigit c

theorem untilLast?_takeWhile_eq_some_iff {t path : Text} :
    Text.untilLast? '"' (t.takeWhile (· ≠ '\n')) = some path ↔
      ∃ rest, t = path ++ '"' :: rest ∧ '\n' ∉ path ∧
        '"' ∉ rest.takeWhile (· ≠ '\n') := by
  have htake : ∀ {path : Text} (rest : Text), '\n' ∉ path →
      (path ++ '"' :: rest).takeWhile (· ≠ '\n') =
        path ++ '"' :: rest.takeWhile (· ≠ '\n') := by
    intro path rest hpath
    rw [List.takeWhile_append_of_pos (Text.forall_mem_ne hpath), List.takeWhile_cons]
    simp
  rw [Text.untilLast?_eq_some_iff]
  constructor
  · rintro ⟨tail, hline, htail⟩
    have hpath : '\n' ∉ path := by
      intro hmem
      have hmem' : '\n' ∈ t.takeWhile (· ≠ '\n') := by
        rw [hline]
        exact List.mem_append_left _ hmem
      simpa using List.mem_takeWhile_imp hmem'
    have ht := List.takeWhile_append_dropWhile (p := fun c => decide (c ≠ '\n')) (l := t)
    rw [hline, List.append_assoc, List.cons_append] at ht
    refine ⟨_, ht.symm, hpath, ?_⟩
    rw [← ht, htake _ hpath] at hline
    rw [(List.cons.inj (List.append_cancel_left hline)).2]
    exact htail
  · rintro ⟨rest, rfl, hpath, hrest⟩
    exact ⟨_, htake rest hpath, hrest⟩

theorem markerFields?_eq_some_iff {line digits path : Text} :
    markerFields? line = some (digits, path) ↔ MarkerShape line digits path := by
  constructor
  · intro h
    unfold markerFields? at h
    obtain ⟨rest₁, hhash, h⟩ := Option.bind_eq_some_iff.1 h
    obtain ⟨rest₂, hblanks₁, h⟩ := Option.bind_eq_some_iff.1 h
    obtain ⟨_, hguard, h⟩ := Option.bind_eq_some_iff.1 h
    obtain ⟨rest₃, hblanks₂, h⟩ := Option.bind_eq_some_iff.1 h
    obtain ⟨rest₄, hquote, h⟩ := Option.bind_eq_some_iff.1 h
    obtain ⟨path', hpath', h⟩ := Option.bind_eq_some_iff.1 h
    obtain ⟨hdigits, rfl⟩ : rest₂.takeWhile Char.isDigit = digits ∧ path' = path := by
      simpa using h
    have hne : digits ≠ [] := by
      rw [← hdigits]
      exact (Option.guard_eq_some' _).1 hguard
    obtain ⟨w₁, hw₁, hrest₁⟩ := afterBlanks?_eq_some hblanks₁
    obtain ⟨w₂, hw₂, hrest₃⟩ := afterBlanks?_eq_some hblanks₂
    obtain ⟨rest, hrest₄, hpath, hrest⟩ := untilLast?_takeWhile_eq_some_iff.1 hpath'
    have hrest₂ := List.takeWhile_append_dropWhile (p := Char.isDigit) (l := rest₂)
    rw [Text.after?_eq_some_iff] at hhash hquote
    rw [hhash, hrest₁, ← hrest₂, hrest₃, hquote, hrest₄, hdigits]
    refine .intro hw₁ ⟨hne, ?_⟩ hw₂ hpath hrest
    intro c hc
    rw [← hdigits] at hc
    exact List.mem_takeWhile_imp hc
  · rintro @⟨w₁, _, w₂, _, rest, hw₁, hdigits, hw₂, hpath, hrest⟩
    unfold markerFields?
    have hblanks₁ : ∀ t, afterBlanks? (w₁ ++ (digits ++ t)) = some (digits ++ t) :=
      fun t => afterBlanks?_append hw₁ fun c hc =>
        asciiSpace_of_isDigit (hdigits.2 c (Text.mem_of_mem_head?_append hdigits.1 hc))
    have hstop : ∀ t, ∀ c ∈ (w₂ ++ t).head?, c.isDigit = false :=
      fun t c hc => isDigit_of_asciiSpace
        (hw₂.2 c (Text.mem_of_mem_head?_append hw₂.1 hc))
    have hblanks₂ : ∀ t, afterBlanks? (w₂ ++ '"' :: t) = some ('"' :: t) :=
      fun t => afterBlanks?_append hw₂ (by simp; decide)
    have hlast := untilLast?_takeWhile_eq_some_iff.2 ⟨rest, rfl, hpath, hrest⟩
    have hhash : ∀ t, Text.after? ['#'] ('#' :: t) = some t :=
      fun t => Text.after?_eq_some_iff.2 rfl
    have hquote : ∀ t, Text.after? ['"'] ('"' :: t) = some t :=
      fun t => Text.after?_eq_some_iff.2 rfl
    simp only [Option.bind_eq_bind, Option.bind_some, hhash, hblanks₁,
      Text.takeWhile_append_stop hdigits.2 (hstop _),
      Text.dropWhile_append_stop hdigits.2 (hstop _), hblanks₂,
      (Option.guard_eq_some' ()).2 hdigits.1, hquote, hlast]
    rfl

/-- No line has both shapes: a digit stands where the word `include` would. -/
theorem includePath?_of_markerShape {line digits path : Text}
    (h : MarkerShape line digits path) : includePath? line = none := by
  obtain @⟨w₁, _, w₂, _, rest, hw₁, ⟨hne, hdigits⟩, -, -, -⟩ := h
  obtain ⟨d, ds, rfl⟩ := List.exists_cons_of_ne_nil hne
  have hd := hdigits d List.mem_cons_self
  have hword : ∀ t, Text.after? "include".toList (d :: t) = none := by
    intro t
    rw [Option.eq_none_iff_forall_ne_some]
    intro rest hrest
    rw [Text.after?_eq_some_iff] at hrest
    cases hrest
    cases hd
  unfold includePath?
  rw [dropHash, Text.dropWhile_append_stop (fun c hc => space_of_asciiSpace (hw₁.2 c hc))
    (by simpa using space_of_isDigit hd), List.cons_append, hword]
  rfl

/-! ## A carriage return at the end -/

theorem includeShape_append_return {line path : Text} :
    IncludeShape (line ++ ['\r']) path ↔ IncludeShape line path := by
  constructor
  · intro h
    generalize hline : line ++ ['\r'] = full at h
    obtain @⟨hash, w₁, w₂, _, rest, opening, closing, hhash, hw₁, hw₂, hdelimiters, hpath⟩ := h
    have hfull : line ++ ['\r'] =
        (hash ++ w₁ ++ "include".toList ++ w₂ ++ opening :: path) ++ closing :: rest := by
      simpa using hline
    obtain ⟨rest', -, rfl⟩ :=
      Text.append_singleton_eq hdelimiters.return_ne_closing hfull
    have hshape : IncludeShape (hash ++ (w₁ ++ ("include".toList ++
        (w₂ ++ opening :: (path ++ closing :: rest'))))) path :=
      .intro hhash hw₁ hw₂ hdelimiters hpath
    simpa using hshape
  · rintro @⟨hash, w₁, w₂, _, rest, opening, closing, hhash, hw₁, hw₂, hdelimiters, hpath⟩
    have hshape : IncludeShape (hash ++ (w₁ ++ ("include".toList ++
        (w₂ ++ opening :: (path ++ closing :: (rest ++ ['\r'])))))) path :=
      .intro hhash hw₁ hw₂ hdelimiters hpath
    simpa using hshape

theorem mem_takeWhile_append_return {rest : Text} :
    '"' ∈ (rest ++ ['\r']).takeWhile (· ≠ '\n') ↔ '"' ∈ rest.takeWhile (· ≠ '\n') := by
  rw [List.takeWhile_append]
  split
  next hlength =>
    rw [(List.takeWhile_prefix _).eq_of_length hlength]
    simp
  next => rfl

theorem markerShape_append_return {line digits path : Text} :
    MarkerShape (line ++ ['\r']) digits path ↔ MarkerShape line digits path := by
  constructor
  · intro h
    generalize hline : line ++ ['\r'] = full at h
    obtain @⟨w₁, _, w₂, _, rest, hw₁, hdigits, hw₂, hpath, hrest⟩ := h
    have hfull : line ++ ['\r'] =
        ('#' :: w₁ ++ digits ++ w₂ ++ '"' :: path) ++ '"' :: rest := by
      simpa using hline
    obtain ⟨rest', rfl, rfl⟩ := Text.append_singleton_eq (by decide) hfull
    rw [mem_takeWhile_append_return] at hrest
    simpa using MarkerShape.intro hw₁ hdigits hw₂ hpath hrest
  · rintro @⟨w₁, _, w₂, _, rest, hw₁, hdigits, hw₂, hpath, hrest⟩
    rw [← mem_takeWhile_append_return] at hrest
    simpa using MarkerShape.intro hw₁ hdigits hw₂ hpath hrest

theorem includePath?_append_return (line : Text) :
    includePath? (line ++ ['\r']) = includePath? line := by
  apply Option.ext
  intro path
  rw [includePath?_eq_some_iff, includePath?_eq_some_iff, includeShape_append_return]

theorem markerFields?_append_return (line : Text) :
    markerFields? (line ++ ['\r']) = markerFields? line := by
  apply Option.ext
  rintro ⟨digits, path⟩
  rw [markerFields?_eq_some_iff, markerFields?_eq_some_iff, markerShape_append_return]

end Line

end UnitReducer
