import UnitReducer.Proofs.RetentionRule
/-!
# Reading a reduced text again

The text of a reduction is read back as the lines that stayed, each of them with
one CR less at its end at most (`reduced_text_restates_lines`).  Markers and
contexts survive, so no further line can be dropped and a second reduction only
normalises line breaks (`reduce_reduced_text`).
-/

namespace UnitReducer

/-! ## Fates of the lines that stay -/

namespace Reduction

theorem retained_cons (line : Line) (f : Fate) (judged : List (Line × Fate)) :
    retained ((line, f) :: judged) =
      if f = .kept then line :: retained judged else retained judged := by
  unfold retained
  by_cases hf : f = .kept <;> simp [hf]

theorem entered?_of_fate_ne_kept {headers : List Text} {inSystem : Bool} {line : Line}
    (h : fate headers inSystem line ≠ .kept) : line.entered? = none := by
  cases line with
  | marker number path text => exact absurd rfl h
  | included path text => rfl
  | other text => rfl

theorem filterMap_retained_fates {β : Type} {f : Line → Option β}
    (hf : ∀ line, line.entered? = none → f line = none) (isSystem : Text → Bool)
    (headers : List Text) (inSystem : Bool) (lines : List Line) :
    (retained (fates isSystem headers inSystem lines)).filterMap f = lines.filterMap f := by
  induction lines generalizing inSystem with
  | nil => rfl
  | cons line lines ih =>
      rw [fates, retained_cons]
      by_cases hfate : fate headers inSystem line = .kept
      · rw [if_pos hfate, List.filterMap_cons, List.filterMap_cons, ih]
      · have hnone := hf line (entered?_of_fate_ne_kept hfate)
        rw [if_neg hfate, List.filterMap_cons_none hnone, ih]

@[simp] theorem fate_dropReturn (headers : List Text) (inSystem : Bool) (line : Line) :
    fate headers inSystem line.dropReturn = fate headers inSystem line := by
  cases line <;> rfl

@[simp] theorem inSystemAfter_dropReturn (isSystem : Text → Bool) (inSystem : Bool)
    (line : Line) :
    inSystemAfter isSystem inSystem line.dropReturn =
      inSystemAfter isSystem inSystem line := by
  unfold inSystemAfter
  rw [Line.entered?_dropReturn]

theorem inSystemAfter_of_fate_ne_kept {headers : List Text} {inSystem : Bool}
    {line : Line} (isSystem : Text → Bool) (h : fate headers inSystem line ≠ .kept) :
    inSystemAfter isSystem inSystem line = inSystem := by
  unfold inSystemAfter
  rw [entered?_of_fate_ne_kept h]

/-- Dropped lines can be left out of a walk: they change no context, so every other
line meets the same fate without them. -/
theorem fates_filter_fates {p : Fate → Bool} (hp : p .kept = true) (isSystem : Text → Bool)
    (headers : List Text) (inSystem : Bool) (lines : List Line) :
    fates isSystem headers inSystem
        (((fates isSystem headers inSystem lines).filter fun x => p x.2).map Prod.fst) =
      (fates isSystem headers inSystem lines).filter fun x => p x.2 := by
  induction lines generalizing inSystem with
  | nil => rfl
  | cons line lines ih =>
      rw [fates, List.filter_cons]
      by_cases hfate : p (fate headers inSystem line) = true
      · rw [if_pos hfate, List.map_cons, fates, ih]
      · have hdropped : fate headers inSystem line ≠ .kept := by
          intro hkept
          rw [hkept] at hfate
          exact hfate hp
        rw [if_neg hfate, inSystemAfter_of_fate_ne_kept isSystem hdropped, ih]

theorem fates_map_dropReturn (isSystem : Text → Bool) (headers : List Text)
    (inSystem : Bool) (lines : List Line) :
    fates isSystem headers inSystem (lines.map Line.dropReturn) =
      (fates isSystem headers inSystem lines).map fun x => (x.1.dropReturn, x.2) := by
  induction lines generalizing inSystem with
  | nil => rfl
  | cons line lines ih =>
      rw [List.map_cons, fates, fate_dropReturn, inSystemAfter_dropReturn, ih, fates,
        List.map_cons]

theorem fates_retained_fates (isSystem : Text → Bool) (headers : List Text)
    (inSystem : Bool) (lines : List Line) :
    fates isSystem headers inSystem
        ((retained (fates isSystem headers inSystem lines)).map Line.dropReturn) =
      (retained (fates isSystem headers inSystem lines)).map
        fun line => (line.dropReturn, .kept) := by
  rw [fates_map_dropReturn, retained, fates_filter_fates (p := (· = .kept)) rfl,
    List.map_map]
  apply List.map_congr_left
  rintro ⟨line, f⟩ hx
  have hkept : f = .kept := by simpa using (List.mem_filter.1 hx).2
  rw [hkept]
  rfl

theorem keptLines_eq_retained_fates (isSystem : Text → Bool) (expanded : List Text)
    (lines : List Line) :
    keptLines isSystem expanded lines =
      retained (fates isSystem (localHeaders isSystem expanded) false lines) := by
  rw [← retained_judge, judge_eq_fates]

theorem map_fst_filter_zipIdx_sublist (p : Line × Nat → Bool) (lines : List Line) :
    ((lines.zipIdx.filter p).map Prod.fst).Sublist lines := by
  have hsub := (List.filter_sublist (p := p) (l := lines.zipIdx)).map Prod.fst
  rwa [List.zipIdx_map_fst] at hsub

theorem keptLines_sublist (isSystem : Text → Bool) (expanded : List Text)
    (lines : List Line) : (keptLines isSystem expanded lines).Sublist lines :=
  map_fst_filter_zipIdx_sublist _ lines

/-! ## A reduction and its lines -/

theorem retained_report (isSystem : Text → Bool) (expanded : List Text)
    (lines : List Line) :
    (report isSystem expanded lines).retained =
      (keptLines isSystem expanded lines).length := by
  rw [← retained_judge]
  rfl

theorem retained_map_kept (lines : List Line) :
    retained (lines.map fun line => (line, .kept)) = lines := by
  simp [retained, List.filter_map, Function.comp_def]

theorem report_of_fates_kept {isSystem : Text → Bool} {expanded : List Text}
    {lines : List Line}
    (h : fates isSystem (localHeaders isSystem expanded) false lines =
      lines.map fun line => (line, .kept)) :
    report isSystem expanded lines =
      ⟨lines.length, lines.length, 0, 0, 0, (distinct expanded).length⟩ := by
  have hcount : ∀ f, f ≠ .kept → countOf f (lines.map fun line => (line, .kept)) = 0 := by
    intro f hf
    simp [countOf, List.countP_map, Function.comp_def, hf.symm]
  unfold report
  simp only [judge_eq_fates, h, retained_map_kept, hcount .systemLine (by decide),
    hcount .systemInclude (by decide), hcount .redundantInclude (by decide)]

section

variable {source : Text} {lines : List Line}

theorem classify_render_of_mem (hlines : Line.classifyAll source.lines = .ok lines)
    {line : Line} (hline : line ∈ lines) :
    line.render ∈ source.lines ∧ Line.classify none line.render = .ok line := by
  have hrender := Line.map_render_of_classifyAll hlines
  rw [Line.classifyAll_eq_ok_iff, ← hrender, List.forall₂_map_left_iff,
    List.forall₂_same] at hlines
  refine ⟨?_, hlines line hline⟩
  rw [← hrender]
  exact List.mem_map_of_mem hline

variable (isSystem : Text → Bool) (expanded : List Text)

theorem newline_not_mem_render_keptLines
    (hlines : Line.classifyAll source.lines = .ok lines) :
    ∀ l ∈ (keptLines isSystem expanded lines).map Line.render, '\n' ∉ l := by
  intro l hl
  obtain ⟨line, hline, rfl⟩ := List.mem_map.1 hl
  have hmem := (keptLines_sublist isSystem expanded lines).subset hline
  exact Text.newline_not_mem_of_mem_lines (classify_render_of_mem hlines hmem).1

theorem lines_reconstruct (hlines : Line.classifyAll source.lines = .ok lines) :
    Text.lines (reconstruct isSystem expanded lines) =
      (keptLines isSystem expanded lines).map
        fun line => Text.dropCarriageReturn line.render := by
  rw [reconstruct_eq_unlines,
    Text.lines_unlines (newline_not_mem_render_keptLines isSystem expanded hlines),
    List.map_map]
  rfl

theorem classifyAll_reconstruct (hlines : Line.classifyAll source.lines = .ok lines) :
    Line.classifyAll (Text.lines (reconstruct isSystem expanded lines)) =
      .ok ((keptLines isSystem expanded lines).map Line.dropReturn) := by
  rw [lines_reconstruct isSystem expanded hlines, Line.classifyAll_eq_ok_iff,
    List.forall₂_map_left_iff, List.forall₂_map_right_iff, List.forall₂_same]
  intro line hline
  have hmem := (keptLines_sublist isSystem expanded lines).subset hline
  exact Line.classify_dropCarriageReturn (classify_render_of_mem hlines hmem).2

end

theorem filterMap_keptLines {β : Type} {f : Line → Option β}
    (hf : ∀ line, line.entered? = none → f line = none) (isSystem : Text → Bool)
    (expanded : List Text) (lines : List Line) :
    (keptLines isSystem expanded lines).filterMap f = lines.filterMap f := by
  rw [keptLines_eq_retained_fates, filterMap_retained_fates hf]

theorem filterMap_map_dropReturn {β : Type} {f : Line → Option β}
    (hf : ∀ line : Line, f line.dropReturn = f line) (lines : List Line) :
    (lines.map Line.dropReturn).filterMap f = lines.filterMap f := by
  rw [List.filterMap_map]
  apply List.filterMap_congr
  intro line _
  exact hf line

theorem expansions_reread (isSystem : Text → Bool) (expanded : List Text)
    (lines : List Line) :
    expansions ((keptLines isSystem expanded lines).map Line.dropReturn) =
      expansions lines := by
  unfold expansions
  rw [filterMap_map_dropReturn Line.entered?_dropReturn,
    filterMap_keptLines fun _ h => h]

end Reduction

/-! ## The directives of a reduced text -/

namespace Line

def entry? : Line → Option (Nat × Text)
  | .marker number path _ => some (number, path)
  | _ => none

/-- `line` says what `original` says; of a body line one CR at the end may be
missing. -/
def Restates (line original : Line) : Prop :=
  line.agrees original = true ∨
    ∃ text, line = .other text ∧ original = .other (text ++ ['\r'])

theorem restates_dropReturn (line : Line) : line.dropReturn.Restates line := by
  cases line with
  | included path text => exact Or.inl (by simp [dropReturn, agrees])
  | marker number path text => exact Or.inl (by simp [dropReturn, agrees])
  | other text =>
      by_cases hlast : text.getLast? = some '\r'
      · refine Or.inr ⟨Text.dropCarriageReturn text, rfl, ?_⟩
        rw [← Text.eq_append_return hlast]
      · refine Or.inl ?_
        rw [dropReturn, Text.dropCarriageReturn_of_ne hlast]
        simp [agrees]

theorem entry?_of_entered? {line : Line} (h : line.entered? = none) :
    line.entry? = none := by
  cases line with
  | marker number path text => cases h
  | included path text => rfl
  | other text => rfl

theorem entry?_dropReturn (line : Line) : line.dropReturn.entry? = line.entry? := by
  cases line <;> rfl

end Line

namespace Reduction

/-- A reduced text is in the grammar of the source: it is read back as the lines
that stayed, and all markers are among them. -/
theorem reduced_text_restates_lines {isSystem : Text → Bool} {source text : Text}
    {r : Report} (h : reduce isSystem source = .ok (text, r)) :
    ∃ lines kept reread,
      Line.classifyAll source.lines = .ok lines ∧
      kept = keptLines isSystem (expansions lines) lines ∧
      text = Text.unlines (kept.map Line.render) ∧
      Line.classifyAll text.lines = .ok reread ∧
      text.lines.length = r.retained ∧
      List.Forall₂ Line.Restates reread kept ∧
      reread.filterMap Line.entry? = lines.filterMap Line.entry? ∧
      expansions reread = expansions lines := by
  obtain ⟨lines, hlines, rfl, rfl⟩ := reduce_eq_ok_iff.1 h
  refine ⟨lines, _, _, hlines, rfl, ?_, classifyAll_reconstruct isSystem _ hlines,
    ?_, ?_, ?_, ?_⟩
  · exact reconstruct_eq_unlines isSystem _ lines
  · rw [lines_reconstruct isSystem _ hlines, List.length_map, retained_report]
  · rw [List.forall₂_map_left_iff, List.forall₂_same]
    intro line _
    exact line.restates_dropReturn
  · rw [filterMap_map_dropReturn Line.entry?_dropReturn,
      filterMap_keptLines fun _ => Line.entry?_of_entered?]
  · exact expansions_reread isSystem _ lines

theorem reduced_text_restates_lines_returns :
    ∃ (source text : Text) (r : Report) (lines kept reread : List Line),
      source = "# 7 \"/usr/b.h\"\r\r\nint b;\n# 1 \"a.c\"\nint a;\r\r\n#include <c.h>\r".toList ∧
      text = "# 7 \"/usr/b.h\"\r\n# 1 \"a.c\"\nint a;\r\n#include <c.h>\n".toList ∧
      reduce (Header.underRoots Header.defaultRoots) source = .ok (text, r) ∧
      Line.classifyAll source.lines = .ok lines ∧
      kept = keptLines (Header.underRoots Header.defaultRoots) (expansions lines) lines ∧
      text = Text.unlines (kept.map Line.render) ∧
      Line.classifyAll text.lines = .ok reread ∧
      text.lines.length = r.retained ∧
      List.Forall₂ Line.Restates reread kept ∧
      reread.filterMap Line.entry? = lines.filterMap Line.entry? ∧
      expansions reread = expansions lines := by
  have h : reduce (Header.underRoots Header.defaultRoots)
      "# 7 \"/usr/b.h\"\r\r\nint b;\n# 1 \"a.c\"\nint a;\r\r\n#include <c.h>\r".toList =
        .ok ("# 7 \"/usr/b.h\"\r\n# 1 \"a.c\"\nint a;\r\n#include <c.h>\n".toList,
          ⟨5, 4, 1, 0, 0, 2⟩) := by
    decide +kernel
  obtain ⟨lines, kept, reread, hreread⟩ := reduced_text_restates_lines h
  exact ⟨_, _, _, lines, kept, reread, rfl, rfl, h, hreread⟩

/-! ## A second reduction -/

theorem fates_reread (isSystem : Text → Bool) (expanded : List Text) (lines : List Line) :
    fates isSystem (localHeaders isSystem expanded) false
        ((keptLines isSystem expanded lines).map Line.dropReturn) =
      ((keptLines isSystem expanded lines).map Line.dropReturn).map
        fun line => (line, .kept) := by
  rw [keptLines_eq_retained_fates, fates_retained_fates, List.map_map]
  rfl

theorem reconstruct_of_fates_kept {isSystem : Text → Bool} {expanded : List Text}
    {lines : List Line}
    (h : fates isSystem (localHeaders isSystem expanded) false lines =
      lines.map fun line => (line, .kept)) :
    reconstruct isSystem expanded lines = Text.unlines (lines.map Line.render) := by
  simp only [reconstruct, judge_eq_fates, h, retained_map_kept]

theorem render_dropReturn_of_mem {source : Text} {lines : List Line}
    (hlines : Line.classifyAll source.lines = .ok lines) {line : Line}
    (hline : line ∈ lines) :
    line.dropReturn.render = Text.dropCarriageReturn line.render := by
  exact Line.render_of_classify
    (Line.classify_dropCarriageReturn (classify_render_of_mem hlines hline).2)

/-- A second reduction drops no line.  It takes one CR from the end of every line
that has one, so it changes nothing exactly when no line ends with CR. -/
theorem reduce_reduced_text {isSystem : Text → Bool} {source text : Text} {r : Report}
    (h : reduce isSystem source = .ok (text, r)) :
    reduce isSystem text =
        .ok (text.normalizeBreaks, ⟨r.retained, r.retained, 0, 0, 0, r.expandedHeaders⟩) ∧
      ((reduce isSystem text).map Prod.fst = .ok text ↔
        ∀ line ∈ text.split '\n', line.getLast? ≠ some '\r') ∧
      ((∀ line ∈ source.split '\n', ¬ ['\r', '\r'] <:+ line) →
        ∀ line ∈ text.split '\n', line.getLast? ≠ some '\r') := by
  obtain ⟨lines, hlines, rfl, rfl⟩ := reduce_eq_ok_iff.1 h
  let kept := keptLines isSystem (expansions lines) lines
  have hnewline := newline_not_mem_render_keptLines isSystem (expansions lines) hlines
  have htext := reconstruct_eq_unlines isSystem (expansions lines) lines
  have hexpansions := expansions_reread isSystem (expansions lines) lines
  have hfates := fates_reread isSystem (expansions lines) lines
  have hagain : reduce isSystem (reconstruct isSystem (expansions lines) lines) =
      .ok ((reconstruct isSystem (expansions lines) lines).normalizeBreaks,
        ⟨kept.length, kept.length, 0, 0, 0, (distinct (expansions lines)).length⟩) := by
    refine reduce_eq_ok_iff.2 ⟨_, classifyAll_reconstruct isSystem _ hlines, ?_, ?_⟩
    · rw [hexpansions, reconstruct_of_fates_kept hfates, htext,
        Text.normalizeBreaks_unlines hnewline, List.map_map, List.map_map]
      apply congrArg
      apply List.map_congr_left
      intro line hline
      have hmem := (keptLines_sublist isSystem _ lines).subset hline
      exact (render_dropReturn_of_mem hlines hmem).symm
    · rw [hexpansions, report_of_fates_kept hfates, List.length_map]
  refine ⟨?_, ?_, ?_⟩
  · rw [hagain, retained_report]
    rfl
  · rw [hagain, htext, ← Text.normalizeBreaks_unlines_eq_self_iff hnewline]
    rw [Except.map, Except.ok.injEq]
  · intro hsource line hline hlast
    rw [htext, Text.split_unlines hnewline, List.mem_append, List.mem_singleton] at hline
    rcases hline with hline | rfl
    · obtain ⟨l, hl, rfl⟩ := List.mem_map.1 hline
      have hmem := (keptLines_sublist isSystem _ lines).subset hl
      obtain ⟨raw, hraw, hreturns⟩ :=
        Text.returns_suffix_of_mem_lines (classify_render_of_mem hlines hmem).1 hlast
      exact hsource raw hraw hreturns
    · cases hlast

theorem reduce_reduced_text_returns :
    (∃ (text : Text) (r : Report),
      reduce (Header.underRoots Header.defaultRoots)
        "# 7 \"/usr/b.h\"\nint b;\n# 1 \"a.c\"\nint a;\r\r\n".toList = .ok (text, r) ∧
      text.getLast? = some '\n' ∧ text.normalizeBreaks ≠ text ∧
      reduce (Header.underRoots Header.defaultRoots) text =
        .ok (text.normalizeBreaks,
          ⟨r.retained, r.retained, 0, 0, 0, r.expandedHeaders⟩)) ∧
    ∃ (text : Text) (r : Report),
      reduce (Header.underRoots Header.defaultRoots)
        "# 1 \"a.c\"\r\nint a;\r\n#include \"a.c\"\r\n".toList = .ok (text, r) ∧
      (reduce (Header.underRoots Header.defaultRoots) text).map Prod.fst = .ok text := by
  have htwo : reduce (Header.underRoots Header.defaultRoots)
      "# 7 \"/usr/b.h\"\nint b;\n# 1 \"a.c\"\nint a;\r\r\n".toList =
        .ok ("# 7 \"/usr/b.h\"\n# 1 \"a.c\"\nint a;\r\n".toList, ⟨4, 3, 1, 0, 0, 2⟩) := by
    decide +kernel
  have hone : reduce (Header.underRoots Header.defaultRoots)
      "# 1 \"a.c\"\r\nint a;\r\n#include \"a.c\"\r\n".toList =
        .ok ("# 1 \"a.c\"\nint a;\n".toList, ⟨3, 2, 0, 0, 1, 1⟩) := by
    decide +kernel
  have hreturns := (reduce_reduced_text hone).2.2 (by decide +kernel)
  exact ⟨⟨_, _, htwo, by decide +kernel, by decide +kernel, (reduce_reduced_text htwo).1⟩,
    _, _, hone, (reduce_reduced_text hone).2.1.2 hreturns⟩

end Reduction

end UnitReducer
