import UnitReducer.Proofs.MarkerBlocks
import Mathlib.Data.List.Perm.Subperm
import Mathlib.Data.Set.Card
/-!
# Accounting for lines

Every line of a unit meets one fate, so the counters of a report add up to all of
its lines.  The retained ones are the lines of the reduced text, and they are not
fewer than the headers that the unit enters (`report_accounts_for_lines`).  A
reduction that drops nothing gives the source with normal line breaks
(`breaks_are_normalized`).
-/

namespace UnitReducer

/-! ## Counting fates -/

namespace Reduction

theorem length_eq_sum_countOf (judged : List (Line × Fate)) :
    judged.length = countOf .kept judged + countOf .systemLine judged +
      countOf .systemInclude judged + countOf .redundantInclude judged := by
  induction judged with
  | nil => rfl
  | cons x judged ih =>
      obtain ⟨line, f⟩ := x
      simp only [countOf, List.countP_cons, List.length_cons] at ih ⊢
      cases f <;> simp only [reduceCtorEq, decide_true, decide_false, Bool.false_eq_true,
        if_true, if_false] <;> omega

theorem length_retained (judged : List (Line × Fate)) :
    (retained judged).length = countOf .kept judged := by
  rw [retained, List.length_map, countOf, List.countP_eq_length_filter]

theorem total_report (isSystem : Text → Bool) (expanded : List Text) (lines : List Line) :
    (report isSystem expanded lines).total =
      (report isSystem expanded lines).retained +
        (report isSystem expanded lines).systemLines +
        (report isSystem expanded lines).systemIncludes +
        (report isSystem expanded lines).redundantIncludes := by
  have hsum := length_eq_sum_countOf
    (judge isSystem (localHeaders isSystem expanded) .start lines)
  rw [← length_retained, ← List.length_map, map_fst_judge] at hsum
  exact hsum

/-! ## Lines of the reduced text -/

theorem count_reconstruct {source : Text} {lines : List Line}
    (hlines : Line.classifyAll source.lines = .ok lines) (isSystem : Text → Bool)
    (expanded : List Text) :
    (reconstruct isSystem expanded lines).count '\n' =
      (report isSystem expanded lines).retained := by
  rw [reconstruct_eq_unlines,
    Text.count_unlines (newline_not_mem_render_keptLines isSystem expanded hlines),
    List.length_map, retained_report]

/-! ## Headers -/

/-- The paths that the markers of a text enter. -/
def markerPaths (source : Text) : Set Text :=
  {path | ∃ line ∈ source.lines, ∃ digits, Line.LongestReading line digits path}

theorem mem_expansions_iff_mem_markerPaths {source : Text} {lines : List Line}
    (hlines : Line.classifyAll source.lines = .ok lines) {path : Text} :
    path ∈ expansions lines ↔ path ∈ markerPaths source := by
  have hrender := Line.map_render_of_classifyAll hlines
  rw [mem_expansions]
  constructor
  · rintro ⟨line, hline, hentered⟩
    obtain ⟨hmem, hclassify⟩ := classify_render_of_mem hlines hline
    cases line with
    | included path' text => cases hentered
    | other text => cases hentered
    | marker number path' text =>
        obtain rfl : path' = path := Option.some.inj hentered
        obtain ⟨digits, hreading, -⟩ := Line.classify_eq_marker_iff.1 hclassify
        exact ⟨_, hmem, digits, hreading⟩
  · rintro ⟨text, htext, digits, hreading⟩
    rw [← hrender, List.mem_map] at htext
    obtain ⟨line, hline, rfl⟩ := htext
    have hclassify := (classify_render_of_mem hlines hline).2
    refine ⟨line, hline, ?_⟩
    -- the line was accepted, so its number could be used
    obtain ⟨number, path', text', rfl⟩ :=
      Line.exists_marker_of_reading hreading.reading hclassify
    obtain ⟨digits', hreading', -⟩ := Line.classify_eq_marker_iff.1 hclassify
    have hshape := Line.markerShape_iff_longestReading.2 hreading
    have hshape' := Line.markerShape_iff_longestReading.2 hreading'
    rw [Line.entered?, (hshape.unique hshape').2]

theorem expandedHeaders_report {source : Text} {lines : List Line}
    (hlines : Line.classifyAll source.lines = .ok lines) (isSystem : Text → Bool) :
    (report isSystem (expansions lines) lines).expandedHeaders =
      (markerPaths source).ncard := by
  have hpaths : markerPaths source = ((distinct (expansions lines)).toFinset : Set Text) := by
    ext path
    rw [List.coe_toFinset, Set.mem_ofPred_eq, mem_distinct,
      mem_expansions_iff_mem_markerPaths hlines]
  rw [hpaths, Set.ncard_coe_finset, List.toFinset_card_of_nodup (nodup_distinct _)]
  rfl

theorem expandedHeaders_le_retained (isSystem : Text → Bool) (lines : List Line) :
    (report isSystem (expansions lines) lines).expandedHeaders ≤
      (report isSystem (expansions lines) lines).retained := by
  have hsubset : distinct (expansions lines) ⊆ lines.filterMap Line.entered? := by
    intro path hpath
    rwa [mem_distinct, expansions, mem_distinct] at hpath
  have hmarkers : (keptLines isSystem (expansions lines) lines).filterMap Line.entered? =
      lines.filterMap Line.entered? :=
    filterMap_keptLines (fun _ h => h) isSystem (expansions lines) lines
  calc
    (report isSystem (expansions lines) lines).expandedHeaders
        ≤ (lines.filterMap Line.entered?).length :=
      ((nodup_distinct _).subperm hsubset).length_le
    _ = ((keptLines isSystem (expansions lines) lines).filterMap Line.entered?).length := by
      rw [hmarkers]
    _ ≤ (keptLines isSystem (expansions lines) lines).length :=
      List.length_filterMap_le _ _
    _ = (report isSystem (expansions lines) lines).retained :=
      (retained_report isSystem _ lines).symm

/-! ## The report -/

/-- The counters of a report add up to the lines of the source.  The retained lines
are those of the text, and there is one at least for every header. -/
theorem report_accounts_for_lines {isSystem : Text → Bool} {source text : Text} {r : Report}
    (h : reduce isSystem source = .ok (text, r)) :
    r.total = source.lines.length ∧
      r.total = r.retained + r.systemLines + r.systemIncludes + r.redundantIncludes ∧
      r.dropped = r.systemLines + r.systemIncludes + r.redundantIncludes ∧
      r.retained = text.count '\n' ∧
      r.expandedHeaders = (markerPaths source).ncard ∧
      r.expandedHeaders ≤ r.retained := by
  obtain ⟨lines, hlines, rfl, rfl⟩ := reduce_eq_ok_iff.1 h
  have hlength : lines.length = source.lines.length := by
    rw [← Line.map_render_of_classifyAll hlines, List.length_map]
  have htotal := total_report isSystem (expansions lines) lines
  refine ⟨hlength, htotal, ?_, (count_reconstruct hlines isSystem _).symm,
    expandedHeaders_report hlines isSystem, expandedHeaders_le_retained isSystem lines⟩
  rw [Report.dropped]
  omega

theorem report_accounts_for_lines_all_fates :
    ∃ (source text : Text) (r : Report),
      source = ("#include \"a.h\"\n# 1 \"x/a.h\"\nint a;\n# 1 \"/usr/b.h\"\nint b;\n" ++
        "#include <c.h>\n# 2 \"x/a.h\"\n# 3 \"m.c\"\nint m;").toList ∧
      reduce (Header.underRoots Header.defaultRoots) source = .ok (text, r) ∧
      r = ⟨9, 6, 1, 1, 1, 3⟩ ∧
      r.total = source.lines.length ∧
      r.total = r.retained + r.systemLines + r.systemIncludes + r.redundantIncludes ∧
      r.dropped = r.systemLines + r.systemIncludes + r.redundantIncludes ∧
      r.retained = text.count '\n' ∧
      r.expandedHeaders = (markerPaths source).ncard ∧
      r.expandedHeaders ≤ r.retained := by
  have h : reduce (Header.underRoots Header.defaultRoots)
      ("#include \"a.h\"\n# 1 \"x/a.h\"\nint a;\n# 1 \"/usr/b.h\"\nint b;\n" ++
        "#include <c.h>\n# 2 \"x/a.h\"\n# 3 \"m.c\"\nint m;").toList =
        .ok (("# 1 \"x/a.h\"\nint a;\n# 1 \"/usr/b.h\"\n# 2 \"x/a.h\"\n" ++
          "# 3 \"m.c\"\nint m;\n").toList, ⟨9, 6, 1, 1, 1, 3⟩) := by
    decide +kernel
  exact ⟨_, _, _, rfl, h, rfl, report_accounts_for_lines h⟩

/-! ## Units of which nothing is dropped -/

theorem text_eq_normalized_iff {isSystem : Text → Bool} {source text : Text} {r : Report}
    (h : reduce isSystem source = .ok (text, r)) :
    text = source.terminated.normalizeBreaks ↔ r.dropped = 0 := by
  obtain ⟨lines, hlines, rfl, rfl⟩ := reduce_eq_ok_iff.1 h
  have hrender := Line.map_render_of_classifyAll hlines
  have hnewline := newline_not_mem_render_keptLines isSystem (expansions lines) hlines
  have hsub := keptLines_sublist isSystem (expansions lines) lines
  have htotal : (report isSystem (expansions lines) lines).total = lines.length := rfl
  have hlength := hsub.length_le
  rw [Report.dropped, retained_report, htotal, ← Text.unlines_lines, ← hrender,
    reconstruct_eq_unlines]
  constructor
  · intro htext
    -- a line that is missing takes its LF with it
    have hsource : ∀ l ∈ lines.map Line.render, '\n' ∉ l := by
      intro l hl
      rw [hrender] at hl
      exact Text.newline_not_mem_of_mem_lines hl
    have heq := congrArg List.length (Text.unlines_inj hnewline hsource htext)
    rw [List.length_map, List.length_map] at heq
    omega
  · intro hdropped
    rw [hsub.eq_of_length_le (by omega)]

end Reduction

namespace Text

/-- `short` is `line` without its last CR, if it ends with one. -/
def LosesReturn (line short : Text) : Prop :=
  line = short ++ ['\r'] ∨ line.getLast? ≠ some '\r' ∧ line = short

theorem losesReturn_dropCarriageReturn (line : Text) :
    LosesReturn line (dropCarriageReturn line) := by
  by_cases hlast : line.getLast? = some '\r'
  · exact Or.inl (eq_append_return hlast)
  · exact Or.inr ⟨hlast, (dropCarriageReturn_of_ne hlast).symm⟩

/-- Cutting a text into lines and joining them again replaces CR LF by LF and ends
the last line, and so does a reduction that drops nothing.  Lines that are joined and
cut again lose one CR each. -/
theorem breaks_are_normalized :
    (∀ source : Text, unlines (lines source) = normalizeBreaks (terminated source)) ∧
    (∀ isSystem source text r, Reduction.reduce isSystem source = .ok (text, r) →
      (text = normalizeBreaks (terminated source) ↔ r.dropped = 0)) ∧
    ∀ ls : List Text, (∀ l ∈ ls, '\n' ∉ l) →
      List.Forall₂ LosesReturn ls (lines (unlines ls)) := by
  refine ⟨unlines_lines, ?_, ?_⟩
  · intro isSystem source text r h
    exact Reduction.text_eq_normalized_iff h
  · intro ls hls
    rw [lines_unlines hls, List.forall₂_map_right_iff, List.forall₂_same]
    intro line _
    exact losesReturn_dropCarriageReturn line

theorem breaks_are_normalized_returns :
    ∃ (source text : Text) (r : Report) (ls : List Text),
      source = "\r\n\nint a;\r\r\n\x0c# 1 \"a.c\"\r".toList ∧
      text = "\n\nint a;\r\n\x0c# 1 \"a.c\"\n".toList ∧
      Reduction.reduce (Header.underRoots Header.defaultRoots) source = .ok (text, r) ∧
      r.dropped = 0 ∧ text = normalizeBreaks (terminated source) ∧
      ls = [[], "\r".toList, "a\r\r".toList, "b\x0c".toList] ∧
      List.Forall₂ LosesReturn ls (lines (unlines ls)) := by
  have h : Reduction.reduce (Header.underRoots Header.defaultRoots)
      "\r\n\nint a;\r\r\n\x0c# 1 \"a.c\"\r".toList =
        .ok ("\n\nint a;\r\n\x0c# 1 \"a.c\"\n".toList, ⟨4, 4, 0, 0, 0, 0⟩) := by
    decide +kernel
  exact ⟨_, _, _, _, rfl, rfl, h, rfl,
    (breaks_are_normalized.2.1 _ _ _ _ h).2 rfl, rfl,
    breaks_are_normalized.2.2 _ (by decide)⟩

end Text

end UnitReducer
