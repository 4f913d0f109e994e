import UnitReducer.Proofs.HeaderCollections
import UnitReducer.Proofs.LineGrammar
import UnitReducer.Proofs.Rereading
/-!
# Blocks of a unit

A marker sets the context anew, so a unit falls into blocks that start with a marker,
and for a given collection of expanded headers the blocks are reduced one by one.
The first pass collects the headers of all blocks (`reduction_of_blocks`).
-/

namespace UnitReducer

/-! ## Texts in two parts -/

namespace Line

theorem exists_of_classifyAll_append {texts texts' : List Text} {lines : List Line}
    (h : classifyAll (texts ++ texts') = .ok lines) :
    ∃ first second, lines = first ++ second ∧ classifyAll texts = .ok first ∧
      classifyAll texts' = .ok second := by
  simp only [classifyAll_eq_ok_iff] at h ⊢
  induction texts generalizing lines with
  | nil => exact ⟨[], lines, rfl, .nil, h⟩
  | cons text texts ih =>
      rw [List.cons_append, List.forall₂_cons_left_iff] at h
      obtain ⟨line, others, hline, hothers, rfl⟩ := h
      obtain ⟨first, second, rfl, hfirst, hsecond⟩ := ih hothers
      exact ⟨line :: first, second, rfl, .cons hline hfirst, hsecond⟩

theorem exists_marker_of_reading {index : Option Int} {text digits path : Text} {line : Line}
    (hreading : MarkerReading text digits path) (hline : classify index text = .ok line) :
    ∃ number path' text', line = .marker number path' text' := by
  have hinclude := includePath?_of_markerReading hreading
  have hmarker := exists_markerReading_iff.1 ⟨digits, path, hreading⟩
  rcases classify_eq_ok_iff.1 hline with
    ⟨path', hpath', -⟩ | ⟨-, digits', path', -, -, -, rfl⟩ | ⟨-, hnone, -⟩
  · rw [hinclude] at hpath'
    cases hpath'
  · exact ⟨_, _, _, rfl⟩
  · exact absurd hnone hmarker

end Line

namespace Reduction

/-! ## Walks over two parts -/

/-- The lines are empty or start with a marker. -/
def StartsBlock (lines : List Line) : Prop :=
  lines = [] ∨ ∃ number path text rest, lines = .marker number path text :: rest

theorem startsBlock_of_classifyAll {source : Text} {lines : List Line}
    (hlines : Line.classifyAll source.lines = .ok lines)
    (hsource : source = [] ∨ ∃ first ∈ source.lines.head?,
      ∃ digits path, Line.MarkerReading first digits path) :
    StartsBlock lines := by
  rw [Line.classifyAll_eq_ok_iff] at hlines
  rcases hsource with rfl | ⟨first, hfirst, digits, path, hreading⟩
  · exact Or.inl (List.forall₂_nil_left_iff.1 hlines)
  · obtain ⟨others, hothers⟩ := List.head?_eq_some_iff.1 hfirst
    rw [hothers, List.forall₂_cons_left_iff] at hlines
    obtain ⟨line, rest, hline, -, rfl⟩ := hlines
    obtain ⟨number, path', text, rfl⟩ := Line.exists_marker_of_reading hreading hline
    exact Or.inr ⟨number, path', text, rest, rfl⟩

theorem fates_append (isSystem : Text → Bool) (headers : List Text) (inSystem : Bool)
    (first second : List Line) :
    fates isSystem headers inSystem (first ++ second) =
      fates isSystem headers inSystem first ++
        fates isSystem headers (first.foldl (inSystemAfter isSystem) inSystem) second := by
  induction first generalizing inSystem with
  | nil => rfl
  | cons line first ih =>
      rw [List.cons_append, fates, fates, List.foldl_cons, ih, List.cons_append]

theorem StartsBlock.fates_eq {lines : List Line} (h : StartsBlock lines)
    (isSystem : Text → Bool) (headers : List Text) (inSystem inSystem' : Bool) :
    fates isSystem headers inSystem lines = fates isSystem headers inSystem' lines := by
  rcases h with rfl | ⟨number, path, text, rest, rfl⟩
  · rfl
  · rfl

section

variable {second : List Line}

theorem judge_append (hsecond : StartsBlock second) (isSystem : Text → Bool)
    (headers : List Text) (first : List Line) :
    judge isSystem headers .start (first ++ second) =
      judge isSystem headers .start first ++ judge isSystem headers .start second := by
  rw [judge_eq_fates, judge_eq_fates, judge_eq_fates, fates_append,
    hsecond.fates_eq isSystem headers _ false]

theorem retained_append (judged judged' : List (Line × Fate)) :
    retained (judged ++ judged') = retained judged ++ retained judged' := by
  rw [retained, List.filter_append, List.map_append, retained, retained]

theorem countOf_append (f : Fate) (judged judged' : List (Line × Fate)) :
    countOf f (judged ++ judged') = countOf f judged + countOf f judged' := by
  rw [countOf, List.countP_append, countOf, countOf]

theorem reconstruct_append (hsecond : StartsBlock second) (isSystem : Text → Bool)
    (expanded : List Text) (first : List Line) :
    reconstruct isSystem expanded (first ++ second) =
      reconstruct isSystem expanded first ++ reconstruct isSystem expanded second := by
  unfold reconstruct
  simp only [judge_append hsecond, retained_append, List.map_append, Text.unlines_append]

end

/-! ## Reports on two parts -/

/-- The lines that `r` counts are those of `r₁` and those of `r₂`. -/
structure CountsTogether (r r₁ r₂ : Report) : Prop where
  total : r.total = r₁.total + r₂.total
  retained : r.retained = r₁.retained + r₂.retained
  systemLines : r.systemLines = r₁.systemLines + r₂.systemLines
  systemIncludes : r.systemIncludes = r₁.systemIncludes + r₂.systemIncludes
  redundantIncludes : r.redundantIncludes = r₁.redundantIncludes + r₂.redundantIncludes
  dropped : r.dropped = r₁.dropped + r₂.dropped

theorem retained_le_total (isSystem : Text → Bool) (expanded : List Text)
    (lines : List Line) :
    (report isSystem expanded lines).retained ≤ (report isSystem expanded lines).total := by
  rw [retained_report]
  exact (keptLines_sublist isSystem expanded lines).length_le

theorem report_append {second : List Line} (hsecond : StartsBlock second)
    (isSystem : Text → Bool) (expanded : List Text) (first : List Line) :
    CountsTogether (report isSystem expanded (first ++ second))
      (report isSystem expanded first) (report isSystem expanded second) := by
  have htotal : (report isSystem expanded (first ++ second)).total =
      (report isSystem expanded first).total + (report isSystem expanded second).total :=
    List.length_append
  have hretained : (report isSystem expanded (first ++ second)).retained =
      (report isSystem expanded first).retained +
        (report isSystem expanded second).retained := by
    simp only [report, judge_append hsecond, retained_append, List.length_append]
  have hcount : ∀ f, countOf f
      (judge isSystem (localHeaders isSystem expanded) .start (first ++ second)) =
        countOf f (judge isSystem (localHeaders isSystem expanded) .start first) +
          countOf f (judge isSystem (localHeaders isSystem expanded) .start second) := by
    intro f
    rw [judge_append hsecond, countOf_append]
  refine ⟨htotal, hretained, hcount _, hcount _, hcount _, ?_⟩
  have hfirst := retained_le_total isSystem expanded first
  have hsecond := retained_le_total isSystem expanded second
  unfold Report.dropped
  omega

/-! ## Units in two parts -/

theorem mem_expansions_append {first second : List Line} {path : Text} :
    path ∈ expansions (first ++ second) ↔
      path ∈ expansions first ∨ path ∈ expansions second := by
  simp only [mem_expansions, List.mem_append, or_and_right, exists_or]

/-- In front of a marker the second pass can be cut in two.  So can a whole reduction,
between two texts of which the second starts with a marker line, if both parts are
reduced with the headers that either of them expands. -/
theorem reduction_of_blocks (isSystem : Text → Bool) :
    (∀ expanded first second,
      (second = [] ∨ ∃ number path text rest, second = .marker number path text :: rest) →
      reconstruct isSystem expanded (first ++ second) =
        reconstruct isSystem expanded first ++ reconstruct isSystem expanded second) ∧
    ∀ (source₁ source₂ text : Text) (r : Report),
      (source₁ = [] ∨ source₁.getLast? = some '\n') →
      (source₂ = [] ∨ ∃ first ∈ source₂.lines.head?,
        ∃ digits path, Line.MarkerReading first digits path) →
      reduce isSystem (source₁ ++ source₂) = .ok (text, r) →
      ∃ lines₁ lines₂, Line.classifyAll source₁.lines = .ok lines₁ ∧
        Line.classifyAll source₂.lines = .ok lines₂ ∧
        ∀ expanded, (∀ path, path ∈ expanded ↔
            path ∈ expansions lines₁ ∨ path ∈ expansions lines₂) →
          text = reconstruct isSystem expanded lines₁ ++
              reconstruct isSystem expanded lines₂ ∧
            CountsTogether r (report isSystem expanded lines₁)
              (report isSystem expanded lines₂) := by
  constructor
  · intro expanded first second hsecond
    exact reconstruct_append hsecond isSystem expanded first
  · intro source₁ source₂ text r hsource₁ hsource₂ h
    obtain ⟨lines, hlines, rfl, rfl⟩ := reduce_eq_ok_iff.1 h
    rw [Text.lines_append hsource₁] at hlines
    obtain ⟨lines₁, lines₂, rfl, hlines₁, hlines₂⟩ := Line.exists_of_classifyAll_append hlines
    have hblock := startsBlock_of_classifyAll hlines₂ hsource₂
    refine ⟨lines₁, lines₂, hlines₁, hlines₂, ?_⟩
    intro expanded hexpanded
    have hsame : ∀ path, isSystem path = false →
        (path ∈ expansions (lines₁ ++ lines₂) ↔ path ∈ expanded) := by
      intro path _
      rw [mem_expansions_append, hexpanded]
    constructor
    · rw [reconstruct_congr hsame, reconstruct_append hblock]
    · have hsum := report_append hblock isSystem expanded lines₁
      rw [report_congr hsame]
      exact ⟨hsum.total, hsum.retained, hsum.systemLines, hsum.systemIncludes,
        hsum.redundantIncludes, hsum.dropped⟩

theorem reduction_of_blocks_late_header :
    let isSystem := Header.underRoots Header.defaultRoots
    let system : Line := .marker 1 "/usr/b.h".toList []
    let own : Line := .marker 2 "x/a.h".toList []
    let body : Line := .other "int a;".toList
    let source₁ : Text := "#include \"a.h\"\nint m;\n# 1 \"/usr/b.h\"\nint b;\n".toList
    let source₂ : Text := "# 2 \"x/a.h\"\nint a;\n# 9 \"/usr/b.h\"\n\n".toList
    reconstruct isSystem [] ([system, body] ++ [own, body]) =
        reconstruct isSystem [] [system, body] ++ reconstruct isSystem [] [own, body] ∧
      ∃ (text : Text) (r : Report) (lines₁ lines₂ : List Line),
        reduce isSystem (source₁ ++ source₂) = .ok (text, r) ∧
        Line.classifyAll source₁.lines = .ok lines₁ ∧
        Line.classifyAll source₂.lines = .ok lines₂ ∧
        text = reconstruct isSystem (expansions lines₁ ++ expansions lines₂) lines₁ ++
          reconstruct isSystem (expansions lines₁ ++ expansions lines₂) lines₂ ∧
        CountsTogether r (report isSystem (expansions lines₁ ++ expansions lines₂) lines₁)
          (report isSystem (expansions lines₁ ++ expansions lines₂) lines₂) := by
  intro isSystem system own body source₁ source₂
  have h : reduce isSystem (source₁ ++ source₂) =
      .ok ("int m;\n# 1 \"/usr/b.h\"\n# 2 \"x/a.h\"\nint a;\n# 9 \"/usr/b.h\"\n".toList,
        ⟨8, 5, 2, 0, 1, 2⟩) := by
    decide +kernel
  have hmarker : ∃ first ∈ source₂.lines.head?,
      ∃ digits path, Line.MarkerReading first digits path := by
    simp only [Line.exists_markerReading_iff]
    decide +kernel
  obtain ⟨hlines, hsources⟩ := reduction_of_blocks isSystem
  obtain ⟨lines₁, lines₂, hlines₁, hlines₂, hparts⟩ :=
    hsources source₁ source₂ _ _ (Or.inr (by decide)) (Or.inr hmarker) h
  refine ⟨hlines [] _ _ (Or.inr ⟨_, _, _, _, rfl⟩), _, _, lines₁, lines₂, h, hlines₁, hlines₂, ?_⟩
  exact hparts _ fun path => List.mem_append

end Reduction

end UnitReducer
