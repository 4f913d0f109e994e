import UnitReducer.Proofs.Rereading
/-!
# Bodies of system headers

The lines between a system marker and the next marker are the body of a system
header.  A reduction drops such a body whatever it holds, and nothing else hangs on
it: neither the contexts of other lines, nor the expanded headers, nor a verdict on
an include directive.  Units that agree outside these bodies have one reduced text
(`system_bodies_do_not_interfere`).
-/

namespace UnitReducer

/-! ## Lines outside the bodies -/

namespace Line

/-- The path that a line of text enters, where it has the shape of a marker. -/
def enteredBy? (text : Text) : Option Text :=
  (markerFields? text).map Prod.snd

theorem enteredBy?_of_classify {index : Option Int} {text : Text} {line : Line}
    (h : classify index text = .ok line) : enteredBy? text = line.entered? := by
  unfold enteredBy?
  rcases classify_eq_ok_iff.1 h with
    ⟨path, hpath, rfl⟩ | ⟨-, digits, path, hfields, -, -, rfl⟩ | ⟨-, hnone, rfl⟩
  · cases hfields : markerFields? text with
    | none => rfl
    | some fields =>
        -- no line has both shapes
        have hshape : MarkerShape text fields.1 fields.2 := markerFields?_eq_some_iff.1 hfields
        rw [includePath?_of_markerShape hshape] at hpath
        cases hpath
  · rw [hfields]
    rfl
  · rw [hnone]
    rfl

end Line

namespace Reduction

/-- A line of text at position `i` belongs to the body of a system header: it is no
marker, and the nearest marker before it enters a system path. -/
def InSystemBody (isSystem : Text → Bool) (texts : List Text) (i : Nat) (text : Text) : Prop :=
  Line.enteredBy? text = none ∧
    ∃ path ∈ ((texts.take i).filterMap Line.enteredBy?).getLast?, isSystem path = true

instance (isSystem : Text → Bool) (texts : List Text) (i : Nat) (text : Text) :
    Decidable (InSystemBody isSystem texts i text) :=
  inferInstanceAs (Decidable (Line.enteredBy? text = none ∧
    ∃ path ∈ ((texts.take i).filterMap Line.enteredBy?).getLast?, isSystem path = true))

/-- The lines of a unit without the bodies of its system headers. -/
def withoutSystemBodies (isSystem : Text → Bool) (texts : List Text) : List Text :=
  (texts.zipIdx.filter fun x => ¬ InSystemBody isSystem texts x.2 x.1).map Prod.fst

def ownLines (isSystem : Text → Bool) (lines : List Line) : List Line :=
  (lines.zipIdx.filter fun x =>
    !(x.1.entered?.isNone && inSystemAt isSystem lines x.2)).map Prod.fst

theorem ownLines_sublist (isSystem : Text → Bool) (lines : List Line) :
    (ownLines isSystem lines).Sublist lines :=
  map_fst_filter_zipIdx_sublist _ lines

section Classified

variable {source : Text} {lines : List Line}

theorem filterMap_enteredBy?_take (hlines : Line.classifyAll source.lines = .ok lines)
    (i : Nat) :
    (source.lines.take i).filterMap Line.enteredBy? =
      (lines.take i).filterMap Line.entered? := by
  rw [← Line.map_render_of_classifyAll hlines, ← List.map_take, List.filterMap_map]
  apply List.filterMap_congr
  intro line hline
  exact Line.enteredBy?_of_classify
    (classify_render_of_mem hlines (List.mem_of_mem_take hline)).2

theorem inSystemBody_iff (isSystem : Text → Bool)
    (hlines : Line.classifyAll source.lines = .ok lines) {line : Line} (hline : line ∈ lines)
    (i : Nat) :
    InSystemBody isSystem source.lines i line.render ↔
      (line.entered?.isNone && inSystemAt isSystem lines i) = true := by
  unfold InSystemBody inSystemAt nearestMarker?
  rw [Line.enteredBy?_of_classify (classify_render_of_mem hlines hline).2,
    filterMap_enteredBy?_take hlines, Bool.and_eq_true, Option.isNone_iff_eq_none,
    Option.any_eq_true]
  rfl

theorem withoutSystemBodies_lines (isSystem : Text → Bool)
    (hlines : Line.classifyAll source.lines = .ok lines) :
    withoutSystemBodies isSystem source.lines = (ownLines isSystem lines).map Line.render := by
  have hzip : source.lines.zipIdx = lines.zipIdx.map (Prod.map Line.render id) := by
    rw [← Line.map_render_of_classifyAll hlines, List.zipIdx_map]
  rw [withoutSystemBodies, ownLines, hzip, List.filter_map, List.map_map, List.map_map]
  apply congrArg
  apply List.filter_congr
  intro x hx
  have hmem : x.1 ∈ lines := List.fst_mem_of_mem_zipIdx hx
  simp only [Function.comp_def, Prod.map_fst, Prod.map_snd, id_eq,
    inSystemBody_iff isSystem hlines hmem, decide_not, Bool.decide_eq_true]

theorem eq_of_map_render_eq {lines lines' : List Line}
    (hlines : ∀ line ∈ lines, Line.classify none line.render = .ok line)
    (hlines' : ∀ line ∈ lines', Line.classify none line.render = .ok line)
    (h : lines.map Line.render = lines'.map Line.render) : lines = lines' := by
  have hread : ∀ ls : List Line, (∀ line ∈ ls, Line.classify none line.render = .ok line) →
      Line.classifyAll (ls.map Line.render) = .ok ls := by
    intro ls hls
    rw [Line.classifyAll_eq_ok_iff, List.forall₂_map_left_iff, List.forall₂_same]
    exact hls
  have hok := hread lines hlines
  rw [h, hread lines' hlines'] at hok
  exact (Except.ok.inj hok).symm

theorem classify_render_of_mem_ownLines (hlines : Line.classifyAll source.lines = .ok lines)
    (isSystem : Text → Bool) :
    ∀ line ∈ ownLines isSystem lines, Line.classify none line.render = .ok line := by
  intro line hline
  have hmem := (ownLines_sublist isSystem lines).subset hline
  exact (classify_render_of_mem hlines hmem).2

end Classified

end Reduction

/-! ## A walk without the bodies -/

def Fate.ofSystem : Fate → Bool
  | .systemLine | .systemInclude => true
  | .kept | .redundantInclude => false

namespace Reduction

theorem ofSystem_fate (headers : List Text) (inSystem : Bool) (line : Line) :
    (fate headers inSystem line).ofSystem = (line.entered?.isNone && inSystem) := by
  cases line with
  | marker number path text => rfl
  | other text => cases inSystem <;> rfl
  | included path text =>
      cases inSystem with
      | true => rfl
      | false =>
          rw [fate, if_neg Bool.false_ne_true]
          cases redundant headers path <;> rfl

theorem ownLines_eq_filter_fates (isSystem : Text → Bool) (headers : List Text)
    (lines : List Line) :
    ownLines isSystem lines =
      ((fates isSystem headers false lines).filter fun x => !x.2.ofSystem).map Prod.fst := by
  rw [fates_eq_map, List.filter_map, List.map_map, ownLines]
  simp only [Function.comp_def, ofSystem_fate]

section Walk

variable (isSystem : Text → Bool) (headers : List Text) (lines : List Line)

theorem fates_ownLines :
    fates isSystem headers false (ownLines isSystem lines) =
      (fates isSystem headers false lines).filter fun x => !x.2.ofSystem := by
  rw [ownLines_eq_filter_fates isSystem headers,
    fates_filter_fates (p := fun f => !f.ofSystem) rfl]

theorem retained_fates_ownLines :
    retained (fates isSystem headers false (ownLines isSystem lines)) =
      retained (fates isSystem headers false lines) := by
  rw [fates_ownLines, retained, retained, List.filter_filter]
  apply congrArg
  apply List.filter_congr
  rintro ⟨line, f⟩ -
  cases f <;> rfl

theorem countOf_fates_ownLines {f : Fate} (hf : f.ofSystem = false) :
    countOf f (fates isSystem headers false (ownLines isSystem lines)) =
      countOf f (fates isSystem headers false lines) := by
  rw [fates_ownLines, countOf, countOf, List.countP_filter]
  apply List.countP_congr
  rintro ⟨line, g⟩ -
  by_cases hg : g = f
  · simp [hg, hf]
  · simp [hg]

end Walk

/-! ## Reductions without the bodies -/

section Reduced

variable (isSystem : Text → Bool) (lines : List Line)

theorem expansions_ownLines : expansions (ownLines isSystem lines) = expansions lines := by
  -- markers stay, so the lines that stay tell the markers of both units
  have hmarkers : ∀ ls, (retained (fates isSystem [] false ls)).filterMap Line.entered? =
      ls.filterMap Line.entered? :=
    filterMap_retained_fates (fun _ h => h) isSystem [] false
  unfold expansions
  rw [← hmarkers, retained_fates_ownLines, hmarkers]

theorem reconstruct_ownLines (expanded : List Text) :
    reconstruct isSystem expanded (ownLines isSystem lines) =
      reconstruct isSystem expanded lines := by
  unfold reconstruct
  simp only [judge_eq_fates, retained_fates_ownLines]

theorem report_ownLines (expanded : List Text) :
    (report isSystem expanded (ownLines isSystem lines)).retained =
        (report isSystem expanded lines).retained ∧
      (report isSystem expanded (ownLines isSystem lines)).redundantIncludes =
        (report isSystem expanded lines).redundantIncludes := by
  unfold report
  simp only [judge_eq_fates, retained_fates_ownLines,
    countOf_fates_ownLines isSystem _ lines (f := .redundantInclude) rfl, and_self]

end Reduced

/-- Two units that differ in the bodies of system headers only reduce to one text, and
their reports agree on what is outside of these bodies. -/
theorem system_bodies_do_not_interfere {isSystem : Text → Bool} {source₁ source₂ : Text}
    {text₁ text₂ : Text} {r₁ r₂ : Report}
    (h₁ : reduce isSystem source₁ = .ok (text₁, r₁))
    (h₂ : reduce isSystem source₂ = .ok (text₂, r₂))
    (hown : withoutSystemBodies isSystem source₁.lines =
      withoutSystemBodies isSystem source₂.lines) :
    text₁ = text₂ ∧ r₁.retained = r₂.retained ∧
      r₁.redundantIncludes = r₂.redundantIncludes ∧
      r₁.expandedHeaders = r₂.expandedHeaders := by
  obtain ⟨lines₁, hlines₁, rfl, rfl⟩ := reduce_eq_ok_iff.1 h₁
  obtain ⟨lines₂, hlines₂, rfl, rfl⟩ := reduce_eq_ok_iff.1 h₂
  have hlines : ownLines isSystem lines₁ = ownLines isSystem lines₂ := by
    rw [withoutSystemBodies_lines isSystem hlines₁,
      withoutSystemBodies_lines isSystem hlines₂] at hown
    exact eq_of_map_render_eq (classify_render_of_mem_ownLines hlines₁ isSystem)
      (classify_render_of_mem_ownLines hlines₂ isSystem) hown
  have hexpansions : expansions lines₁ = expansions lines₂ := by
    rw [← expansions_ownLines isSystem lines₁, hlines, expansions_ownLines]
  obtain ⟨hretained₁, hredundant₁⟩ := report_ownLines isSystem lines₁ (expansions lines₂)
  obtain ⟨hretained₂, hredundant₂⟩ := report_ownLines isSystem lines₂ (expansions lines₂)
  rw [hexpansions]
  refine ⟨?_, ?_, ?_, rfl⟩
  · rw [← reconstruct_ownLines, hlines, reconstruct_ownLines]
  · rw [← hretained₁, hlines, hretained₂]
  · rw [← hredundant₁, hlines, hredundant₂]

def unitAround (body : Text) : Text :=
  "#include \"a.h\"\n# 1 \"/usr/b.h\" 1\n".toList ++ body ++
    "# 2 \"m.c\" 2\n#include <c.h>\nint m;\n# 1 \"x/a.h\"\n".toList

theorem system_bodies_do_not_interfere_two_bodies :
    let isSystem := Header.underRoots Header.defaultRoots
    let source₁ := unitAround "#include <a.h>\nint b;\n".toList
    let source₂ := unitAround "int b;\r\n\r\nint c;\r\n".toList
    ∃ (text₁ text₂ : Text) (r₁ r₂ : Report),
      reduce isSystem source₁ = .ok (text₁, r₁) ∧ reduce isSystem source₂ = .ok (text₂, r₂) ∧
      withoutSystemBodies isSystem source₁.lines = withoutSystemBodies isSystem source₂.lines ∧
      r₁.systemIncludes ≠ r₂.systemIncludes ∧ r₁.total ≠ r₂.total ∧
      text₁ = text₂ ∧ r₁.retained = r₂.retained ∧
      r₁.redundantIncludes = r₂.redundantIncludes ∧
      r₁.expandedHeaders = r₂.expandedHeaders := by
  intro isSystem source₁ source₂
  let text : Text :=
    "# 1 \"/usr/b.h\" 1\n# 2 \"m.c\" 2\n#include <c.h>\nint m;\n# 1 \"x/a.h\"\n".toList
  have h₁ : reduce isSystem source₁ = .ok (text, ⟨8, 5, 1, 1, 1, 3⟩) := by decide +kernel
  have h₂ : reduce isSystem source₂ = .ok (text, ⟨9, 5, 3, 0, 1, 3⟩) := by decide +kernel
  have hown : withoutSystemBodies isSystem source₁.lines =
      withoutSystemBodies isSystem source₂.lines := by
    decide +kernel
  exact ⟨_, _, _, _, h₁, h₂, hown, by decide, by decide,
    system_bodies_do_not_interfere h₁ h₂ hown⟩

end Reduction

end UnitReducer
