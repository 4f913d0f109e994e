import UnitReducer.Proofs.Classification
import UnitReducer.Proofs.Walk
/-!
# Which lines stay

`Keeps` says for one position of a unit whether its line stays, from the nearest
marker before it and the expanded headers, and without reference to the walk.
`reduction_keeps_by_rule` says that a reduction keeps exactly these lines, in their order
and as they were read.
-/

namespace UnitReducer.Reduction

/-! ## The rule -/

def nearestMarker? (lines : List Line) (i : Nat) : Option Text :=
  ((lines.take i).filterMap Line.entered?).getLast?

/-- The nearest marker before position `i`, where there is one, enters no system
path. -/
def OutsideSystem (isSystem : Text → Bool) (lines : List Line) (i : Nat) : Prop :=
  ∀ path ∈ nearestMarker? lines i, isSystem path = false

/-- A line stays at position `i`.  Markers always do; other lines do outside the
system; an include directive moreover needs a path of which no header outside the
system was expanded. -/
def Keeps (isSystem : Text → Bool) (expanded : List Text) (lines : List Line) (i : Nat) :
    Line → Prop
  | .marker .. => True
  | .other _ => OutsideSystem isSystem lines i
  | .included path _ => OutsideSystem isSystem lines i ∧
      ∀ header ∈ expanded, isSystem header = false → Header.same header path = false

instance (isSystem : Text → Bool) (lines : List Line) (i : Nat) :
    Decidable (OutsideSystem isSystem lines i) :=
  inferInstanceAs (Decidable (∀ path ∈ nearestMarker? lines i, isSystem path = false))

instance (isSystem : Text → Bool) (expanded : List Text) (lines : List Line) (i : Nat) :
    (line : Line) → Decidable (Keeps isSystem expanded lines i line)
  | .marker .. => isTrue trivial
  | .other _ => inferInstanceAs (Decidable (OutsideSystem isSystem lines i))
  | .included path _ => inferInstanceAs (Decidable (OutsideSystem isSystem lines i ∧
      ∀ header ∈ expanded, isSystem header = false → Header.same header path = false))

def KeepsAt (isSystem : Text → Bool) (expanded : List Text) (lines : List Line) (i : Nat) :
    Prop :=
  ∃ line ∈ lines[i]?, Keeps isSystem expanded lines i line

instance (isSystem : Text → Bool) (expanded : List Text) (lines : List Line) (i : Nat) :
    Decidable (KeepsAt isSystem expanded lines i) :=
  inferInstanceAs (Decidable (∃ line ∈ lines[i]?, Keeps isSystem expanded lines i line))

def keptLines (isSystem : Text → Bool) (expanded : List Text) (lines : List Line) :
    List Line :=
  (lines.zipIdx.filter fun x => Keeps isSystem expanded lines x.2 x.1).map Prod.fst

/-! ## The rule and the walk -/

theorem redundant_localHeaders_iff {isSystem : Text → Bool} {expanded : List Text}
    {path : Text} :
    redundant (localHeaders isSystem expanded) path = false ↔
      ∀ header ∈ expanded, isSystem header = false → Header.same header path = false := by
  simp [redundant, localHeaders, mem_distinct]

def inSystemAt (isSystem : Text → Bool) (lines : List Line) (i : Nat) : Bool :=
  (nearestMarker? lines i).any isSystem

theorem inSystemAt_eq_false_iff {isSystem : Text → Bool} {lines : List Line} {i : Nat} :
    inSystemAt isSystem lines i = false ↔ OutsideSystem isSystem lines i := by
  unfold inSystemAt OutsideSystem
  cases nearestMarker? lines i <;> simp

theorem fate_eq_kept_iff {isSystem : Text → Bool} {expanded : List Text}
    {lines : List Line} {i : Nat} {line : Line} :
    fate (localHeaders isSystem expanded) (inSystemAt isSystem lines i) line = .kept ↔
      Keeps isSystem expanded lines i line := by
  cases line with
  | marker number path text => simp [fate, Keeps]
  | other text =>
      rw [Keeps, ← inSystemAt_eq_false_iff, fate]
      cases inSystemAt isSystem lines i <;> simp
  | included path text =>
      rw [Keeps, ← inSystemAt_eq_false_iff, ← redundant_localHeaders_iff, fate]
      cases inSystemAt isSystem lines i <;>
        cases redundant (localHeaders isSystem expanded) path <;> simp

theorem inSystemAt_succ (isSystem : Text → Bool) (before : List Line) (line : Line)
    (lines : List Line) :
    inSystemAt isSystem (before ++ line :: lines) (before.length + 1) =
      inSystemAfter isSystem
        (inSystemAt isSystem (before ++ line :: lines) before.length) line := by
  have htake : (before ++ line :: lines).take (before.length + 1) = before ++ [line] := by
    rw [List.append_cons]
    exact List.take_left' (by simp)
  unfold inSystemAt nearestMarker? inSystemAfter
  rw [htake, List.take_left, List.filterMap_append]
  cases hentered : line.entered? with
  | none => simp [hentered]
  | some path => simp [hentered]

theorem fates_eq_map_zipIdx (isSystem : Text → Bool) (headers : List Text)
    (before lines : List Line) :
    fates isSystem headers (inSystemAt isSystem (before ++ lines) before.length) lines =
      (lines.zipIdx before.length).map fun x =>
        (x.1, fate headers (inSystemAt isSystem (before ++ lines) x.2) x.1) := by
  -- the lines behind go along, since the nearest marker may be one of them
  induction lines generalizing before with
  | nil => rfl
  | cons line lines ih =>
      have hbehind : before ++ line :: lines = (before ++ [line]) ++ lines := by simp
      have hrest := ih (before ++ [line])
      rw [← hbehind, List.length_append, List.length_singleton] at hrest
      rw [fates, ← inSystemAt_succ, hrest, List.zipIdx_cons, List.map_cons]

theorem fates_eq_map (isSystem : Text → Bool) (headers : List Text) (lines : List Line) :
    fates isSystem headers false lines =
      lines.zipIdx.map fun x => (x.1, fate headers (inSystemAt isSystem lines x.2) x.1) :=
  fates_eq_map_zipIdx isSystem headers [] lines

theorem retained_judge (isSystem : Text → Bool) (expanded : List Text)
    (lines : List Line) :
    retained (judge isSystem (localHeaders isSystem expanded) .start lines) =
      keptLines isSystem expanded lines := by
  rw [judge_eq_fates, fates_eq_map, retained, keptLines, List.filter_map, List.map_map]
  simp only [Function.comp_def, fate_eq_kept_iff]

theorem reconstruct_eq_unlines (isSystem : Text → Bool) (expanded : List Text)
    (lines : List Line) :
    reconstruct isSystem expanded lines =
      Text.unlines ((keptLines isSystem expanded lines).map Line.render) := by
  rw [reconstruct, retained_judge]

theorem keeps_congr {isSystem : Text → Bool} {expanded expanded' : List Text}
    (h : ∀ path, path ∈ expanded ↔ path ∈ expanded') (lines : List Line) (i : Nat)
    (line : Line) :
    Keeps isSystem expanded lines i line ↔ Keeps isSystem expanded' lines i line := by
  cases line with
  | marker number path text => rfl
  | other text => rfl
  | included path text => simp only [Keeps, h]

theorem keepsAt_iff_of_mem_zipIdx {isSystem : Text → Bool} {expanded : List Text}
    {lines : List Line} {x : Line × Nat} (hx : x ∈ lines.zipIdx) :
    KeepsAt isSystem expanded lines x.2 ↔ Keeps isSystem expanded lines x.2 x.1 := by
  have hget : lines[x.2]? = some x.1 := List.mem_zipIdx_iff_getElem?.1 hx
  simp [KeepsAt, hget]

theorem map_render_keptLines (isSystem : Text → Bool) (expanded : List Text)
    (lines : List Line) :
    (keptLines isSystem expanded lines).map Line.render =
      ((lines.map Line.render).zipIdx.filter fun x =>
        KeepsAt isSystem expanded lines x.2).map Prod.fst := by
  rw [keptLines, List.zipIdx_map, List.filter_map, List.map_map, List.map_map]
  apply congrArg
  apply List.filter_congr
  intro x hx
  simp only [Function.comp_def, Prod.map_snd, id_eq, keepsAt_iff_of_mem_zipIdx hx]

/-- A reduction, and its second pass on any lines and headers, keeps exactly the
lines that the rule keeps. -/
theorem reduction_keeps_by_rule (isSystem : Text → Bool) :
    (∀ expanded lines,
      reconstruct isSystem expanded lines =
        (lines.zipIdx.filter fun x => Keeps isSystem expanded lines x.2 x.1).flatMap
          fun x => x.1.render ++ ['\n']) ∧
    ∀ source text report, reduce isSystem source = .ok (text, report) →
      ∃ lines, Line.classifyAll source.lines = .ok lines ∧
        lines.map Line.render = source.lines ∧
        ∀ expanded,
          (∀ path, path ∈ expanded ↔ ∃ line ∈ lines, line.entered? = some path) →
          text = reconstruct isSystem expanded lines ∧
          text =
            (source.lines.zipIdx.filter fun x =>
              KeepsAt isSystem expanded lines x.2).flatMap fun x => x.1 ++ ['\n'] := by
  constructor
  · intro expanded lines
    rw [reconstruct_eq_unlines, Text.unlines, keptLines, List.map_map, List.flatMap_map]
    rfl
  · intro source text report h
    obtain ⟨lines, hlines, rfl, rfl⟩ := reduce_eq_ok_iff.1 h
    have hrender := Line.map_render_of_classifyAll hlines
    refine ⟨lines, hlines, hrender, ?_⟩
    intro expanded hexpanded
    have hsame : reconstruct isSystem (expansions lines) lines =
        reconstruct isSystem expanded lines := by
      have hcongr : ∀ i line, Keeps isSystem (expansions lines) lines i line ↔
          Keeps isSystem expanded lines i line :=
        keeps_congr (fun path => mem_expansions.trans (hexpanded path).symm) lines
      simp only [reconstruct_eq_unlines, keptLines, hcongr]
    refine ⟨hsame, ?_⟩
    rw [hsame, reconstruct_eq_unlines, map_render_keptLines, hrender, Text.unlines,
      List.flatMap_map]

theorem reduction_keeps_by_rule_late_header :
    ∃ (source text : Text) (report : Report) (lines : List Line),
      source = "#include \"a.h\"\r\n# 1 \"/x/a.h\"\nint a;\n# 1 \"/usr/b.h\"\nint b;".toList ∧
      text = "# 1 \"/x/a.h\"\nint a;\n# 1 \"/usr/b.h\"\n".toList ∧
      reduce (Header.underRoots Header.defaultRoots) source = .ok (text, report) ∧
      Line.classifyAll source.lines = .ok lines ∧
      text =
        (source.lines.zipIdx.filter fun x =>
          KeepsAt (Header.underRoots Header.defaultRoots) (expansions lines) lines x.2).flatMap
            fun x => x.1 ++ ['\n'] := by
  have h : reduce (Header.underRoots Header.defaultRoots)
      "#include \"a.h\"\r\n# 1 \"/x/a.h\"\nint a;\n# 1 \"/usr/b.h\"\nint b;".toList =
        .ok ("# 1 \"/x/a.h\"\nint a;\n# 1 \"/usr/b.h\"\n".toList, ⟨5, 3, 1, 0, 1, 2⟩) := by
    decide +kernel
  obtain ⟨lines, hlines, -, hrule⟩ := (reduction_keeps_by_rule _).2 _ _ _ h
  exact ⟨_, _, _, lines, rfl, rfl, h, hlines, (hrule _ fun path => mem_expansions).2⟩

end UnitReducer.Reduction
