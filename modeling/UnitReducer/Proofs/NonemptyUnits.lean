import UnitReducer.Proofs.AllOrNothing
import UnitReducer.Proofs.Rereading
/-!
# Units that are not empty

A line is dropped on account of some marker, and markers stay.  So a unit that is
not empty reduces to a text that is not empty.  A preprocessor that prints nothing
is refused, and no source file is replaced by an empty one
(`reduction_never_empties`).
-/

namespace UnitReducer

/-! ## Lines that stay -/

namespace Reduction

theorem keeps_of_no_marker {lines : List Line} (hlines : ∀ line ∈ lines, line.entered? = none)
    (isSystem : Text → Bool) (i : Nat) (line : Line) : Keeps isSystem [] lines i line := by
  have houtside : OutsideSystem isSystem lines i := by
    have hnone : (lines.take i).filterMap Line.entered? = [] := by
      rw [List.filterMap_eq_nil_iff]
      intro l hl
      exact hlines l (List.mem_of_mem_take hl)
    intro path hpath
    rw [nearestMarker?, hnone] at hpath
    cases hpath
  cases line with
  | marker number path text => trivial
  | other text => exact houtside
  | included path text => exact ⟨houtside, by simp⟩

theorem keptLines_of_no_marker {lines : List Line}
    (hlines : ∀ line ∈ lines, line.entered? = none) (isSystem : Text → Bool) :
    keptLines isSystem (expansions lines) lines = lines := by
  have hexpansions : expansions lines = [] := by
    rw [expansions, List.filterMap_eq_nil_iff.2 hlines, distinct]
  have hall : ∀ x ∈ lines.zipIdx, decide (Keeps isSystem [] lines x.2 x.1) = true := by
    intro x _
    exact decide_eq_true (keeps_of_no_marker hlines isSystem x.2 x.1)
  rw [hexpansions, keptLines, List.filter_eq_self.2 hall, List.zipIdx_map_fst]

theorem keptLines_eq_nil_iff (isSystem : Text → Bool) {lines : List Line} :
    keptLines isSystem (expansions lines) lines = [] ↔ lines = [] := by
  constructor
  · intro hkept
    -- a line is dropped only behind a marker, and markers stay
    have hmarkers : (keptLines isSystem (expansions lines) lines).filterMap Line.entered? =
        lines.filterMap Line.entered? :=
      filterMap_keptLines (fun _ h => h) isSystem (expansions lines) lines
    rw [hkept, List.filterMap_nil, eq_comm, List.filterMap_eq_nil_iff] at hmarkers
    rwa [keptLines_of_no_marker hmarkers] at hkept
  · rintro rfl
    rfl

theorem text_eq_nil_iff {isSystem : Text → Bool} {source text : Text} {r : Report}
    (h : reduce isSystem source = .ok (text, r)) : text = [] ↔ source = [] := by
  obtain ⟨lines, hlines, rfl, -⟩ := reduce_eq_ok_iff.1 h
  rw [reconstruct_eq_unlines, Text.unlines_eq_nil_iff, List.map_eq_nil_iff,
    keptLines_eq_nil_iff, ← Text.lines_eq_nil_iff, ← Line.map_render_of_classifyAll hlines,
    List.map_eq_nil_iff]

end Reduction

/-! ## Source files -/

namespace CompileCommand

section

variable {tools : Toolchain} {tree : FileTree} {c : CompileCommand}

theorem Prints.ne_nil {output : Text} (h : c.Prints tools tree output) : output ≠ [] := by
  obtain ⟨-, -, -, -, -, hstdout, hdecode⟩ := h
  rwa [← Utf8.encode_of_decode hdecode, Ne, Utf8.encode_eq_nil_iff] at hstdout

theorem runPreprocessor_of_silent {call : Call} {done : Completion} (hcall : c.call? = some call)
    (hdone : tools tree call = .ok done) (hstatus : done.status = 0)
    (hstdout : done.stdout = []) :
    (c.runPreprocessor tools tree).2 = .error (.tool (.emptyOutput c.file call.argv 0)) := by
  rw [runPreprocessor_of_call hcall, hdone]
  dsimp only
  rw [usableOutput, if_neg (by simpa using hstatus), hstatus, hstdout]
  rfl

theorem preprocess_of_silent (isSystem : Text → Bool) {call : Call} {done : Completion}
    (hcall : c.call? = some call) (hdone : tools tree call = .ok done)
    (hstatus : done.status = 0) (hstdout : done.stdout = []) :
    (c.preprocess tools isSystem tree).result =
        .error (.tool (.emptyOutput c.file call.argv 0)) ∧
      (c.preprocess tools isSystem tree).tree = tree := by
  apply preprocess_of_reducedOutput_eq_error
  have hrun := runPreprocessor_of_silent hcall hdone hstatus hstdout
  unfold reducedOutput
  generalize c.runPreprocessor tools tree = run at hrun ⊢
  obtain ⟨journal, outcome⟩ := run
  cases hrun
  rfl

variable {isSystem : Text → Bool}

theorem encode_ne_nil_of_reducedOutput {text : Text} {report : Report}
    (h : (c.reducedOutput tools isSystem tree).2 = .ok (text, report)) :
    Utf8.encode text ≠ [] := by
  obtain ⟨output, hprints, hreduce⟩ := reducedOutput_eq_ok_iff.1 h
  rw [Ne, Utf8.encode_eq_nil_iff, Reduction.text_eq_nil_iff hreduce]
  exact hprints.ne_nil

end

end CompileCommand

/-- A unit reduces to nothing only if it is empty.  Preprocessing refuses a program
that prints nothing, and never sets out to write an empty file.  It fills the source file
whenever it succeeds, and leaves no empty file that was not there before, unless its write
breaks off. -/
theorem reduction_never_empties (isSystem : Text → Bool) :
    (∀ source text r, Reduction.reduce isSystem source = .ok (text, r) →
      (text = [] ↔ source = [])) ∧
    ∀ (tools : Toolchain) (tree : FileTree) (c : CompileCommand),
      (∀ call done, c.call? = some call → tools tree call = .ok done →
        done.status = 0 → done.stdout = [] →
        (c.preprocess tools isSystem tree).result =
            .error (.tool (.emptyOutput c.file call.argv 0)) ∧
          (c.preprocess tools isSystem tree).tree = tree) ∧
      (∀ text report, (c.reducedOutput tools isSystem tree).2 = .ok (text, report) →
        Utf8.encode text ≠ []) ∧
      (∀ report, (c.preprocess tools isSystem tree).result = .ok report →
        ∃ content, content ≠ [] ∧
          (c.preprocess tools isSystem tree).tree.find? c.sourcePath = some (.file content) ∧
          (tree.MayRead c.sourcePath →
            (c.preprocess tools isSystem tree).tree.read c.sourcePath = .ok content)) ∧
      ∀ l, (c.preprocess tools isSystem tree).tree.lookup? l = some (.file []) →
        tree.lookup? l = some (.file []) ∨
          (c.preprocess tools isSystem tree).result = .error (.file .brokenOff) ∧
            ¬ tree.WritesComplete := by
  refine ⟨fun _ _ _ => Reduction.text_eq_nil_iff, ?_⟩
  intro tools tree c
  refine ⟨fun _ _ => CompileCommand.preprocess_of_silent isSystem,
    fun _ _ => CompileCommand.encode_ne_nil_of_reducedOutput, ?_⟩
  have hend := c.preprocessEnd_preprocess tools isSystem tree
  generalize (c.preprocess tools isSystem tree).result = result at hend ⊢
  generalize (c.preprocess tools isSystem tree).tree = left at hend ⊢
  cases hend with
  | failed e => exact ⟨nofun, fun _ hempty => Or.inl hempty⟩
  | @written text report place hreduced hwritable hfits =>
      have hne := CompileCommand.encode_ne_nil_of_reducedOutput hreduced
      have hfind := hwritable.find?_set (Utf8.encode text)
      have hsame := hwritable.sameDirectories_set (Utf8.encode text)
      refine ⟨fun _ _ => ⟨Utf8.encode text, hne, hfind, ?_⟩, ?_⟩
      · intro hread
        exact FileTree.read_eq_ok_iff_find?.2
          ⟨hwritable.noNull, hsame.mayRead_iff.2 hread, hfind⟩
      · intro l hempty
        rw [FileTree.lookup?_set tree _ hwritable.ne_nil] at hempty
        split at hempty
        next =>
          have hcontent : Utf8.encode text = [] := by simpa using hempty
          exact absurd hcontent hne
        next => exact Or.inl hempty
  | brokenOff hreduced hwritable hbreaks =>
      exact ⟨nofun, fun _ _ => Or.inr ⟨rfl, fun hcomplete => hbreaks (hcomplete _ _)⟩⟩

/-- Only the markers of this unit stay; a source file that holds nothing is not
preprocessed, and the empty file beside it is the one that was there. -/
theorem reduction_never_empties_echo :
    let isSystem := Header.underRoots Header.defaultRoots
    let unit :=
      "#include \"a.h\"\n# 1 \"/x/a.h\"\n# 1 \"/usr/b.h\"\n#include <c.h>\nint b;".toList
    let command := CompileCommand.echoCommand
    let full := CompileCommand.echoTree unit
    let done := command.preprocess CompileCommand.echoTools isSystem full
    let silent := command.preprocess CompileCommand.echoTools isSystem
      (CompileCommand.echoTree [])
    (∃ text, Reduction.reduce isSystem unit = .ok (text, ⟨5, 2, 1, 1, 1, 2⟩) ∧ text ≠ []) ∧
      silent.result = .error (.tool (.emptyOutput command.file
        ["cat".toList, "-E".toList, "-dI".toList] 0)) ∧
      silent.tree = CompileCommand.echoTree [] ∧
      done.result = .ok ⟨5, 2, 1, 1, 1, 2⟩ ∧
      (∃ content, content ≠ [] ∧ done.tree.read command.sourcePath = .ok content) ∧
      done.tree.lookup? ["src".toList, "b.c".toList] = some (.file []) ∧
      full.lookup? ["src".toList, "b.c".toList] = some (.file []) := by
  intro isSystem unit command full done silent
  have hreduce : Reduction.reduce isSystem unit =
      .ok ("# 1 \"/x/a.h\"\n# 1 \"/usr/b.h\"\n".toList, ⟨5, 2, 1, 1, 1, 2⟩) := by
    decide +kernel
  have hdone : done.result = .ok ⟨5, 2, 1, 1, 1, 2⟩ := by decide +kernel
  have hbeside : done.tree.lookup? ["src".toList, "b.c".toList] = some (.file []) := by
    decide +kernel
  obtain ⟨htext, hfiles⟩ := reduction_never_empties isSystem
  have hunit : unit ≠ [] := by decide +kernel
  obtain ⟨hresult, htree⟩ := (hfiles CompileCommand.echoTools (CompileCommand.echoTree [])
    command).1 ⟨command.directory, ["cat".toList, "-E".toList, "-dI".toList]⟩ ⟨[], [], 0⟩
      (by decide +kernel) (by decide +kernel) rfl rfl
  obtain ⟨-, -, hcontent, hempty⟩ := hfiles CompileCommand.echoTools full command
  obtain ⟨content, hne, -, hread⟩ := hcontent _ hdone
  have hstill := (hempty _ hbeside).resolve_right fun hbroken =>
    hbroken.2 (FileTree.writesComplete_of_room rfl)
  exact ⟨⟨_, hreduce, fun h => hunit ((htext _ _ _ hreduce).1 h)⟩, hresult, htree, hdone,
    ⟨content, hne, hread fun _ _ => List.not_mem_nil⟩, hbeside, hstill⟩

end UnitReducer
