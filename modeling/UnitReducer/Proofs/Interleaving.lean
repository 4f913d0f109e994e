import UnitReducer.Proofs.FailureIsolation
import UnitReducer.Proofs.IndependentPools
/-!
# Tasks that take their steps in any order

Independent tasks end with the same rows and the same files under every schedule of
their steps as when they run one after another (`preprocessAll_interleaved`).
-/

namespace UnitReducer

open FileTree (AgreeOutside)

namespace Pipeline

/-- Independent tasks, none of which escapes, leave the same rows in the order of their
commands and the same files as one after another, in whatever order they take their two
steps. -/
theorem preprocessAll_interleaved {tools : Toolchain} {isSystem : Text → Bool} {tree : FileTree}
    {commands : List CompileCommand} {schedule : List Nat}
    (hindependent : IndependentTasks tools isSystem tree (sources commands))
    (hways : WaysApart tree (sources commands))
    (hescapes : ∀ c ∈ sources commands, ¬ c.Escapes tools isSystem tree)
    (hschedule : Pool.IsInterleaving (sources commands).length schedule) :
    (preprocessAll tools isSystem tree commands schedule).result =
        .ok (preprocessEach tools isSystem tree (sources commands)).2 ∧
      AgreeOutside ∅ (preprocessAll tools isSystem tree commands schedule).tree
        (preprocessEach tools isSystem tree (sources commands)).1 := by
  have hstart := Pool.sound_start tools isSystem tree (sources commands)
  have hsound := hstart.run hindependent schedule
  have hcomplete := Pool.complete_run tools isSystem tree hschedule
  -- one task after another is one of the schedules
  have hinOrder := Pool.isInterleaving_inOrder (sources commands).length
  have hsound' := hstart.run hindependent (Pool.inOrder 0 (sources commands).length)
  have hcomplete' := Pool.complete_run tools isSystem tree hinOrder
  obtain ⟨htree, hrows⟩ := Pool.run_inOrder tools isSystem tree (sources commands)
  rw [← htree, ← hrows]
  constructor
  · refine preprocessAll_eq_ok_iff.2 ⟨?_, ?_⟩
    · rw [hsound'.rows_eq hcomplete' hways, fatal?_eq_none_iff]
      intro row hrow e he
      obtain ⟨c, hc, rfl⟩ := List.mem_map.1 hrow
      rw [c.result_preprocess] at he
      exact (CompileCommand.not_escapes_iff tree).1 (hescapes c hc) e he
    · rw [hsound.rows_eq hcomplete hways, ← hsound'.rows_eq hcomplete' hways]
  · rw [tree_preprocessAll]
    exact hsound.agreeOutside_empty hcomplete hsound' hcomplete'

/-! ## Three tasks out of order -/

def mixedPrograms : ProgramTable :=
  [("cat".toList, .copies (Path.ofText "a.c".toList) [] 0),
    ("cc".toList, .prints ⟨Utf8.encode "int b;\n".toList, [], 0⟩)]

def mixedCommand (file program : String) : CompileCommand :=
  ⟨Path.ofText "src".toList, Path.ofText file.toList, some [program.toList], none⟩

def mixedCommands : List CompileCommand :=
  [mixedCommand "a.c" "cat", mixedCommand "b.c" "cc", mixedCommand "c.c" "ld"]

def mixedTree : FileTree :=
  ⟨[], [(["src".toList], .directory),
    (["src".toList, "a.c".toList], .file (Utf8.encode "int a;\r\n".toList))], .none⟩

theorem filesAside_mixed : FilesAside mixedTree (sources mixedCommands) := by
  constructor <;> decide +kernel

theorem independentTasks_mixed :
    IndependentTasks mixedPrograms.toolchain (Header.underRoots Header.defaultRoots) mixedTree
      (sources mixedCommands) :=
  ProgramTable.independentTasks _ (FileTree.differentFiles_of_locate_ne (by decide +kernel))
    filesAside_mixed (by decide +kernel)

/-- The three tasks take turns, the last one first; two files are written, and the
missing program has its row. -/
theorem preprocessAll_interleaved_mixed :
    let isSystem := Header.underRoots Header.defaultRoots
    let done := preprocessAll mixedPrograms.toolchain isSystem mixedTree mixedCommands
      [2, 1, 0, 1, 0, 2]
    let each := preprocessEach mixedPrograms.toolchain isSystem mixedTree (sources mixedCommands)
    done.result = .ok each.2 ∧ AgreeOutside ∅ done.tree each.1 := by
  intro isSystem done each
  have hescapes : ∀ c ∈ sources mixedCommands,
      ¬ c.Escapes mixedPrograms.toolchain isSystem mixedTree := by
    have hrows : fatal? ((sources mixedCommands).map fun c =>
        ⟨c.file, (c.preprocess mixedPrograms.toolchain isSystem mixedTree).result⟩) = none := by
      decide +kernel
    intro c hc
    rw [CompileCommand.not_escapes_iff mixedTree]
    intro e he
    rw [← c.result_preprocess] at he
    exact fatal?_eq_none_iff.1 hrows _ (List.mem_map_of_mem hc) e he
  exact preprocessAll_interleaved independentTasks_mixed filesAside_mixed.waysApart hescapes
    (by decide)

end Pipeline

end UnitReducer
