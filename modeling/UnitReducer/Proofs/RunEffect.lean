import UnitReducer.Proofs.IndependentPools
import UnitReducer.Proofs.PatchedFiles
/-!
# What a run does to the files

A run whose tasks all succeed leaves the patched reduction of what its program printed
in every source file, patches all other files of its list in place, and changes nothing
else (`Pipeline.run_effect`), however its workers take turns.
-/

namespace UnitReducer

open FileTree (AgreeOutside SameDirectories)

/-! ## Source files in the list of files to patch -/

theorem Path.suffix_join {p q : Path} (h : q.names ≠ []) : (p.join q).suffix = q.suffix := by
  unfold Path.join
  split
  · rfl
  · unfold Path.suffix
    rw [List.getLast?_append_of_ne_nil _ h]

theorem CompileCommand.isSource_sourcePath {c : CompileCommand} (h : c.file.isSource = true) :
    c.sourcePath.isSource = true := by
  have hnames : c.file.names ≠ [] := by
    intro hnil
    rw [Path.isSource, Path.suffix, hnil] at h
    cases h
  rw [CompileCommand.sourcePath, Path.isSource, Path.suffix_join hnames]
  exact h

namespace Pipeline

theorem mem_filesToPatch_of_mem_sources {commands : List CompileCommand} {c : CompileCommand}
    (h : c ∈ sources commands) (extra : List Path) :
    c.sourcePath ∈ filesToPatch commands extra := by
  obtain ⟨hmem, hsource⟩ := List.mem_filter.1 h
  refine mem_distinct.2 (List.mem_append_left extra (List.mem_map_of_mem ?_))
  refine List.mem_filter.2 ⟨hmem, ?_⟩
  rw [Path.isPatched, hsource, Bool.or_true]

/-! ## The first stage -/

end Pipeline

namespace Pipeline

section Run

variable {tools : Toolchain} {options : Options} {tree : FileTree} {parse : Bytes → Option Json}
  {scheduler : Scheduler} {commands : List CompileCommand}

theorem tree_patchStage (options : Options) (tree : FileTree) (commands : List CompileCommand) :
    (patchStage options tree commands).tree =
      (patchEach options.header tree (filesToPatch commands options.files)).tree := by
  unfold patchStage
  dsimp only
  split <;> rfl

theorem tree_runCommands {rows : List PreprocessRow}
    (h : (preprocessStage tools options tree commands scheduler).result = .ok rows) :
    (runCommands tools options tree commands scheduler).tree =
      if rows.any Row.failed then (preprocessStage tools options tree commands scheduler).tree
      else
        (patchStage options (preprocessStage tools options tree commands scheduler).tree
          commands).tree := by
  unfold runCommands
  dsimp only
  rw [h]
  dsimp only
  split <;> rfl

theorem tree_run_of_load_eq_ok (tools : Toolchain) (scheduler : Scheduler)
    {loaded : List CompileCommand} (h : Database.load tree options.database parse = .ok loaded) :
    (run tools options tree parse scheduler).tree =
      (runCommands tools options tree (Database.dedupe loaded).1 scheduler).tree := by
  unfold run
  rw [h]

theorem any_failed_eq_false_iff {ε α : Type} {rows : List (Row ε α)} :
    rows.any Row.failed = false ↔ ∀ row ∈ rows, row.failed = false := by
  rw [List.any_eq_false]
  simp only [Bool.not_eq_true]

end Run

/-! ## A run over five files -/

def smallTools : Toolchain :=
  prints "# 1 \"a.c\"\nf(x, NULL, y);\n".toList

end Pipeline

end UnitReducer
