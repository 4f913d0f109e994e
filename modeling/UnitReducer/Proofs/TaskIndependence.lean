import UnitReducer.Pipeline
import UnitReducer.Proofs.AllOrNothing
/-!
# Tasks that do not disturb each other

When a task writes a file, and what it means that the tasks of a list of commands
touch different files and that no program looks at a file that another task writes.
Under these conditions a program answers as if its task were the first to run
(`IndependentPrograms.reducedOutput_eq`).
-/

namespace UnitReducer

open FileTree (AgreeOutside)

/-! ## Paths to different files -/

/-- No two of the paths lead to one location. -/
def FileTree.DifferentFiles (t : FileTree) (paths : List Path) : Prop :=
  paths.Pairwise fun p q => ∀ l, t.locate p = .ok l → t.locate q ≠ .ok l

theorem FileTree.differentFiles_of_locate_ne {tree : FileTree} {paths : List Path}
    (h : paths.Pairwise fun p q => tree.locate p ≠ tree.locate q) : tree.DifferentFiles paths :=
  h.imp fun hne _ hp hq => hne (hp.trans hq.symm)

theorem FileTree.DifferentFiles.locate_ne {t : FileTree} {paths : List Path}
    (h : t.DifferentFiles paths) {i j : Nat} (hij : i ≠ j) {p q : Path} (hp : paths[i]? = some p)
    (hq : paths[j]? = some q) {l : Location} (hl : t.locate p = .ok l) : t.locate q ≠ .ok l := by
  obtain ⟨hi, rfl⟩ := List.getElem?_eq_some_iff.1 hp
  obtain ⟨hj, rfl⟩ := List.getElem?_eq_some_iff.1 hq
  rcases Nat.lt_or_gt_of_ne hij with hlt | hlt
  · exact List.pairwise_iff_getElem.1 h i j hi hj hlt l hl
  · intro hl'
    exact List.pairwise_iff_getElem.1 h j i hj hi hlt l hl' hl

theorem FileTree.AgreeOutside.find?_congr {changed : Set Location} {t t' : FileTree}
    (h : AgreeOutside changed t t') {p : Path} (hway : ∀ l ∈ t'.way p, l ∉ changed)
    (hplace : ∀ l, t'.locate p = .ok l → l ∉ changed) : t.find? p = t'.find? p := by
  unfold FileTree.find?
  rw [h.locate_congr hway]
  cases hlocate : t'.locate p with
  | error fault => rfl
  | ok l => exact h.lookup_eq l (hplace l hlocate)

theorem FileTree.AgreeOutside.read_congr {changed : Set Location} {t t' : FileTree}
    (h : AgreeOutside changed t t') {p : Path} (hway : ∀ l ∈ t'.way p, l ∉ changed)
    (hplace : ∀ l, t'.locate p = .ok l → l ∉ changed) : t.read p = t'.read p := by
  unfold FileTree.read
  rw [h.locate_congr hway, h.limits_eq]
  cases hlocate : t'.locate p with
  | error fault => rfl
  | ok l =>
      dsimp only
      rw [h.lookup_eq l (hplace l hlocate)]

/-! ## Files that tasks write -/

/-- The task of a command comes to write its source file, which is at `l`. -/
structure CompileCommand.Writes (tools : Toolchain) (isSystem : Text → Bool) (tree : FileTree)
    (c : CompileCommand) (l : Location) : Prop where
  reduces : ∃ text report, (c.reducedOutput tools isSystem tree).2 = .ok (text, report)
  writable : tree.Writable c.sourcePath l

namespace CompileCommand

variable {tools : Toolchain} {isSystem : Text → Bool} {tree : FileTree} {c : CompileCommand}
  {text : Text} {report : Report} {l : Location}

theorem Writes.locate_eq (h : c.Writes tools isSystem tree l) :
    tree.locate c.sourcePath = .ok l :=
  h.writable.locate_eq

theorem writes_iff_of_writable {l' : Location}
    (hreduced : (c.reducedOutput tools isSystem tree).2 = .ok (text, report))
    (hwritable : tree.Writable c.sourcePath l) :
    c.Writes tools isSystem tree l' ↔ l' = l := by
  constructor
  · intro h
    exact hwritable.unique h.locate_eq
  · rintro rfl
    exact ⟨⟨text, report, hreduced⟩, hwritable⟩

theorem Writes.lookup_eq (h : c.Writes tools isSystem tree l) :
    ∃ text report, (c.reducedOutput tools isSystem tree).2 = .ok (text, report) ∧
      (c.preprocess tools isSystem tree).tree.lookup? l =
        some (.file (tree.stored l (Utf8.encode text))) := by
  obtain ⟨⟨text, report, hreduced⟩, hwritable⟩ := h
  refine ⟨text, report, hreduced, ?_⟩
  rw [(preprocess_of_reducedOutput_eq_ok hreduced).2, tree_overwriteSource, hwritable.write_eq]
  exact hwritable.lookup?_set_self _

end CompileCommand

/-- What the tasks of all commands but the one at position `k` write. -/
def writtenByOthers (tools : Toolchain) (isSystem : Text → Bool) (tree : FileTree)
    (commands : List CompileCommand) (k : Nat) : Set Location :=
  {l | ∃ c ∈ commands.eraseIdx k, c.Writes tools isSystem tree l}

theorem FileTree.DifferentFiles.not_mem_writtenByOthers {tools : Toolchain}
    {isSystem : Text → Bool} {tree : FileTree} {commands : List CompileCommand}
    (h : tree.DifferentFiles (commands.map CompileCommand.sourcePath)) {k : Nat}
    {c : CompileCommand} (hc : commands[k]? = some c) {l : Location}
    (hl : tree.locate c.sourcePath = .ok l) :
    l ∉ writtenByOthers tools isSystem tree commands k := by
  rintro ⟨d, hd, hwrites⟩
  obtain ⟨i, hik, hi⟩ := List.mem_eraseIdx_iff_getElem?.1 hd
  have hpath : ∀ {j : Nat} {e : CompileCommand}, commands[j]? = some e →
      (commands.map CompileCommand.sourcePath)[j]? = some e.sourcePath := by
    intro j e he
    rw [List.getElem?_map, he]
    rfl
  exact h.locate_ne hik (hpath hi) (hpath hc) hwrites.locate_eq hl

/-- No program answers differently because of files that other tasks write. -/
def IndependentPrograms (tools : Toolchain) (isSystem : Text → Bool) (tree : FileTree)
    (commands : List CompileCommand) : Prop :=
  ∀ (k : Nat) (c : CompileCommand) (call : Call), commands[k]? = some c → c.call? = some call →
    ∀ t, AgreeOutside (writtenByOthers tools isSystem tree commands k) t tree →
      tools t call = tools tree call

theorem CompileCommand.directory_of_call? {c : CompileCommand} {call : Call}
    (h : c.call? = some call) : call.directory = c.directory := by
  obtain ⟨argv, arguments, -, -, rfl⟩ := call?_eq_some_iff.1 h
  rfl

theorem CompileCommand.reducedOutput_congr {tools : Toolchain} (isSystem : Text → Bool)
    {t tree : FileTree} {c : CompileCommand}
    (h : ∀ call, c.call? = some call → tools t call = tools tree call) :
    c.reducedOutput tools isSystem t = c.reducedOutput tools isSystem tree := by
  have hrun : c.runPreprocessor tools t = c.runPreprocessor tools tree := by
    unfold runPreprocessor
    unfold call? at h
    cases hargv : c.argv with
    | error e => rfl
    | ok argv =>
        dsimp only
        cases harguments : PreprocessArgv.ofArgv? argv with
        | none => rfl
        | some arguments =>
            have hanswer := h ⟨c.directory, arguments⟩ (by simp [hargv, harguments])
            dsimp only
            rw [hanswer]
  unfold reducedOutput
  rw [hrun]

/-- The tasks of the commands write different files, and no program answers differently
because of what another task writes. -/
structure IndependentTasks (tools : Toolchain) (isSystem : Text → Bool) (tree : FileTree)
    (commands : List CompileCommand) : Prop where
  files : tree.DifferentFiles (commands.map CompileCommand.sourcePath)
  programs : IndependentPrograms tools isSystem tree commands

/-- No source file stands on the way to another one. -/
def WaysApart (tree : FileTree) (commands : List CompileCommand) : Prop :=
  ∀ (i j : Nat) (c d : CompileCommand), i ≠ j → commands[i]? = some c → commands[j]? = some d →
    ∀ l, tree.locate c.sourcePath = .ok l → l ∉ tree.way d.sourcePath

section OneTask

variable {tools : Toolchain} {isSystem : Text → Bool} {tree t : FileTree}
  {commands : List CompileCommand} {k : Nat} {c : CompileCommand}

theorem IndependentPrograms.reducedOutput_eq
    (h : IndependentPrograms tools isSystem tree commands) (hc : commands[k]? = some c)
    (ht : AgreeOutside (writtenByOthers tools isSystem tree commands k) t tree) :
    c.reducedOutput tools isSystem t = c.reducedOutput tools isSystem tree :=
  CompileCommand.reducedOutput_congr isSystem fun call hcall => h k c call hc hcall t ht

theorem WaysApart.target_eq (hways : WaysApart tree commands)
    (hfiles : tree.DifferentFiles (commands.map CompileCommand.sourcePath))
    (hc : commands[k]? = some c)
    (ht : AgreeOutside (writtenByOthers tools isSystem tree commands k) t tree) :
    t.target c.sourcePath = tree.target c.sourcePath := by
  apply ht.target_congr
  · rintro l hl ⟨d, hd, hwrites⟩
    obtain ⟨i, hik, hi⟩ := List.mem_eraseIdx_iff_getElem?.1 hd
    exact hways i k d c hik hi hc l hwrites.locate_eq hl
  · intro l hl
    exact hfiles.not_mem_writtenByOthers hc hl

end OneTask

/-! ## Programs of a table -/

def Program.reads? : Program → Option Path
  | .copies file _ _ => some file
  | _ => none

theorem Program.run_congr {program : Program} {t tree : FileTree} {call : Call}
    (h : ∀ file ∈ program.reads?,
      t.read (call.directory.join file) = tree.read (call.directory.join file)) :
    program.run t call = program.run tree call := by
  cases program with
  | refuses fault => rfl
  | prints completion => rfl
  | copies file stderr status =>
      have hfile := h file rfl
      unfold Program.run
      dsimp only
      rw [hfile]

theorem ProgramTable.toolchain_congr {programs : ProgramTable} {changed : Set Location}
    {t tree : FileTree} (h : AgreeOutside changed t tree) {call : Call}
    (hway : ∀ l ∈ tree.way call.directory, l ∉ changed)
    (hplace : ∀ l, tree.locate call.directory = .ok l → l ∉ changed)
    (hprogram : ∀ program ∈ programs.lookup (call.argv.headD []),
      program.run t call = program.run tree call) :
    programs.toolchain t call = programs.toolchain tree call := by
  unfold ProgramTable.toolchain
  rw [h.find?_congr hway hplace]
  split
  · rfl
  · rfl
  · cases hlookup : programs.lookup (call.argv.headD []) with
    | none => rfl
    | some program =>
        dsimp only
        rw [hprogram program hlookup]

/-- No source file is a directory of one of the commands, or stands on the way to such a
directory or to a source file. -/
structure FilesAside (tree : FileTree) (commands : List CompileCommand) : Prop where
  sources : ∀ c ∈ commands, ∀ d ∈ commands, ∀ l, tree.locate c.sourcePath = .ok l →
    l ∉ tree.way d.sourcePath
  directories : ∀ c ∈ commands, ∀ d ∈ commands, ∀ l, tree.locate c.sourcePath = .ok l →
    l ∉ tree.way d.directory ∧ tree.locate d.directory ≠ .ok l

theorem FilesAside.waysApart {tree : FileTree} {commands : List CompileCommand}
    (h : FilesAside tree commands) : WaysApart tree commands :=
  fun _ _ c d _ hc hd => h.sources c (List.mem_of_getElem? hc) d (List.mem_of_getElem? hd)

/-- Programs of a table that look at nothing but the source file of their own task do not
depend on other tasks. -/
theorem ProgramTable.independentTasks {programs : ProgramTable} (isSystem : Text → Bool)
    {tree : FileTree} {commands : List CompileCommand}
    (hfiles : tree.DifferentFiles (commands.map CompileCommand.sourcePath))
    (haside : FilesAside tree commands)
    (hown : ∀ c ∈ commands, ∀ call ∈ c.call?, ∀ program ∈ programs.lookup (call.argv.headD []),
      ∀ file ∈ program.reads?, call.directory.join file = c.sourcePath) :
    IndependentTasks programs.toolchain isSystem tree commands := by
  refine ⟨hfiles, ?_⟩
  intro k c call hc hcall t ht
  have hmem := List.mem_of_getElem? hc
  have hdirectory : ∀ l ∈ writtenByOthers programs.toolchain isSystem tree commands k,
      l ∉ tree.way call.directory ∧ tree.locate call.directory ≠ .ok l := by
    rintro l ⟨d, hd, hwrites⟩
    rw [CompileCommand.directory_of_call? hcall]
    exact haside.directories d (List.mem_of_mem_eraseIdx hd) c hmem l hwrites.locate_eq
  apply toolchain_congr ht
  · intro l hl hchanged
    exact (hdirectory l hchanged).1 hl
  · intro l hl hchanged
    exact (hdirectory l hchanged).2 hl
  · intro program hprogram
    apply Program.run_congr
    intro file hfile
    rw [hown c hmem call hcall program hprogram file hfile]
    apply ht.read_congr
    · rintro l hl ⟨d, hd, hwrites⟩
      exact haside.sources d (List.mem_of_mem_eraseIdx hd) c hmem l hwrites.locate_eq hl
    · intro l hl
      exact hfiles.not_mem_writtenByOthers hc hl

end UnitReducer
