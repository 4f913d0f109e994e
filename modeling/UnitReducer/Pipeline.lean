import UnitReducer.Database
import UnitReducer.Distinct
import UnitReducer.PatchFile
import UnitReducer.TaskPool
/-!
# A run over a compilation database

A run loads the database, preprocesses every source file when asked to, and then patches the files
of the database and the files given besides.  Failures that concern one file become rows of the
summary; when a file could not be preprocessed nothing is patched.
-/

namespace UnitReducer

/-- The options of a run.  There is at least one worker. -/
structure Options where
  database : Path
  files : List Path
  preprocess : Bool
  header : Option Text
  systemRoots : List Text
  workers : Nat
  workers_pos : 0 < workers

inductive OptionsError where
  | workers (count : Int)
deriving DecidableEq, Repr

def OptionsError.message : OptionsError → String
  | .workers count => s!"workers must be >= 1, got {count}"

/-- Options with a number of workers that is still to be checked. -/
def Options.make (database : Path) (files : List Path) (preprocess : Bool) (header : Option Text)
    (systemRoots : List Text) (workers : Int) : Except OptionsError Options :=
  if h : 1 ≤ workers then
    .ok ⟨database, files, preprocess, header, systemRoots, workers.toNat, by omega⟩
  else .error (.workers workers)

abbrev PatchRow := Row PatchError (List PatchStep)

/-- The outcome of a run.  `patched` is missing when the patches were not attempted. -/
structure Summary where
  database : Path
  commands : Nat
  preprocessed : List PreprocessRow
  patched : Option (List PatchRow)

/-- Failures that end a run. -/
inductive PipelineError where
  | database (e : DatabaseError)
  | preprocess (e : PreprocessError)
  | patch (e : PatchError)
deriving DecidableEq, Repr

namespace PipelineError

def message : PipelineError → String
  | .database e => e.message
  | .preprocess e => e.message
  | .patch e => e.message

def kind : PipelineError → String
  | .database e => e.kind
  | .preprocess e => e.kind
  | .patch e => e.kind

end PipelineError

namespace Summary

def preprocessFailed (s : Summary) : Nat :=
  s.preprocessed.countP Row.failed

def patchFailed (s : Summary) : Nat :=
  (s.patched.getD []).countP Row.failed

def isOk (s : Summary) : Bool :=
  s.preprocessFailed = 0 && s.patchFailed = 0

end Summary

namespace Pipeline

/-- The files of a database that are headers or sources, then the files given besides, each once. -/
def filesToPatch (commands : List CompileCommand) (extra : List Path) : List Path :=
  distinct ((commands.filter fun c => c.file.isPatched).map CompileCommand.sourcePath ++ extra)

/-- The commands whose files are preprocessed. -/
def sources (commands : List CompileCommand) : List CompileCommand :=
  commands.filter fun c => c.file.isSource

/-- The failure of an outcome, if it is not the matter of one file alone. -/
def escaping? {ε α : Type} (isPerFile : ε → Bool) (outcome : Except ε α) : Option ε :=
  match outcome with
  | .ok _ => none
  | .error e => if isPerFile e then none else some e

/-- The first failure that is not the matter of one file alone. -/
def fatal? (rows : List PreprocessRow) : Option PreprocessError :=
  rows.findSome? fun row => escaping? PreprocessError.isPerFile row.outcome

def preprocessFailure (row : PreprocessRow) : Journal :=
  match row.outcome with
  | .ok _ => .empty
  | .error e =>
    .record .error .pipeline
      s!"Failed to preprocess files in compile_commands.json: {row.file}: {e.kind}: {e.message}"

/-- Preprocesses the source files among the commands; their tasks take turns as scheduled.  When a
failure ends the run, tasks that have not begun may be given up, which is left out here. -/
def preprocessAll (tools : Toolchain) (isSystem : Text → Bool) (tree : FileTree)
    (commands : List CompileCommand) (schedule : List Nat) :
    Effect PreprocessError (List PreprocessRow) :=
  let done := (Pool.start tree (sources commands)).run tools isSystem schedule
  match fatal? done.rows with
  | some e => ⟨done.tree, done.journal, .error e⟩
  | none =>
    let failures := done.rows.map preprocessFailure
    ⟨done.tree, failures.foldl (· ++ ·) done.journal, .ok done.rows⟩

def patchNote (path : Path) (outcome : Except PatchError (List PatchStep)) : Journal :=
  match outcome with
  | .error e => .record .error .pipeline s!"Failed to patch {path}: {e.kind}: {e.message}"
  | .ok [] => .record .debug .pipeline s!"patched {path}: no changes"
  | .ok applied =>
    let names := ", ".intercalate (applied.map PatchStep.name)
    .record .debug .pipeline s!"patched {path}: {names}"

/-- Patches files one after another; stops at a failure that is not the matter of one file. -/
def patchEach (header : Option Text) :
    FileTree → List Path → Effect PatchError (List PatchRow)
  | tree, [] => ⟨tree, .empty, .ok []⟩
  | tree, path :: paths =>
    let (left, outcome) := tree.patchFile header path.isSource path
    match escaping? PatchError.isPerFile outcome with
    | some e => ⟨left, .empty, .error e⟩
    | none =>
      let others := patchEach header left paths
      ⟨others.tree, patchNote path outcome ++ others.journal,
        others.result.map (⟨path, outcome⟩ :: ·)⟩

/-- The preprocessing stage of a run, which may be switched off. -/
def preprocessStage (tools : Toolchain) (options : Options) (tree : FileTree)
    (commands : List CompileCommand) (scheduler : Scheduler) :
    Effect PreprocessError (List PreprocessRow) :=
  if options.preprocess then
    preprocessAll tools (Header.underRoots options.systemRoots) tree commands
      (scheduler.turns options.workers (sources commands).length)
  else ⟨tree, .empty, .ok []⟩

/-- The patch stage of a run, closed by a report. -/
def patchStage (options : Options) (tree : FileTree) (commands : List CompileCommand) :
    Effect PatchError (List PatchRow) :=
  let done := patchEach options.header tree (filesToPatch commands options.files)
  match done.result with
  | .error e => ⟨done.tree, done.journal, .error e⟩
  | .ok rows =>
    let failed := rows.countP Row.failed
    ⟨done.tree, done.journal ++ .record .info .pipeline
      s!"Patched {rows.length - failed} files ({failed} failed)", .ok rows⟩

/-- The run after the database has been loaded. -/
def runCommands (tools : Toolchain) (options : Options) (tree : FileTree)
    (commands : List CompileCommand) (scheduler : Scheduler) : Effect PipelineError Summary :=
  let first := preprocessStage tools options tree commands scheduler
  match first.result with
  | .error e => ⟨first.tree, first.journal, .error (.preprocess e)⟩
  | .ok rows =>
    let summary : Summary := ⟨options.database, commands.length, rows, none⟩
    if rows.any Row.failed then ⟨first.tree, first.journal, .ok summary⟩
    else
      let second := patchStage options first.tree commands
      ⟨second.tree, first.journal ++ second.journal,
        (second.result.mapError .patch).map fun patched => { summary with patched := some patched }⟩

/-- Runs everything over a database; `parse` reads its JSON, and the workers take turns as the
scheduler has it. -/
def run (tools : Toolchain) (options : Options) (tree : FileTree)
    (parse : Bytes → Option Json := Json.parse?) (scheduler : Scheduler := .inOrder) :
    Effect PipelineError Summary :=
  match Database.load tree options.database parse with
  | .error e => ⟨tree, .empty, .error (.database e)⟩
  | .ok loaded =>
    let (commands, skipped) := Database.dedupe loaded
    let note := Journal.record .info .pipeline
      s!"Loaded {commands.length} compile commands from {options.database}"
    let done := runCommands tools options tree commands scheduler
    ⟨done.tree, skipped ++ note ++ done.journal, done.result⟩

end Pipeline

end UnitReducer
