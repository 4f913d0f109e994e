import UnitReducer.CommandLine.Arguments
import UnitReducer.Pipeline.SummaryJson
/-!
# The command line

The summary of a run goes to standard output as JSON, the log to standard error.  The exit status is
0 when every file went well, 1 when the run or a file failed, and 2 for wrong arguments.
-/

namespace UnitReducer.CommandLine

/-- What the program knows of its surroundings: its own name, the time that is put in front of log
lines, and the number of processors. -/
structure Surroundings where
  program : String
  clock : String
  processors : Nat

/-- How the program ended: with a status, or by a failure that nothing caught. -/
inductive Ending where
  | exit (status : Nat)
  | crashed (kind message : String)
deriving DecidableEq, Repr

structure Outcome where
  tree : FileTree
  calls : List Call
  stdout : String
  stderr : String
  ending : Ending

def usage (program : String) : String :=
  let head := s!"usage: {program} "
  let margin := "".pushn ' ' head.length
  "\n".intercalate [
    head ++ "[-h] --compile-commands COMPILE_COMMANDS",
    margin ++ "[--preprocessor] [--include INCLUDE]",
    margin ++ "[--system-root SYSTEM_ROOTS] [--workers WORKERS]",
    margin ++ "[--verbose]",
    margin ++ "[files ...]\n"]

def help (program : String) : String :=
  usage program ++ "\n" ++ "\n".intercalate [
    "Preprocess C/C++ sources from compile_commands.json and flatten them.",
    "",
    "positional arguments:",
    "  files                 Extra files to patch",
    "",
    "options:",
    "  -h, --help            show this help message and exit",
    "  --compile-commands COMPILE_COMMANDS",
    "                        Path to compile_commands.json",
    "  --preprocessor        Replace original source code with preprocessed one",
    "  --include INCLUDE     Add include directive on the top of files",
    "  --system-root SYSTEM_ROOTS",
    "                        Directory whose headers count as system headers;",
    "                        repeatable (default: /usr)",
    "  --workers WORKERS     Parallel preprocessor runs (default: CPU count)",
    "  --verbose, -v         Verbose logging\n"]

def usageError (program : String) (e : UsageError) : String :=
  s!"{usage program}{program}: error: {e.message}\n"

namespace Describe

def flag (b : Bool) : String :=
  if b then "True" else "False"

def path (t : Text) : Text :=
  "PosixPath(".toList ++ Quoted.text (Path.ofText t).text ++ [')']

def operand (written : Text → Text) : Operand → Text
  | .text t => written t
  | .removed => ['[', ']']

def optional {α : Type} (written : α → Text) : Option α → String
  | none => "None"
  | some a => (written a).toString

/-- The arguments as the log shows them. -/
def arguments (a : Arguments) : String :=
  let database := optional (operand path) a.database
  let files := (Quoted.bracket (a.files.map path)).toString
  let header := optional (operand Quoted.text) a.header
  let roots := optional (fun l => Quoted.bracket (l.map (operand Quoted.text))) a.systemRoots
  let workers := (a.workers.map fun n => s!"{n}").getD "[]"
  "\x7b" ++ s!"'compile_commands': {database}, 'files': {files}, " ++
    s!"'preprocessor': {flag a.preprocess}, 'include': {header}, 'system_roots': {roots}, " ++
    s!"'workers': {workers}, 'verbose': {flag a.verbose}" ++ "\x7d"

end Describe

/-- A removed operand is used as the written form of an empty list. -/
def headerText : Operand → Text
  | .text t => t
  | .removed => ['[', ']']

/-- A removed operand names no root. -/
def rootText : Operand → Text
  | .text t => t
  | .removed => []

/-- The roots that were given; an empty list of them means the default. -/
def systemRoots : Option (List Operand) → List Text
  | none | some [] => Header.defaultRoots
  | some roots => roots.map rootText

def printJson (j : Json) : String :=
  (j.pretty ++ ['\n']).toString

def logLine (clock : String) (r : Record) : String :=
  s!"{clock} [{r.level.name}] {r.message}\n"

/-- The log lines of a journal at the chosen level of detail. -/
def log (s : Surroundings) (verbose : Bool) (j : Journal) : String :=
  let level : Level := if verbose then .debug else .info
  String.join ((j.recordsFrom level).map (logLine s.clock))

/-- Runs the pipeline with arguments that have been checked; `before` has been logged already. -/
def runOptions (s : Surroundings) (tools : Toolchain) (scheduler : Scheduler) (verbose : Bool)
    (before : Journal) (tree : FileTree) (options : Options) : Outcome :=
  let done := Pipeline.run tools options tree Json.parse? scheduler
  let journal := before ++ done.journal
  match done.result with
  | .ok summary =>
    ⟨done.tree, journal.calls, printJson summary.toJson, log s verbose journal,
      .exit (if summary.isOk then 0 else 1)⟩
  | .error (.database e) =>
    if e.isRefusal then
      let journal := journal ++ .record .error .commandLine e.message
      let answer :=
        Json.object [Json.named "status" (.text "error"), Json.named "error" (.text e.message)]
      ⟨done.tree, journal.calls, printJson answer, log s verbose journal, .exit 1⟩
    else ⟨done.tree, journal.calls, "", log s verbose journal, .crashed e.kind e.message⟩
  | .error e => ⟨done.tree, journal.calls, "", log s verbose journal, .crashed e.kind e.message⟩

/-- Runs the pipeline with arguments as they were read. -/
def runArguments (s : Surroundings) (tools : Toolchain) (scheduler : Scheduler) (tree : FileTree)
    (a : Arguments) : Outcome :=
  let start := Journal.record .debug .commandLine s!"args = {Describe.arguments a}"
  let crash := fun kind message =>
    (⟨tree, [], "", log s a.verbose start, .crashed kind message⟩ : Outcome)
  match a.workers with
  | none => crash "TypeError" "'<' not supported between instances of 'list' and 'int'"
  | some workers =>
    if workers < 1 then
      let refusal := Journal.record .error .commandLine
        s!"--workers must be >= 1, got {workers}"
      ⟨tree, [], "", log s a.verbose (start ++ refusal), .exit 2⟩
    else
      match a.database with
      | none | some .removed => crash "AttributeError" "'list' object has no attribute 'resolve'"
      | some (.text t) =>
        let database := Path.ofText t
        if database.hasNull then crash FileError.nullCharacter.kind FileError.nullCharacter.message
        else
          match Options.make (database.resolve tree.workdir) (a.files.map Path.ofText)
            a.preprocess (a.header.map headerText) (systemRoots a.systemRoots) workers with
          | .error e => crash "ValueError" e.message
          | .ok options => runOptions s tools scheduler a.verbose start tree options

/-- The program: what it prints, what it does to the file tree, and how it ends. -/
def run (s : Surroundings) (tools : Toolchain) (tree : FileTree) (args : List Text)
    (scheduler : Scheduler := .inOrder) : Outcome :=
  match readArguments s.processors args with
  | .error .help => ⟨tree, [], help s.program, "", .exit 0⟩
  | .error (.usage e) => ⟨tree, [], "", usageError s.program e, .exit 2⟩
  | .ok a => runArguments s tools scheduler tree a

end UnitReducer.CommandLine
