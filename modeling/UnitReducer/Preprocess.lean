import UnitReducer.Command
import UnitReducer.Journal
import UnitReducer.Reduction
/-!
# Preprocessing one file

A file is preprocessed in two steps.  The first runs the preprocessor and reduces what it prints;
it only reads the file tree.  The second writes the reduced text over the source file.
-/

namespace UnitReducer

/-- Failures of a preprocessor run, with the file it was for, its arguments and its status.  A call
that the system refuses for a null character is none of them. -/
inductive ToolError where
  | emptyArgv
  | start (argv : List Text) (cause : StartError)
  | failed (file : Path) (argv : List Text) (status : Int)
  | invalidUtf8 (file : Path) (argv : List Text) (status : Int)
  | emptyOutput (file : Path) (argv : List Text) (status : Int)
deriving DecidableEq, Repr

inductive PreprocessError where
  | command (e : CommandError)
  | tool (e : ToolError)
  | marker (e : MarkerError)
  /-- The file cannot be written, or a null character is in its path or in the call. -/
  | file (e : FileError)
deriving DecidableEq, Repr

namespace ToolError

def message : ToolError → String
  | .emptyArgv => "Empty compiler argv"
  | .start argv cause => s!"Failed to start {(argv.headD []).toString}: {cause.message}"
  | .failed file _ status => s!"Preprocessor exited with status {status} for {file}"
  | .invalidUtf8 file _ _ => s!"Invalid UTF-8 in preprocessor output for {file}"
  | .emptyOutput file _ _ => s!"Empty preprocessor output for {file}"

def argv? : ToolError → Option (List Text)
  | .emptyArgv => none
  | .start argv _ => some argv
  | .failed _ argv _ => some argv
  | .invalidUtf8 _ argv _ => some argv
  | .emptyOutput _ argv _ => some argv

def status? : ToolError → Option Int
  | .emptyArgv => none
  | .start _ _ => none
  | .failed _ _ status => some status
  | .invalidUtf8 _ _ status => some status
  | .emptyOutput _ _ status => some status

end ToolError

namespace PreprocessError

def message : PreprocessError → String
  | .command e => e.message
  | .tool e => e.message
  | .marker e => e.message
  | .file e => e.message

/-- The name under which a failure is reported. -/
def kind : PreprocessError → String
  | .command _ => "CompileCommandsError"
  | .tool _ => "CompilerError"
  | .marker (.outOfRange _ _) => "MalformedLineMarkerError"
  | .marker (.tooManyDigits _) => "ValueError"
  | .file e => e.kind

/-- A failure that concerns one file alone.  Any other failure ends the whole run. -/
def isPerFile : PreprocessError → Bool
  | .marker (.tooManyDigits _) => false
  | .file .nullCharacter => false
  | _ => true

end PreprocessError

namespace CompileCommand

/-- What a program that has run printed, if it can be used. -/
def usableOutput (c : CompileCommand) (argv : List Text) (done : Completion) :
    Except ToolError Text :=
  if done.status ≠ 0 then .error (.failed c.file argv done.status)
  else
    match Utf8.decode done.stdout with
    | .error _ => .error (.invalidUtf8 c.file argv done.status)
    | .ok [] => .error (.emptyOutput c.file argv done.status)
    | .ok output => .ok output

/-- Runs the preprocessor in the directory of a command and yields what it prints. -/
def runPreprocessor (tools : Toolchain) (tree : FileTree) (c : CompileCommand) :
    Journal × Except PreprocessError Text :=
  match c.argv with
  | .error e => (.empty, .error (.command e))
  | .ok compileArgv =>
    match PreprocessArgv.ofArgv? compileArgv with
    | none => (.empty, .error (.tool .emptyArgv))
    | some argv =>
      let call : Call := ⟨c.directory, argv⟩
      let started :=
        Journal.record .debug .preprocessor
          s!"preprocessor: file={c.file} argv={(Quoted.list argv).toString}" ++
        Journal.call call
      match tools tree call with
      | .error .nullCharacter => (started, .error (.file .nullCharacter))
      | .error (.start cause) => (started, .error (.tool (.start argv cause)))
      | .ok done =>
        let complained :=
          if done.stderr = [] then Journal.empty
          else
            let complaint := (Utf8.decodeLossy done.stderr).trimRight.toString
            Journal.record .warning .preprocessor
              s!"preprocessor stderr for {c.file}:\n{complaint}"
        (started ++ complained, (c.usableOutput argv done).mapError .tool)

/-- First step: the reduced output of the preprocessor and its report. -/
def reducedOutput (tools : Toolchain) (isSystem : Text → Bool) (tree : FileTree)
    (c : CompileCommand) : Journal × Except PreprocessError (Text × Report) :=
  match c.runPreprocessor tools tree with
  | (journal, .error e) => (journal, .error e)
  | (journal, .ok output) =>
    (journal, (Reduction.reduce isSystem output).mapError .marker)

/-- Second step: the reduced text goes over the source file. -/
def overwriteSource (c : CompileCommand) (reduced : Text) (report : Report) (tree : FileTree) :
    Effect PreprocessError Report :=
  match tree.write c.sourcePath (Utf8.encode reduced) with
  | (left, .error e) => ⟨left, .empty, .error (.file e)⟩
  | (written, .ok _) =>
    let note := s!"reduced {c.file}: {report.retained}/{report.total} lines kept, " ++
      s!"{report.expandedHeaders} headers expanded"
    ⟨written, .record .debug .preprocessor note, .ok report⟩

/-- Replaces the source file of a command by its reduced preprocessed form. -/
def preprocess (tools : Toolchain) (isSystem : Text → Bool) (tree : FileTree)
    (c : CompileCommand) : Effect PreprocessError Report :=
  match c.reducedOutput tools isSystem tree with
  | (journal, .error e) => ⟨tree, journal, .error e⟩
  | (journal, .ok (reduced, report)) =>
    let done := c.overwriteSource reduced report tree
    ⟨done.tree, journal ++ done.journal, done.result⟩

end CompileCommand

end UnitReducer
