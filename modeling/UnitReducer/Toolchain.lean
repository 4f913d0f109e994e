import UnitReducer.FileTree
/-!
# Programs

A toolchain answers calls of external programs: it refuses a call, or yields what the program
printed and its exit status.  What it answers may depend on the file tree, which it does not change.
-/

namespace UnitReducer

/-- A program to run in a directory; its first argument names it. -/
structure Call where
  directory : Path
  argv : List Text
deriving DecidableEq, Repr

inductive StartFault where
  | noEntry
  | argumentsTooLong
  | badFormat
  | noMemory
  | permission
  | notDirectory
deriving DecidableEq, Repr

/-- A program that did not start, and the name that is to blame. -/
structure StartError where
  fault : StartFault
  name : Text
deriving DecidableEq, Repr

structure Completion where
  stdout : Bytes
  stderr : Bytes
  status : Int
deriving DecidableEq, Repr

/-- A call that yields nothing.  The program did not start, or there is a null character in the
call, which is refused before anything is started. -/
inductive CallFault where
  | start (cause : StartError)
  | nullCharacter
deriving DecidableEq, Repr

abbrev Toolchain := FileTree → Call → Except CallFault Completion

def StartFault.message : StartFault → String
  | .noEntry => "[Errno 2] No such file or directory"
  | .argumentsTooLong => "[Errno 7] Argument list too long"
  | .badFormat => "[Errno 8] Exec format error"
  | .noMemory => "[Errno 12] Cannot allocate memory"
  | .permission => "[Errno 13] Permission denied"
  | .notDirectory => "[Errno 20] Not a directory"

def StartError.message (e : StartError) : String :=
  s!"{e.fault.message}: {(Quoted.text e.name).toString}"

/-- A program that is known by what it does. -/
inductive Program where
  | refuses (fault : StartFault)
  | prints (completion : Completion)
  /-- Prints a file of the directory it runs in. -/
  | copies (file : Path) (stderr : Bytes) (status : Int)
deriving DecidableEq, Repr

/-- Programs by name. -/
abbrev ProgramTable := List (Text × Program)

def Program.run (program : Program) (tree : FileTree) (call : Call) :
    Except StartError Completion :=
  match program with
  | .refuses fault => .error ⟨fault, call.argv.headD []⟩
  | .prints completion => .ok completion
  | .copies file stderr status =>
    match tree.read (call.directory.join file) with
    | .ok content => .ok ⟨content, stderr, status⟩
    | .error _ => .ok ⟨[], [], 1⟩

/-- Runs the programs of a table.  The directory is looked at first; an unknown program does not
start. -/
def ProgramTable.toolchain (programs : ProgramTable) : Toolchain := fun tree call =>
  match tree.find? call.directory with
  | none => .error (.start ⟨.noEntry, call.directory.text⟩)
  | some (.file _) => .error (.start ⟨.notDirectory, call.directory.text⟩)
  | some .directory =>
    match programs.lookup (call.argv.headD []) with
    | none => .error (.start ⟨.noEntry, call.argv.headD []⟩)
    | some program => (program.run tree call).mapError .start

/-- A null character in the directory or in an argument. -/
def Call.hasNull (call : Call) : Bool :=
  call.directory.hasNull || call.argv.any fun argument => argument.contains '\x00'

/-- The same programs behind a system that refuses null characters. -/
def Toolchain.refusingNull (tools : Toolchain) : Toolchain := fun tree call =>
  if call.hasNull then .error .nullCharacter else tools tree call

end UnitReducer
