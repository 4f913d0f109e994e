import Std.Time.DateTime.Timestamp
import UnitReducer.CommandLine.Run
/-!
# The program

The files that a run may look at are read into a file tree, the run is carried out on the tree, and
the files that it changed are written back.  No program is known here that could be started, so
preprocessing reports the compiler as not found.
-/

open UnitReducer

namespace UnitReducer.Disk

def locationText (loc : Location) : String :=
  (Path.text ⟨.single, loc⟩).toString

/-- Whether a file can be opened in a mode that leaves it as it is. -/
def opens (name : String) (mode : IO.FS.Mode) : IO Bool := do
  try
    discard (IO.FS.Handle.mk name mode)
    return true
  catch _ => return false

/-- Adds a file and what the disk allows with it. -/
def observeFile (tree : FileTree) (loc : Location) : IO FileTree := do
  let name := locationText loc
  let mut limits := tree.limits
  unless ← opens name .readWrite do
    limits := { limits with unwritable := loc :: limits.unwritable }
  if ← opens name .read then
    let content := (← IO.FS.readBinFile name).data.toList
    return { tree with limits }.set loc (.file content)
  else
    limits := { limits with unreadable := loc :: limits.unreadable }
    return { tree with limits }.set loc (.file [])

/-- Adds what the disk holds at a location. -/
def observe (tree : FileTree) (loc : Location) : IO FileTree := do
  let place := (← IO.currentDir) / locationText loc
  if ← place.isDir then
    return if loc = [] then tree else tree.set loc .directory
  else if ← place.pathExists then observeFile tree loc
  else return tree

/-- Adds every location on the way along a path. -/
def observePath (tree : FileTree) (p : Path) : IO FileTree := do
  let mut tree := tree
  let mut loc := if p.isAbsolute then [] else tree.workdir
  for name in p.names do
    loc := if name = Path.up then loc.dropLast else loc ++ [name]
    tree ← observe tree loc
  return tree

/-- Adds the database, the files that it names and the files given besides. -/
def observeArguments (tree : FileTree) (a : CommandLine.Arguments) : IO FileTree := do
  match a.database with
  | some (.text t) =>
    let database := (Path.ofText t).resolve tree.workdir
    let tree ← observePath tree database
    let commands := (Database.load tree database).toOption.getD []
    let paths := commands.map CompileCommand.sourcePath ++ a.files.map Path.ofText
    paths.foldlM observePath tree
  | _ => return tree

def saveChanges (before after : FileTree) : IO Unit := do
  for (loc, content) in FileTree.changes before after do
    if let some bytes := content then
      IO.FS.writeBinFile (locationText loc) ⟨bytes.toArray⟩

def twoDigits (n : Nat) : String :=
  if n < 10 then s!"0{n}" else s!"{n}"

/-- The time of day as the log shows it. -/
def clock : IO String := do
  let now ← Std.Time.Timestamp.now
  let seconds := now.toSecondsSinceUnixEpoch.val.toNat
  return ":".intercalate
    [twoDigits (seconds / 3600 % 24), twoDigits (seconds / 60 % 60), twoDigits (seconds % 60)]

end UnitReducer.Disk

open UnitReducer.Disk in
def main (args : List String) : IO UInt32 := do
  let surroundings : CommandLine.Surroundings := ⟨"unit-reducer", ← clock, 1⟩
  let workdir := (Path.ofText (toString (← IO.currentDir)).toList).names
  let mut before : FileTree := ⟨workdir, [], .none⟩
  for n in List.range workdir.length do
    before ← observe before (workdir.take (n + 1))
  let words := args.map String.toList
  if let .ok a := CommandLine.readArguments surroundings.processors words then
    before ← observeArguments before a
  let outcome := CommandLine.run surroundings (ProgramTable.toolchain []).refusingNull before words
  saveChanges before outcome.tree
  (← IO.getStdout).putStr outcome.stdout
  (← IO.getStderr).putStr outcome.stderr
  match outcome.ending with
  | .exit status => return status.toUInt32
  | .crashed kind message =>
    (← IO.getStderr).putStrLn s!"{kind}: {message}"
    return 1
