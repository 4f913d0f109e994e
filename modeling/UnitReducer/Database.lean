import UnitReducer.Command
import UnitReducer.Journal
import UnitReducer.Json.Parser
/-!
# Compilation databases

A database is a JSON array of entries.  It is accepted as a whole or refused because of its first
bad entry.
-/

namespace UnitReducer

/-- What is wrong with an entry, in the order in which entries are checked. -/
inductive EntryFault where
  | notObject
  | paths
  | arguments
  | command
deriving DecidableEq, Repr

inductive DatabaseError where
  | notFound (path : Path)
  | unreadable (cause : FileError)
  | unparsable (path : Path)
  | notArray (path : Path)
  | noCommands (path : Path)
  | badEntry (index : Nat) (fault : EntryFault)
deriving DecidableEq, Repr

namespace DatabaseError

def message : DatabaseError → String
  | .notFound path => s!"Compilation database not found: {path}"
  | .unreadable cause => cause.message
  | .unparsable path => s!"Failed to parse {path}: <json error>"
  | .notArray path => s!"{path} must contain a JSON array"
  | .noCommands path => s!"{path} contains no commands"
  | .badEntry index .notObject => s!"Entry {index} is not a JSON object"
  | .badEntry index .paths => s!"Entry {index} must have string 'directory' and 'file' fields"
  | .badEntry index .arguments => s!"Entry {index}: 'arguments' must be a list of strings"
  | .badEntry index .command => s!"Entry {index}: 'command' must be a string"

/-- The name under which a failure is reported. -/
def kind : DatabaseError → String
  | .unreadable cause => cause.kind
  | _ => "CompileCommandsError"

/-- The database itself is to blame, rather than the way to it. -/
def isRefusal : DatabaseError → Bool
  | .unreadable _ => false
  | _ => true

end DatabaseError

namespace Database

/-- A missing value, or one that can be read. -/
def readOptional {α : Type} (read? : Json → Option α) (fault : EntryFault) :
    Option Json → Except EntryFault (Option α)
  | none => .ok none
  | some json =>
    match read? json with
    | some a => .ok (some a)
    | none => .error fault

def commandOfEntry : Json → Except EntryFault CompileCommand
  | .object fields => do
    let directory := (Json.field? "directory".toList fields).bind Json.string?
    let file := (Json.field? "file".toList fields).bind Json.string?
    match directory, file with
    | some directory, some file =>
      let arguments ←
        readOptional Json.strings? .arguments (Json.optional? "arguments".toList fields)
      let command ← readOptional Json.string? .command (Json.optional? "command".toList fields)
      return ⟨Path.ofText directory, Path.ofText file, arguments, command⟩
    | _, _ => .error .paths
  | _ => .error .notObject

/-- Reads entries in order, counting them from `index`. -/
def commandsFrom (index : Nat) : List Json → Except DatabaseError (List CompileCommand)
  | [] => .ok []
  | entry :: entries => do
    let command ← (commandOfEntry entry).mapError (.badEntry index)
    let commands ← commandsFrom (index + 1) entries
    return command :: commands

/-- The commands of a database with the given content; `path` is where it was read from. -/
def ofJson (path : Path) : Json → Except DatabaseError (List CompileCommand)
  | .array [] => .error (.noCommands path)
  | .array entries => commandsFrom 0 entries
  | _ => .error (.notArray path)

/-- Reads a database from a file; `parse` reads the JSON. -/
def load (tree : FileTree) (path : Path) (parse : Bytes → Option Json := Json.parse?) :
    Except DatabaseError (List CompileCommand) :=
  match tree.read path with
  | .error (.os .noEntry _) => .error (.notFound path)
  | .error cause => .error (.unreadable cause)
  | .ok content =>
    match parse content with
    | none => .error (.unparsable path)
    | some json => ofJson path json

/-- Parts commands into those whose file has not occurred before and the others. -/
def partByFile (seen : List Path) : List CompileCommand →
    List CompileCommand × List CompileCommand
  | [] => ([], [])
  | c :: commands =>
    if c.file ∈ seen then
      let (kept, skipped) := partByFile seen commands
      (kept, c :: skipped)
    else
      let (kept, skipped) := partByFile (c.file :: seen) commands
      (c :: kept, skipped)

def skipMessage (c : CompileCommand) : String :=
  let arguments := (c.arguments.map fun a => (Quoted.tuple a).toString).getD "None"
  let command := (c.command.map Text.toString).getD "None"
  s!"Another command for same file. Skip: file={c.file}, arguments={arguments}, command={command}"

/-- Keeps the first command of every file and reports the others. -/
def dedupe (commands : List CompileCommand) : List CompileCommand × Journal :=
  let (kept, skipped) := partByFile [] commands
  (kept, ⟨skipped.map fun c => ⟨.warning, .database, skipMessage c⟩, []⟩)

end Database

end UnitReducer
