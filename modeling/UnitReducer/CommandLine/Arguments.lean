import UnitReducer.Path
import UnitReducer.Text.Decimal
import UnitReducer.Text.Quoted
/-!
# Arguments of the command line

Long flags may be shortened to any unambiguous start and take an attached operand behind `=`; short
flags may be joined.  The first `--` ends the flags.  The files form one contiguous group.
-/

namespace UnitReducer.CommandLine

inductive Flag where
  | help
  | database
  | preprocess
  | header
  | systemRoot
  | workers
  | verbose
deriving DecidableEq, Repr

/-- The spellings of all flags, in the order in which they are listed. -/
def spellings : List (Text × Flag) := [
  ("-h".toList, .help),
  ("--help".toList, .help),
  ("--compile-commands".toList, .database),
  ("--preprocessor".toList, .preprocess),
  ("--include".toList, .header),
  ("--system-root".toList, .systemRoot),
  ("--workers".toList, .workers),
  ("--verbose".toList, .verbose),
  ("-v".toList, .verbose)]

namespace Flag

def takesOperand : Flag → Bool
  | .database | .header | .systemRoot | .workers => true
  | .help | .preprocess | .verbose => false

/-- All spellings of a flag. -/
def label (f : Flag) : String :=
  "/".intercalate ((spellings.filter (·.2 = f)).map fun s => s.1.toString)

end Flag

inductive UsageError where
  | ambiguous (word : Text) (candidates : List Text)
  | missingOperand (flag : Flag)
  | ignoredOperand (flag : Flag) (operand : Text)
  | invalidWorkers (operand : Text)
  | missingDatabase
  | unrecognized (words : List Text)
deriving DecidableEq, Repr

def UsageError.message : UsageError → String
  | .ambiguous word candidates =>
    let names := ", ".intercalate (candidates.map Text.toString)
    s!"ambiguous option: {word.toString} could match {names}"
  | .missingOperand flag => s!"argument {flag.label}: expected one argument"
  | .ignoredOperand flag operand =>
    s!"argument {flag.label}: ignored explicit argument {(Quoted.text operand).toString}"
  | .invalidWorkers operand =>
    s!"argument {Flag.workers.label}: invalid int value: {(Quoted.text operand).toString}"
  | .missingDatabase => s!"the following arguments are required: {Flag.database.label}"
  | .unrecognized words =>
    let list := " ".intercalate (words.map Text.toString)
    s!"unrecognized arguments: {list}"

/-- Why the arguments are not used: help was asked for, or they are wrong. -/
inductive Stop where
  | help
  | usage (e : UsageError)
deriving DecidableEq, Repr

/-- What one word of the command line is. -/
inductive Word where
  | operand (t : Text)
  | separator
  | flag (f : Flag) (spelling : Text) (attached : Option Text)
  | unknown (t : Text)
deriving DecidableEq, Repr

/-- The operand of a flag.  An operand that is itself `--` is taken out, which leaves none. -/
inductive Operand where
  | text (t : Text)
  | removed
deriving DecidableEq, Repr

structure Arguments where
  database : Option Operand
  files : List Text
  preprocess : Bool
  header : Option Operand
  systemRoots : Option (List Operand)
  /-- Missing when the operand was removed. -/
  workers : Option Int
  verbose : Bool
deriving DecidableEq, Repr

/-- The word that ends the flags. -/
def separatorWord : Text := "--".toList

/-- The text before the first `=` and the text behind it. -/
def cutAtEquals (t : Text) : Text × Option Text :=
  match t.dropWhile (· ≠ '=') with
  | [] => (t, none)
  | _ :: attached => (t.takeWhile (· ≠ '='), some attached)

/-- A minus sign and a decimal number, with one LF at most behind it. -/
def looksNegative (t : Text) : Bool :=
  let isDigit := fun c => (CharClass.digit? c).isSome
  match t with
  | '-' :: number =>
    let number := if number.getLast? = some '\n' then number.dropLast else number
    match number.dropWhile isDigit with
    | [] => number ≠ []
    | '.' :: fraction => fraction ≠ [] && fraction.all isDigit
    | _ => false
  | _ => false

/-- The flags that a word which starts with `-` may stand for. -/
def candidates (t : Text) : List (Flag × Text × Option Text) :=
  if separatorWord.isPrefixOf t then
    let (start, attached) := cutAtEquals t
    (spellings.filter fun s => start.isPrefixOf s.1).map fun s => (s.2, s.1, attached)
  else
    spellings.filterMap fun s =>
      if s.1 = t.take 2 then some (s.2, s.1, some (t.drop 2))
      else if t.isPrefixOf s.1 then some (s.2, s.1, none)
      else none

/-- Sorts out a word that stands before the separator. -/
def Word.ofText (t : Text) : Except UsageError Word :=
  if t.head? ≠ some '-' then .ok (.operand t)
  else
    match spellings.lookup t with
    | some f => .ok (.flag f t none)
    | none =>
      if t.length = 1 then .ok (.operand t)
      else
        let (start, attached) := cutAtEquals t
        match attached, spellings.lookup start with
        | some a, some f => .ok (.flag f start (some a))
        | _, _ =>
          match candidates t with
          | [(f, spelling, attached)] => .ok (.flag f spelling attached)
          | [] => .ok (if looksNegative t || t.contains ' ' then .operand t else .unknown t)
          | several => .error (.ambiguous t (several.map fun c => c.2.1))

def words : List Text → Except UsageError (List Word)
  | [] => .ok []
  | t :: ts =>
    if t = separatorWord then .ok (.separator :: ts.map .operand)
    else do
      let first ← Word.ofText t
      let others ← words ts
      return first :: others

/-- Whether the group of files is still to come, is being read, or is over. -/
inductive FileGroup where
  | ahead
  | reading
  | over
deriving DecidableEq, Repr

/-- Arguments read so far, the flag whose operand comes next, and words that found no use. -/
structure Reading where
  arguments : Arguments
  awaiting : Option Flag
  group : FileGroup
  unused : List Text
deriving DecidableEq, Repr

namespace Reading

/-- Nothing read yet; `workers` is the number of workers when none is given. -/
def start (workers : Nat) : Reading where
  arguments := ⟨none, [], false, none, none, some workers, false⟩
  awaiting := none
  group := .ahead
  unused := []

/-- Takes a word as a file, or leaves it unused when the group of files is over. -/
def takeFile (r : Reading) (t : Text) : Reading :=
  if r.group = .over then { r with unused := r.unused ++ [t] }
  else
    { r with
      arguments := { r.arguments with files := r.arguments.files ++ [t] }
      group := .reading }

def takeSeparator (r : Reading) : Reading :=
  if r.group = .over then { r with unused := r.unused ++ [separatorWord] }
  else { r with group := .reading }

/-- A flag ends a group of files that has begun. -/
def endGroup (r : Reading) : Reading :=
  if r.group = .reading then { r with group := .over } else r

def takeUnknown (r : Reading) (t : Text) : Reading :=
  let r := r.endGroup
  { r with unused := r.unused ++ [t] }

/-- Carries out a flag without operand. -/
def takeSwitch (r : Reading) (f : Flag) : Except Stop Reading :=
  match f with
  | .help => .error .help
  | .preprocess => .ok { r with arguments := { r.arguments with preprocess := true } }
  | .verbose => .ok { r with arguments := { r.arguments with verbose := true } }
  | _ => .ok r

/-- Carries out a flag with its operand. -/
def takeOperand (r : Reading) (f : Flag) (t : Text) : Except Stop Reading :=
  let args := r.arguments
  let operand : Operand := if t = separatorWord then .removed else .text t
  match f with
  | .database => .ok { r with arguments := { args with database := some operand } }
  | .header => .ok { r with arguments := { args with header := some operand } }
  | .systemRoot =>
    .ok { r with
      arguments := { args with systemRoots := some (args.systemRoots.getD [] ++ [operand]) } }
  | .workers =>
    match operand with
    | .removed => .ok { r with arguments := { args with workers := none } }
    | .text t =>
      match Decimal.int? t with
      | some n => .ok { r with arguments := { args with workers := some n } }
      | none => .error (.usage (.invalidWorkers t))
  | _ => .ok r

end Reading

/-- The switches in a word of joined short flags; `f` comes first and `joined` is what is written
behind it. -/
def joinedSwitches (f : Flag) : Text → Except Stop (List Flag)
  | [] => .ok [f]
  | c :: joined =>
    match spellings.lookup ['-', c] with
    | none => .error (.usage (.ignoredOperand f (c :: joined)))
    | some next => (joinedSwitches next joined).map (f :: ·)

/-- The switches that a flag without operand stands for.  Only a short flag can be joined to others,
and an empty text is never joined. -/
def switches (f : Flag) (spelling : Text) : Option Text → Except Stop (List Flag)
  | none => .ok [f]
  | some attached =>
    if attached = [] ∨ separatorWord.isPrefixOf spelling then
      .error (.usage (.ignoredOperand f attached))
    else joinedSwitches f attached

namespace Reading

def takeFlag (r : Reading) (f : Flag) (spelling : Text) (attached : Option Text) :
    Except Stop Reading :=
  if f.takesOperand then
    match attached with
    | some t => r.takeOperand f t
    | none => .ok { r with awaiting := some f }
  else
    match switches f spelling attached with
    | .error e => .error e
    | .ok fs => fs.foldlM takeSwitch r

def takeWord (r : Reading) (w : Word) : Except Stop Reading :=
  match r.awaiting, w with
  | some f, .operand t => takeOperand { r with awaiting := none } f t
  | some f, _ => .error (.usage (.missingOperand f))
  | none, .operand t => .ok (r.takeFile t)
  | none, .separator => .ok r.takeSeparator
  | none, .unknown t => .ok (r.takeUnknown t)
  | none, .flag f spelling attached => r.endGroup.takeFlag f spelling attached

/-- What a command line that ends here amounts to.  A missing database is noticed before unused
words. -/
def finish (r : Reading) : Except UsageError Arguments :=
  match r.awaiting with
  | some f => .error (.missingOperand f)
  | none =>
    if r.arguments.database.isNone then .error .missingDatabase
    else if r.unused ≠ [] then .error (.unrecognized r.unused)
    else .ok r.arguments

end Reading

/-- Reads the arguments of a command line. -/
def readArguments (workers : Nat) (args : List Text) : Except Stop Arguments := do
  let ws ← (words args).mapError .usage
  let r ← ws.foldlM Reading.takeWord (.start workers)
  r.finish.mapError .usage

end UnitReducer.CommandLine
