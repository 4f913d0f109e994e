import UnitReducer.Line
/-!
# Classifying lines

`Line.includePath?` and `Line.markerFields?` recognise the two directive shapes.  A line of the
marker shape whose number is unusable is an error.
-/

namespace UnitReducer

/-- A marker whose number has more digits than are converted, or does not fit 64 bits.  `index` is
the position of the line, where one is known. -/
inductive MarkerError where
  | tooManyDigits (count : Nat)
  | outOfRange (line : Text) (index : Option Int)
deriving DecidableEq, Repr

def MarkerError.message : MarkerError → String
  | .tooManyDigits count =>
    s!"Exceeds the limit ({Decimal.digitLimit} digits) for integer string conversion: " ++
      s!"value has {count} digits; use sys.set_int_max_str_digits() to increase the limit"
  | .outOfRange line none => s!"Malformed line marker: {(Quoted.text line).toString}"
  | .outOfRange line (some index) =>
    s!"Malformed line marker at line {index}: {(Quoted.text line).toString}"

namespace Line

/-- The largest number that fits 64 bits. -/
def maxNumber : Nat := UInt64.size - 1

/-- A line without the `#` at its start. -/
def dropHash : Text → Text
  | '#' :: rest => rest
  | rest => rest

/-- A path between double quotes or angle brackets. -/
def delimited? : Text → Option Text
  | '"' :: rest => Text.untilFirst? '"' rest
  | '<' :: rest => Text.untilFirst? '>' rest
  | _ => none

/-- The path of an include directive: an optional `#`, the word `include`, and a path between
double quotes or angle brackets; whitespace may surround the word. -/
def includePath? (line : Text) : Option Text := do
  let rest ← Text.after? "include".toList ((dropHash line).dropWhile CharClass.space)
  delimited? (rest.dropWhile CharClass.space)

/-- What follows a non-empty run of ASCII whitespace. -/
def afterBlanks? (t : Text) : Option Text :=
  match t with
  | [] => none
  | c :: _ => if CharClass.asciiSpace c then some (t.dropWhile CharClass.asciiSpace) else none

/-- The digits and the path of a line marker: `#`, a run of digits and a quoted path, set apart by
ASCII whitespace.  The path reaches to the last double quote before a LF. -/
def markerFields? (line : Text) : Option (Text × Text) := do
  let rest ← Text.after? ['#'] line
  let rest ← afterBlanks? rest
  let digits := rest.takeWhile Char.isDigit
  guard (digits ≠ [])
  let rest ← afterBlanks? (rest.dropWhile Char.isDigit)
  let rest ← Text.after? ['"'] rest
  let path ← Text.untilLast? '"' (rest.takeWhile (· ≠ '\n'))
  return (digits, path)

def classify (index : Option Int) (line : Text) : Except MarkerError Line :=
  match includePath? line with
  | some path => .ok (.included path line)
  | none =>
    match markerFields? line with
    | none => .ok (.other line)
    | some (digits, path) =>
      if Decimal.digitLimit < digits.length then .error (.tooManyDigits digits.length)
      else if maxNumber < Decimal.natOfDigits digits then .error (.outOfRange line index)
      else .ok (.marker (Decimal.natOfDigits digits) path line)

/-- Classifies lines in order, counting them from `index`. -/
def classifyFrom (index : Nat) : List Text → Except MarkerError (List Line)
  | [] => .ok []
  | line :: lines => do
    let first ← classify (some index) line
    let others ← classifyFrom (index + 1) lines
    return first :: others

def classifyAll (lines : List Text) : Except MarkerError (List Line) :=
  classifyFrom 1 lines

end Line

end UnitReducer
