import UnitReducer.Text.Decimal
import UnitReducer.Text.Quoted
/-!
# Lines of annotated preprocessor output

A line is an include directive echoed by the preprocessor, a line marker that enters a file, or
anything else.
-/

namespace UnitReducer

/-- A line with what it says.  `text` is the line as it was read; it is empty for a directive that
was not read from anywhere. -/
inductive Line where
  | included (path text : Text)
  | marker (number : Nat) (path text : Text)
  | other (text : Text)
deriving DecidableEq, Repr

/-- Reasons why a line cannot be built from its parts. -/
inductive LineError where
  | negativeNumber (number : Int)
deriving DecidableEq, Repr

def LineError.message : LineError → String
  | .negativeNumber number => s!"line_no must be >= 0, got {number}"

namespace Line

def ofMarker (number : Int) (path text : Text) : Except LineError Line :=
  if number < 0 then .error (.negativeNumber number) else .ok (.marker number.toNat path text)

/-- The line as it was read, or the plain spelling of a directive that has none. -/
def render : Line → Text
  | .included path [] => "#include \"".toList ++ path ++ ['"']
  | .included _ text => text
  | .marker number path [] => '#' :: ' ' :: Decimal.ofNat number ++ ' ' :: '"' :: path ++ ['"']
  | .marker _ _ text => text
  | .other text => text

/-- Two lines say the same: for directives the text they were read from does not count. -/
def agrees : Line → Line → Bool
  | .included p _, .included q _ => p == q
  | .marker m p _, .marker n q _ => m == n && p == q
  | .other s, .other t => s == t
  | _, _ => false

/-- The path that a marker enters. -/
def entered? : Line → Option Text
  | .marker _ path _ => some path
  | _ => none

def describe : Line → String
  | .included path _ => s!"IncludedHeader(path={(Quoted.text path).toString})"
  | .marker number path _ =>
    s!"ExpandedHeader(line_no={number}, path={(Quoted.text path).toString})"
  | .other text => s!"OtherLine(text={(Quoted.text text).toString})"

end Line

end UnitReducer
