import UnitReducer.Text.CharClass
/-!
# Decimal numerals

Reading and writing of whole numbers.  `digitLimit` bounds the numerals that are converted at all.
-/

namespace UnitReducer.Decimal

/-- The longest run of digits that is converted to a number; leading zeros count. -/
def digitLimit : Nat := 4300

/-- The number with these decimal digits, the leading one first. -/
def value (digits : List Nat) : Nat :=
  digits.foldl (fun n d => 10 * n + d) 0

/-- The value of a run of ASCII digits. -/
def natOfDigits (digits : Text) : Nat :=
  Nat.ofDigitChars 10 digits 0

def ofNat (n : Nat) : Text :=
  Nat.toDigits 10 n

/-- Whitespace that may surround a numeral: the information separators do not count. -/
def blank (c : Char) : Bool :=
  if c.toNat < 128 then CharClass.asciiSpace c else CharClass.space c

/-- The values of digits of any script; a single underscore may stand between two digits. -/
def digits? : Text → Option (List Nat)
  | [] => none
  | [c] => (CharClass.digit? c).map ([·])
  | c :: '_' :: cs => do
    let d ← CharClass.digit? c
    let ds ← digits? cs
    return d :: ds
  | c :: cs => do
    let d ← CharClass.digit? c
    let ds ← digits? cs
    return d :: ds

def nat? (t : Text) : Option Nat := do
  let ds ← digits? t
  if ds.length ≤ digitLimit then return value ds else none

/-- Reads a whole number with an optional sign, between optional blanks. -/
def int? (t : Text) : Option Int :=
  match ((t.dropWhile blank).reverse.dropWhile blank).reverse with
  | '-' :: cs => (nat? cs).map fun n => -(n : Int)
  | '+' :: cs => (nat? cs).map fun n => (n : Int)
  | cs => (nat? cs).map fun n => (n : Int)

/-- A number is read back from its decimal form. -/
theorem natOfDigits_ofNat (n : Nat) : natOfDigits (ofNat n) = n := by
  simp [natOfDigits, ofNat]

end UnitReducer.Decimal
