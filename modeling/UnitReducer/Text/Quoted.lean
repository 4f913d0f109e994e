import UnitReducer.Text.Lines
/-!
# Quoted text

The written form of texts and of sequences of texts in messages.  A text stands between single
quotes, or between double quotes when it holds a single quote and no double quote; what cannot be
shown is written by its code point.
-/

namespace UnitReducer.Quoted

/-- The last `width` hexadecimal digits of a number, in lower case. -/
def hex : Nat → Nat → Text
  | 0, _ => []
  | width + 1, n => hex width (n / 16) ++ [Nat.digitChar (n % 16)]

def codePoint (n : Nat) : Text :=
  if n < 0x100 then '\\' :: 'x' :: hex 2 n
  else if n < 0x10000 then '\\' :: 'u' :: hex 4 n
  else '\\' :: 'U' :: hex 8 n

def escape (mark c : Char) : Text :=
  if c = mark ∨ c = '\\' then ['\\', c]
  else if c = '\n' then ['\\', 'n']
  else if c = '\r' then ['\\', 'r']
  else if c = '\t' then ['\\', 't']
  else if CharClass.printable c then [c]
  else codePoint c.toNat

def mark (t : Text) : Char :=
  if '\'' ∈ t ∧ '"' ∉ t then '"' else '\''

def text (t : Text) : Text :=
  mark t :: t.flatMap (escape (mark t)) ++ [mark t]

/-- Items that are already written, between brackets. -/
def bracket (items : List Text) : Text :=
  '[' :: Text.join [',', ' '] items ++ [']']

/-- Quoted items between brackets. -/
def list (items : List Text) : Text :=
  bracket (items.map text)

/-- Quoted items between parentheses; a single item is followed by a comma. -/
def tuple : List Text → Text
  | [item] => '(' :: text item ++ [',', ')']
  | items => '(' :: Text.join [',', ' '] (items.map text) ++ [')']

end UnitReducer.Quoted
