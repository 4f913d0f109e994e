import UnitReducer.Text.CharClass
/-!
# JSON tokens

The lexical level of strict JSON. Strings are unescaped here; surrogate escapes count only in
pairs.  A number that rounds to an infinite double is refused.
-/

namespace UnitReducer.Json

inductive Token where
  | openArray
  | closeArray
  | openObject
  | closeObject
  | comma
  | colon
  | null
  | bool (b : Bool)
  | number (mantissa exponent : Int)
  | string (s : Text)
deriving DecidableEq, Repr

def blank (c : Char) : Bool :=
  c == ' ' || c == '\t' || c == '\n' || c == '\r'

def hexDigit? (c : Char) : Option Nat :=
  if c.isDigit then some (c.toNat - '0'.toNat)
  else if 'a' ≤ c ∧ c ≤ 'f' then some (c.toNat - 'a'.toNat + 10)
  else if 'A' ≤ c ∧ c ≤ 'F' then some (c.toNat - 'A'.toNat + 10)
  else none

/-- The code unit written by four hexadecimal digits. -/
def unit? (a b c d : Char) : Option Nat := do
  let a ← hexDigit? a
  let b ← hexDigit? b
  let c ← hexDigit? c
  let d ← hexDigit? d
  return 0x1000 * a + 0x100 * b + 0x10 * c + d

def isHighSurrogate (n : Nat) : Bool :=
  0xD800 ≤ n && n < 0xDC00

def isLowSurrogate (n : Nat) : Bool :=
  0xDC00 ≤ n && n < 0xE000

/-- The character of a short escape. -/
def shortEscape? : Char → Option Char
  | '"' => some '"'
  | '\\' => some '\\'
  | '/' => some '/'
  | 'b' => some '\x08'
  | 'f' => some '\x0c'
  | 'n' => some '\n'
  | 'r' => some '\r'
  | 't' => some '\t'
  | _ => none

/-- Puts a character in front of a string that was read. -/
def push (c : Char) : Option (Text × Text) → Option (Text × Text) :=
  Option.map fun (s, rest) => (c :: s, rest)

/-- Reads the body of a string up to its closing quote; yields the string and what follows. -/
def stringBody? : Text → Option (Text × Text)
  | [] => none
  | '"' :: rest => some ([], rest)
  | '\\' :: 'u' :: a :: b :: c :: d :: rest =>
    match unit? a b c d with
    | none => none
    | some n =>
      if isHighSurrogate n then
        match rest with
        | '\\' :: 'u' :: a :: b :: c :: d :: rest =>
          match unit? a b c d with
          | none => none
          | some m =>
            if isLowSurrogate m then
              push (Char.ofNat (0x10000 + 0x400 * (n - 0xD800) + (m - 0xDC00))) (stringBody? rest)
            else none
        | _ => none
      else if isLowSurrogate n then none
      else push (Char.ofNat n) (stringBody? rest)
  | '\\' :: e :: rest =>
    match shortEscape? e with
    | none => none
    | some c => push c (stringBody? rest)
  | c :: rest => if c.toNat < 0x20 ∨ c = '\\' then none else push c (stringBody? rest)

/-- `mantissa * 10 ^ exponent` rounds to an infinite double: it is at least halfway between the
largest finite double and the next power of two.  Only numerals of 309 or 310 digits need the
comparison. -/
def overflows (mantissa : Nat) (exponent : Int) : Bool :=
  let limit := Nat.pow 2 1024 - Nat.pow 2 970
  let digits := (Nat.toDigits 10 mantissa).length + exponent
  if mantissa = 0 ∨ digits ≤ 308 then false
  else if 310 < digits then true
  else limit * Nat.pow 10 (-exponent).toNat ≤ mantissa * Nat.pow 10 exponent.toNat

/-- The optional fraction of a numeral: its digits and what follows.  A point needs a digit. -/
def fraction? : Text → Option (Text × Text)
  | '.' :: rest =>
    let digits := rest.takeWhile Char.isDigit
    if digits = [] then none else some (digits, rest.dropWhile Char.isDigit)
  | rest => some ([], rest)

/-- The exponent of a numeral, which is the rest of it. -/
def exponent? : Text → Option Int
  | [] => some 0
  | e :: rest =>
    if e = 'e' ∨ e = 'E' then
      let digits := match rest with
        | '+' :: digits => digits
        | '-' :: digits => digits
        | digits => digits
      let n : Int := Nat.ofDigitChars 10 digits 0
      if digits = [] ∨ !digits.all Char.isDigit then none
      else some (if rest.head? = some '-' then -n else n)
    else none

/-- Reads a whole numeral. -/
def number? (t : Text) : Option Token := do
  let negative := t.head? = some '-'
  let t := if negative then t.drop 1 else t
  let whole := t.takeWhile Char.isDigit
  guard (whole ≠ [] ∧ (whole.head? = some '0' → whole.length = 1))
  let (fraction, rest) ← fraction? (t.dropWhile Char.isDigit)
  let exponent ← exponent? rest
  let mantissa := Nat.ofDigitChars 10 (whole ++ fraction) 0
  let exponent := exponent - fraction.length
  guard (!overflows mantissa exponent)
  return .number (if negative then -(mantissa : Int) else mantissa) exponent

def word? (t : Text) : Option Token :=
  if t = "null".toList then some .null
  else if t = "true".toList then some (.bool true)
  else if t = "false".toList then some (.bool false)
  else none

def numeralChar (c : Char) : Bool :=
  c.isDigit || c == '-' || c == '+' || c == '.' || c == 'e' || c == 'E'

def punctuation? : Char → Option Token
  | '[' => some .openArray
  | ']' => some .closeArray
  | '{' => some .openObject
  | '}' => some .closeObject
  | ',' => some .comma
  | ':' => some .colon
  | _ => none

/-- One token at the head of a text that starts with `c`, and what follows it. -/
def token? (c : Char) (cs : Text) : Option (Token × Text) :=
  match punctuation? c with
  | some token => some (token, cs)
  | none =>
    if c = '"' then (stringBody? cs).map fun (s, rest) => (.string s, rest)
    else if c = '-' ∨ c.isDigit then
      (number? (c :: cs.takeWhile numeralChar)).map (·, cs.dropWhile numeralChar)
    else (word? (c :: cs.takeWhile Char.isAlpha)).map (·, cs.dropWhile Char.isAlpha)

/-- The tokens of a text, read in at most `fuel` steps. -/
def tokensWithin : Nat → Text → Option (List Token)
  | _, [] => some []
  | 0, _ :: _ => none
  | fuel + 1, c :: cs =>
    if blank c then tokensWithin fuel cs
    else
      match token? c cs with
      | none => none
      | some (token, rest) => (tokensWithin fuel rest).map (token :: ·)

/-- The tokens of a text.  Every step takes at least one character. -/
def tokens? (t : Text) : Option (List Token) :=
  tokensWithin t.length t

end UnitReducer.Json
