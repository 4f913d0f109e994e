import UnitReducer.Patch.Substitution
/-!
# Doubled single quotes

Inside a string literal a pair of single quotes around at least two characters is doubled, so that
the literal can be embedded in single quoted text: `"test 'ab'."` becomes `"test ''ab''."`.  The
pair may be written with backslashes, which are dropped.
-/

namespace UnitReducer.Patch

/-- A quoted pair between two double quotes: what stands before, inside and after the pair, and
the number of characters between the double quotes and including the last. -/
structure QuotedPair where
  lead : Text
  inner : Text
  tail : Text
  size : Nat
deriving DecidableEq, Repr

/-- A character that may stand inside the pair. -/
def innerChar (c : Char) : Bool :=
  c != '"' && c != '\n'

/-- Reads to the nearest single quote, through inner characters; a backslash right before it
belongs to it.  Yields what was passed and what follows. -/
def toQuote? : Text → Option (Text × Text)
  | [] => none
  | '\'' :: rest => some ([], rest)
  | '\\' :: '\'' :: rest => some ([], rest)
  | c :: rest =>
    if innerChar c then (toQuote? rest).map fun (passed, rest) => (c :: passed, rest) else none

/-- Reads the inside of a pair, at least two characters, and the quote that ends it. -/
def inside? : Text → Option (Text × Text)
  | a :: b :: rest =>
    if innerChar a && innerChar b then
      (toQuote? rest).map fun (passed, rest) => (a :: b :: passed, rest)
    else none
  | _ => none

/-- Reads to the next double quote on the line. -/
def toDoubleQuote? : Text → Option Text
  | [] => none
  | '"' :: _ => some []
  | c :: rest => if c = '\n' then none else (toDoubleQuote? rest).map (c :: ·)

/-- The rest of a text that starts with a single quote, written with or without a backslash. -/
def afterQuote? : Text → Option Text
  | '\'' :: rest => some rest
  | '\\' :: '\'' :: rest => some rest
  | _ => none

/-- A pair that opens at the head of the text. -/
def pairHere? (t : Text) : Option QuotedPair := do
  let opened ← afterQuote? t
  let (inner, rest) ← inside? opened
  let tail ← toDoubleQuote? rest
  return ⟨[], inner, tail, t.length - rest.length + tail.length + 1⟩

/-- The first pair on the line. -/
def pair? : Text → Option QuotedPair
  | [] => none
  | c :: cs =>
    match pairHere? (c :: cs) with
    | some p => some p
    | none =>
      if c = '\n' then none
      else (pair? cs).map fun p => { p with lead := c :: p.lead, size := p.size + 1 }

/-- The first pair behind a double quote. -/
def literalPair? : Text → Option QuotedPair
  | '"' :: rest => pair? rest
  | _ => none

def QuotedPair.toMatch (p : QuotedPair) : Match where
  size := p.size + 1
  replacement :=
    '"' :: p.lead ++ ['\'', '\''] ++ p.inner ++ ['\'', '\''] ++ p.tail ++ ['"']

def quotesRule : Rule := fun t =>
  (literalPair? t).map QuotedPair.toMatch

/-- Doubles the quotes of every pair, unless there is none or a double quote stands before or after
the first pair within its match. -/
def escapeQuotes (t : Text) : Option Text :=
  match first? literalPair? t with
  | none => none
  | some p => if '"' ∈ p.lead ∨ '"' ∈ p.tail then none else some (substitute quotesRule t)

end UnitReducer.Patch
