import UnitReducer.Text.CharClass
/-!
# Shell words

A command line is split into words by the quoting rules of the POSIX shell.  Only quoting is
interpreted: there are no comments, variables or operators.
-/

namespace UnitReducer

/-- The text ends inside quotes, or behind a backslash. -/
inductive ShellError where
  | openQuotation
  | openEscape
deriving DecidableEq, Repr

def ShellError.message : ShellError → String
  | .openQuotation => "No closing quotation"
  | .openEscape => "No escaped character"

namespace ShellWords

/-- How the next character is read. -/
inductive Mode where
  | bare
  | escaped
  | single
  | double
  | doubleEscaped
deriving DecidableEq, Repr

def blank (c : Char) : Bool :=
  c == ' ' || c == '\t' || c == '\r' || c == '\n'

/-- The word begun so far with further text at its end; this begins a word where there is none. -/
def extend (word : Option Text) (more : Text) : Option Text :=
  some (word.getD [] ++ more)

/-- Reads the words of a text.  `word` is the word begun so far: a quotation begins a word even when
nothing stands inside it. -/
def read : Mode → Option Text → Text → Except ShellError (List Text)
  | .bare, word, [] => .ok word.toList
  | .bare, word, c :: cs =>
    if blank c then
      match read .bare none cs with
      | .error e => .error e
      | .ok words => .ok (word.toList ++ words)
    else if c = '\\' then read .escaped word cs
    else if c = '\'' then read .single (extend word []) cs
    else if c = '"' then read .double (extend word []) cs
    else read .bare (extend word [c]) cs
  | .escaped, _, [] => .error .openEscape
  | .escaped, word, c :: cs => read .bare (extend word [c]) cs
  | .single, _, [] => .error .openQuotation
  | .single, word, c :: cs =>
    if c = '\'' then read .bare word cs else read .single (extend word [c]) cs
  | .double, _, [] => .error .openQuotation
  | .double, word, c :: cs =>
    if c = '"' then read .bare word cs
    else if c = '\\' then read .doubleEscaped word cs
    else read .double (extend word [c]) cs
  | .doubleEscaped, _, [] => .error .openEscape
  | .doubleEscaped, word, c :: cs =>
    if c = '"' ∨ c = '\\' then read .double (extend word [c]) cs
    else read .double (extend word ['\\', c]) cs

def split (t : Text) : Except ShellError (List Text) :=
  read .bare none t

end ShellWords

end UnitReducer
