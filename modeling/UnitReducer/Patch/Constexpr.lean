import UnitReducer.Patch.Substitution
import UnitReducer.Text.Lines
/-!
# Removal of `constexpr`

The specifier is taken from function definitions and, with `static`, from objects.  A match reaches
as far as it can: to a brace or to a semicolon.
-/

namespace UnitReducer.Patch

def constexprWord : Text := "constexpr".toList

def staticConstexprWords : Text := "static constexpr".toList

/-- The rest of a text that starts with `words` and one whitespace character. -/
def afterWords? (words t : Text) : Option Text :=
  match Text.after? words t with
  | some (c :: rest) => if CharClass.space c then some rest else none
  | _ => none

/-- The text up to the furthest brace that ends it: the first thing after the line, behind any
whitespace, or else the last brace on the line. -/
def functionHead? (t : Text) : Option Text :=
  let line := t.takeWhile (· ≠ '\n')
  let below := t.dropWhile (· ≠ '\n')
  let blanks := below.takeWhile CharClass.space
  if (below.dropWhile CharClass.space).head? = some '{' then some (line ++ blanks ++ ['{'])
  else (Text.untilLast? '{' line).map (· ++ ['{'])

/-- The text up to the last semicolon on the line. -/
def objectDefinition? (t : Text) : Option Text :=
  (Text.untilLast? ';' (t.takeWhile (· ≠ '\n'))).map (· ++ [';'])

/-- Takes `words`, one whitespace character and what `body?` finds behind, and leaves only that. -/
def stripRule (words : Text) (body? : Text → Option Text) : Rule := fun t => do
  let rest ← afterWords? words t
  let body ← body? rest
  return ⟨words.length + 1 + body.length, body⟩

def functionRule : Rule :=
  stripRule constexprWord functionHead?

def objectRule : Rule :=
  stripRule staticConstexprWords objectDefinition?

def stripConstexprFunctions (t : Text) : Option Text :=
  substitute? functionRule t

def stripStaticConstexprObjects (t : Text) : Option Text :=
  substitute? objectRule t

end UnitReducer.Patch
