import UnitReducer.Patch.Substitution
/-!
# Parentheses around `NULL`

`f(a, NULL, b)` becomes `f(a, (NULL), b)`.  The word is wrapped only between two characters that
neither extend it nor look like parentheses around it.
-/

namespace UnitReducer.Patch

def null : Text := "NULL".toList

/-- A character that may stand before a bare `NULL`. -/
def nullOpener (c : Char) : Bool :=
  !CharClass.word c && c != '^' && c != '('

/-- A character that may stand after a bare `NULL`. -/
def nullCloser (c : Char) : Bool :=
  !CharClass.word c && c != '^' && c != ')'

/-- Matches `NULL` with its two neighbours. -/
def nullRule : Rule
  | a :: 'N' :: 'U' :: 'L' :: 'L' :: b :: _ =>
    if nullOpener a && nullCloser b then some ⟨6, a :: '(' :: null ++ [')', b]⟩ else none
  | _ => none

def wrapNull (t : Text) : Option Text :=
  substitute? nullRule t

end UnitReducer.Patch
