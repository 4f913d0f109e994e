import UnitReducer.Text.CharClass
/-!
# Splitting text

`Text.split` cuts a text at every occurrence of one character.  `Text.lines` reads a text as LF
terminated lines and `Text.unlines` writes them back.
-/

namespace UnitReducer.Text

def toString (t : Text) : String :=
  String.ofList t

/-- The pieces between the occurrences of `sep`; a text that has none is a single piece. -/
def split (sep : Char) : Text → List Text
  | [] => [[]]
  | c :: cs =>
    if c = sep then [] :: split sep cs
    else
      match split sep cs with
      | [] => [[c]]
      | piece :: pieces => (c :: piece) :: pieces

/-- The pieces with `sep` between neighbours. -/
def join (sep : Text) : List Text → Text
  | [] => []
  | [piece] => piece
  | piece :: pieces => piece ++ sep ++ join sep pieces

def dropCarriageReturn (line : Text) : Text :=
  if line.getLast? = some '\r' then line.dropLast else line

/-- The lines of a text.  LF ends a line, a final LF opens no further line, and one CR at the end of
a line belongs to the line break. -/
def lines (t : Text) : List Text :=
  let pieces := t.split '\n'
  (if pieces.getLast? = some [] then pieces.dropLast else pieces).map dropCarriageReturn

/-- Every line followed by LF. -/
def unlines (ls : List Text) : Text :=
  ls.flatMap fun l => l ++ ['\n']

/-- The text without the whitespace at its end. -/
def trimRight (t : Text) : Text :=
  (t.reverse.dropWhile CharClass.space).reverse

/-- What follows `start` in `t`, when `t` starts with it. -/
def after? (start t : Text) : Option Text :=
  match start, t with
  | [], t => some t
  | _ :: _, [] => none
  | s :: start, c :: t => if s = c then after? start t else none

/-- What stands before the first `mark`. -/
def untilFirst? (mark : Char) (t : Text) : Option Text :=
  if mark ∈ t then some (t.takeWhile (· ≠ mark)) else none

/-- What stands before the last `mark`. -/
def untilLast? (mark : Char) (t : Text) : Option Text :=
  if mark ∈ t then some (t.reverse.dropWhile (· ≠ mark)).tail.reverse else none

@[simp] theorem unlines_nil : unlines [] = [] := rfl

@[simp] theorem unlines_cons (l : Text) (ls : List Text) :
    unlines (l :: ls) = l ++ '\n' :: unlines ls := by
  simp [unlines]

@[simp] theorem unlines_append (ls ms : List Text) :
    unlines (ls ++ ms) = unlines ls ++ unlines ms := by
  simp [unlines]

theorem split_ne_nil (sep : Char) (t : Text) : split sep t ≠ [] := by
  cases t with
  | nil => simp [split]
  | cons c cs =>
    rw [split]
    split
    · simp
    · split <;> simp

theorem after?_eq_some_iff {start t rest : Text} :
    after? start t = some rest ↔ t = start ++ rest := by
  induction start generalizing t with
  | nil => simp [after?]
  | cons s start ih =>
    cases t with
    | nil => simp [after?]
    | cons c t => by_cases h : s = c <;> simp [after?, h, ih, eq_comm]

end UnitReducer.Text
