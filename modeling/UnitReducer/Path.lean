import UnitReducer.Text.Lines
/-!
# File paths

A path is a root and a list of names.  Reading a path drops empty components and `.`, and keeps
`..`.  Exactly two slashes at the start are a root of their own; any other number of them is the
plain root.
-/

namespace UnitReducer

/-- Where a path starts. -/
inductive Root where
  | relative
  | single
  | double
deriving DecidableEq, Repr

structure Path where
  root : Root
  names : List Text
deriving DecidableEq, Repr

namespace Root

def ofText : Text → Root
  | '/' :: '/' :: '/' :: _ => .single
  | '/' :: '/' :: _ => .double
  | '/' :: _ => .single
  | _ => .relative

def text : Root → Text
  | .relative => []
  | .single => ['/']
  | .double => ['/', '/']

end Root

namespace Path

/-- The name of the enclosing directory. -/
def up : Text := "..".toList

def ofText (t : Text) : Path where
  root := Root.ofText t
  names := (t.split '/').filter fun name => name ≠ [] ∧ name ≠ ['.']

/-- The components of a path; the root, where there is one, is the first of them. -/
def components (p : Path) : List Text :=
  match p.root with
  | .relative => p.names
  | root => root.text :: p.names

def text (p : Path) : Text :=
  match p.root, p.names with
  | .relative, [] => ['.']
  | root, names => root.text ++ Text.join ['/'] names

instance : ToString Path where
  toString p := p.text.toString

def isAbsolute (p : Path) : Bool :=
  p.root != .relative

/-- `q` as seen from the directory `p`. -/
def join (p q : Path) : Path :=
  if q.isAbsolute then q else { p with names := p.names ++ q.names }

/-- The last dot of a name and what follows it, unless the name starts or ends there. -/
def nameSuffix (name : Text) : Text :=
  let ending := (name.reverse.takeWhile (· ≠ '.')).reverse
  if ending = [] ∨ name.length ≤ ending.length + 1 then [] else '.' :: ending

def suffix (p : Path) : Text :=
  match p.names.getLast? with
  | none => []
  | some name => nameSuffix name

/-- The absolute location of a path seen from `directory`, with every `..` carried out. -/
def resolve (directory : List Text) (p : Path) : Path where
  root := .single
  names :=
    p.names.foldl (fun names name => if name = up then names.dropLast else names ++ [name])
      (if p.isAbsolute then [] else directory)

end Path

end UnitReducer
