import UnitReducer.Text.Quoted
/-!
# JSON values

`Json` is the value type of the compilation database and of the run summary.  `Json.pretty` writes a
value with two blanks of indentation per level.
-/

namespace UnitReducer

/-- A JSON value.  A number is `mantissa * 10 ^ exponent`; an object keeps its fields in order. -/
inductive Json where
  | null
  | bool (b : Bool)
  | number (mantissa exponent : Int)
  | string (s : Text)
  | array (items : List Json)
  | object (fields : List (Text × Json))

namespace Json

def nat (n : Nat) : Json :=
  .number n 0

def text (s : String) : Json :=
  .string s.toList

/-- A field of an object. -/
def named (name : String) (value : Json) : Text × Json :=
  (name.toList, value)

/-- The value of a field; of several fields of one name the last one counts. -/
def field? (name : Text) (fields : List (Text × Json)) : Option Json :=
  (fields.reverse.find? fun field => field.1 = name).map (·.2)

def string? : Json → Option Text
  | .string s => some s
  | _ => none

def strings? : Json → Option (List Text)
  | .array items => items.mapM string?
  | _ => none

/-- The value of a field that may be missing; `null` counts as missing. -/
def optional? (name : Text) (fields : List (Text × Json)) : Option Json :=
  match field? name fields with
  | some .null => none
  | value => value

/-- The written form of a character of a string.  Only quote, backslash and control characters are
escaped. -/
def escapeChar (c : Char) : Text :=
  match c with
  | '"' => ['\\', '"']
  | '\\' => ['\\', '\\']
  | '\x08' => ['\\', 'b']
  | '\t' => ['\\', 't']
  | '\n' => ['\\', 'n']
  | '\x0c' => ['\\', 'f']
  | '\r' => ['\\', 'r']
  | c => if c.toNat < 0x20 then '\\' :: 'u' :: Quoted.hex 4 c.toNat else [c]

def writeString (s : Text) : Text :=
  '"' :: s.flatMap escapeChar ++ ['"']

def writeNumber (mantissa exponent : Int) : Text :=
  (toString mantissa).toList ++ if exponent = 0 then [] else 'e' :: (toString exponent).toList

/-- The start of a line at the given depth. -/
def newLine (depth : Nat) : Text :=
  '\n' :: List.replicate (2 * depth) ' '

mutual

/-- Writes a value whose surroundings are at the given depth. -/
def write (depth : Nat) : Json → Text
  | .null => "null".toList
  | .bool b => (if b then "true" else "false").toList
  | .number mantissa exponent => writeNumber mantissa exponent
  | .string s => writeString s
  | .array [] => ['[', ']']
  | .array (item :: items) =>
    '[' :: newLine (depth + 1) ++ write (depth + 1) item ++ writeItems (depth + 1) items ++
      newLine depth ++ [']']
  | .object [] => ['{', '}']
  | .object ((name, value) :: fields) =>
    '{' :: newLine (depth + 1) ++ writeString name ++ [':', ' '] ++ write (depth + 1) value ++
      writeFields (depth + 1) fields ++ newLine depth ++ ['}']

def writeItems (depth : Nat) : List Json → Text
  | [] => []
  | item :: items => ',' :: newLine depth ++ write depth item ++ writeItems depth items

def writeFields (depth : Nat) : List (Text × Json) → Text
  | [] => []
  | (name, value) :: fields =>
    ',' :: newLine depth ++ writeString name ++ [':', ' '] ++ write depth value ++
      writeFields depth fields

end

def pretty (j : Json) : Text :=
  write 0 j

end Json

end UnitReducer
