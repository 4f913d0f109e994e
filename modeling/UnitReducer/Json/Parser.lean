import UnitReducer.Json
import UnitReducer.Json.Token
import UnitReducer.Text.Utf8
/-!
# Reading JSON

`Json.parse?` accepts exactly one value, in UTF-8, with arrays and objects nested no deeper than
`maxDepth`.
-/

namespace UnitReducer.Json

def maxDepth : Nat := 1024

mutual

/-- Reads one value.  `depth` is the number of levels that may still be opened. -/
def value? : Nat → Nat → List Token → Option (Json × List Token)
  | 0, _, _ => none
  | _ + 1, _, .null :: rest => some (.null, rest)
  | _ + 1, _, .bool b :: rest => some (.bool b, rest)
  | _ + 1, _, .number mantissa exponent :: rest => some (.number mantissa exponent, rest)
  | _ + 1, _, .string s :: rest => some (.string s, rest)
  | _ + 1, _ + 1, .openArray :: .closeArray :: rest => some (.array [], rest)
  | fuel + 1, depth + 1, .openArray :: rest =>
    (items? fuel depth rest).map fun (items, rest) => (.array items, rest)
  | _ + 1, _ + 1, .openObject :: .closeObject :: rest => some (.object [], rest)
  | fuel + 1, depth + 1, .openObject :: rest =>
    (fields? fuel depth rest).map fun (fields, rest) => (.object fields, rest)
  | _ + 1, _, _ => none

/-- Reads the items of an array up to its end. -/
def items? : Nat → Nat → List Token → Option (List Json × List Token)
  | 0, _, _ => none
  | fuel + 1, depth, tokens =>
    match value? fuel depth tokens with
    | some (item, .comma :: rest) =>
      (items? fuel depth rest).map fun (items, rest) => (item :: items, rest)
    | some (item, .closeArray :: rest) => some ([item], rest)
    | _ => none

/-- Reads the fields of an object up to its end. -/
def fields? : Nat → Nat → List Token → Option (List (Text × Json) × List Token)
  | 0, _, _ => none
  | fuel + 1, depth, .string name :: .colon :: tokens =>
    match value? fuel depth tokens with
    | some (value, .comma :: rest) =>
      (fields? fuel depth rest).map fun (fields, rest) => ((name, value) :: fields, rest)
    | some (value, .closeObject :: rest) => some ([(name, value)], rest)
    | _ => none
  | _ + 1, _, _ => none

end

def ofTokens? (tokens : List Token) : Option Json :=
  match value? (2 * tokens.length + 1) maxDepth tokens with
  | some (json, []) => some json
  | _ => none

def parse? (bytes : Bytes) : Option Json := do
  let text ← (Utf8.decode bytes).toOption
  let tokens ← tokens? text
  ofTokens? tokens

end UnitReducer.Json
