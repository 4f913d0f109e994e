import UnitReducer.Patch.Constexpr
import UnitReducer.Patch.Null
import UnitReducer.Patch.Quotes
/-!
# Patching a text

The patch steps in their fixed order.  A step that does not apply leaves the text as it is and is
not reported.
-/

namespace UnitReducer

/-- A change made to a file. -/
inductive PatchStep where
  | includeLine
  | wrapNull
  | stripConstexprFunctions
  | stripStaticConstexprObjects
  | escapeQuotes
deriving DecidableEq, Repr

namespace PatchStep

def name : PatchStep → String
  | .includeLine => "include"
  | .wrapNull => "wrap_null"
  | .stripConstexprFunctions => "strip_constexpr_functions"
  | .stripStaticConstexprObjects => "strip_static_constexpr_objects"
  | .escapeQuotes => "escape_single_quotes"

end PatchStep

namespace Patch

def prependInclude (header t : Text) : Text :=
  "#include <".toList ++ header ++ ['>', '\n'] ++ t

/-- The steps of one file in order.  Objects are only touched in source files. -/
def steps (isSource : Bool) : List PatchStep :=
  [.includeLine, .wrapNull, .stripConstexprFunctions] ++
    (if isSource then [.stripStaticConstexprObjects] else []) ++ [.escapeQuotes]

/-- The result of one step, when it applies.  `header` is the header to include, if any. -/
def attempt? (header : Option Text) (step : PatchStep) (t : Text) : Option Text :=
  match step with
  | .includeLine => header.map fun h => prependInclude h t
  | .wrapNull => wrapNull t
  | .stripConstexprFunctions => stripConstexprFunctions t
  | .stripStaticConstexprObjects => stripStaticConstexprObjects t
  | .escapeQuotes => escapeQuotes t

/-- Runs steps one after another; yields the final text and the steps that applied. -/
def run (header : Option Text) : List PatchStep → Text → Text × List PatchStep
  | [], t => (t, [])
  | step :: steps, t =>
    match attempt? header step t with
    | none => run header steps t
    | some patched =>
      let (final, applied) := run header steps patched
      (final, step :: applied)

end Patch

end UnitReducer
