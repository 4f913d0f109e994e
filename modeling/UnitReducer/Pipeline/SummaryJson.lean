import UnitReducer.Pipeline
/-!
# The summary as JSON

Rows carry a status and either their result or the failure.
-/

namespace UnitReducer

def Report.toJson (r : Report) : Json :=
  .object [
    Json.named "total_lines" (.nat r.total),
    Json.named "retained_lines" (.nat r.retained),
    Json.named "dropped_system_lines" (.nat r.systemLines),
    Json.named "dropped_system_includes" (.nat r.systemIncludes),
    Json.named "dropped_redundant_includes" (.nat r.redundantIncludes),
    Json.named "expanded_headers" (.nat r.expandedHeaders)]

/-- A row with the field that holds its result, or with its failure. -/
def Row.toJson {ε α : Type} (failure : ε → String) (result : α → Text × Json)
    (row : Row ε α) : Json :=
  match row.outcome with
  | .ok a =>
    .object [Json.named "file" (.string row.file.text), Json.named "status" (.text "ok"), result a]
  | .error e =>
    .object [Json.named "file" (.string row.file.text), Json.named "status" (.text "error"),
      Json.named "error" (.text (failure e))]

def PreprocessRow.toJson : PreprocessRow → Json :=
  Row.toJson (fun e => s!"{e.kind}: {e.message}") fun report => Json.named "report" report.toJson

def PatchRow.toJson : PatchRow → Json :=
  Row.toJson (fun e => s!"{e.kind}: {e.message}") fun applied =>
    Json.named "applied" (.array (applied.map fun step => .text step.name))

/-- The number of failed patches is left out when no patch was attempted. -/
def Summary.toJson (s : Summary) : Json :=
  .object ([
    Json.named "status" (.text (if s.isOk then "ok" else "error")),
    Json.named "compile_commands" (.string s.database.text),
    Json.named "commands" (.nat s.commands),
    Json.named "preprocessed" (.nat (s.preprocessed.length - s.preprocessFailed)),
    Json.named "preprocess_failed" (.nat s.preprocessFailed),
    Json.named "preprocess_results" (.array (s.preprocessed.map PreprocessRow.toJson)),
    Json.named "patched" (.array ((s.patched.getD []).map PatchRow.toJson))] ++
    match s.patched with
    | none => []
    | some _ => [Json.named "patch_failed" (.nat s.patchFailed)])

end UnitReducer
