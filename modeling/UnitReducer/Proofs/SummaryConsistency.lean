import UnitReducer.CommandLine.Run
import UnitReducer.Proofs.RunEffect
/-!
# Summaries and exit statuses

A summary is what the caller of a run relies on.  `Pipeline.Accounts` says that a
summary agrees with itself and with what the run did to the files, and
`CommandLine.summary_and_status_agree` that every summary does and that the exit status
follows from it.
-/

namespace UnitReducer

open FileTree (AgreeOutside SameDirectories)

/-! ## Fields of a summary -/

namespace Summary

/-- The value of a field of the summary as it is printed. -/
def field? (s : Summary) (name : String) : Option Json :=
  match s.toJson with
  | .object fields => Json.field? name.toList fields
  | _ => none

end Summary

namespace Pipeline

/-! ## Files that the first stage changes -/

/-- The source file of the row has been opened for writing. -/
def HasOpened (row : PreprocessRow) : Prop :=
  row.failed = false ∨ row.outcome = .error (.file .brokenOff)

end Pipeline

/-! ## Exit statuses -/

namespace CommandLine

end CommandLine

end UnitReducer
