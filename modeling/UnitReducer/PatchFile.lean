import UnitReducer.FileTree
import UnitReducer.Patch
/-!
# Patching files

A file is read as strict UTF-8, patched, and written back when its text changed.
-/

namespace UnitReducer

inductive PatchError where
  | file (e : FileError)
  | undecodable (e : Utf8.Error)
deriving DecidableEq, Repr

namespace PatchError

def message : PatchError → String
  | .file e => e.message
  | .undecodable e => e.message

/-- The name under which a failure is reported. -/
def kind : PatchError → String
  | .file e => e.kind
  | .undecodable _ => "UnicodeDecodeError"

/-- A failure that concerns one file alone.  Any other failure ends the whole run. -/
def isPerFile : PatchError → Bool
  | .file .nullCharacter => false
  | _ => true

end PatchError

namespace FileTree

/-- The text of the file at a path. -/
def readText (t : FileTree) (p : Path) : Except PatchError Text := do
  let content ← (t.read p).mapError .file
  (Utf8.decode content).mapError .undecodable

/-- Patches the file at a path: the tree that is left, and the steps that applied. -/
def patchFile (t : FileTree) (header : Option Text) (isSource : Bool) (p : Path) :
    FileTree × Except PatchError (List PatchStep) :=
  match t.readText p with
  | .error e => (t, .error e)
  | .ok old =>
    let (new, applied) := Patch.run header (Patch.steps isSource) old
    if new = old then (t, .ok applied)
    else
      let (left, written) := t.write p (Utf8.encode new)
      (left, (written.mapError .file).map fun _ => applied)

/-- What a caller has of a patch: the new tree and the steps that applied, or the failure. -/
def patch (t : FileTree) (header : Option Text) (isSource : Bool) (p : Path) :
    Except PatchError (FileTree × List PatchStep) :=
  let (left, result) := t.patchFile header isSource p
  result.map fun applied => (left, applied)

end FileTree

end UnitReducer
