import UnitReducer.Path
import UnitReducer.Text.Quoted
import UnitReducer.Text.Utf8
/-!
# File trees

A file tree maps locations to files and directories and has a working directory, from which
relative paths are followed.  A path is followed name by name, and every name but the last one has
to be a directory, also in front of `..`.  Names and paths are bounded in length.

The limits of a tree say which files must not be read or written and where a write breaks off.
There are no links, and every directory can be searched.
-/

namespace UnitReducer

/-- The names on the way from the root of the tree. -/
abbrev Location := List Text

inductive Entry where
  | file (content : Bytes)
  | directory
deriving DecidableEq, Repr

/-- Files that must not be read, files that must not be written or made, and the number of bytes
after which a write to a file breaks off. -/
structure Limits where
  unreadable : List Location
  unwritable : List Location
  room : List (Location × Nat)
deriving DecidableEq, Repr

def Limits.none : Limits :=
  ⟨[], [], []⟩

structure FileTree where
  workdir : Location
  entries : List (Location × Entry)
  limits : Limits
deriving DecidableEq, Repr

/-- Reasons why a path does not lead to a file that can be used. -/
inductive FileFault where
  | noEntry
  | denied
  | notDirectory
  | isDirectory
  | nameTooLong
deriving DecidableEq, Repr

/-- A file operation that failed.  A path with a null character is refused before it is followed;
a write that breaks off leaves a part of the content behind. -/
inductive FileError where
  | os (fault : FileFault) (path : Path)
  | nullCharacter
  | brokenOff
deriving DecidableEq, Repr

def FileFault.message : FileFault → String
  | .noEntry => "[Errno 2] No such file or directory"
  | .denied => "[Errno 13] Permission denied"
  | .notDirectory => "[Errno 20] Not a directory"
  | .isDirectory => "[Errno 21] Is a directory"
  | .nameTooLong => "[Errno 36] File name too long"

namespace FileError

def message : FileError → String
  | .os fault path => s!"{fault.message}: {(Quoted.text path.text).toString}"
  | .nullCharacter => "embedded null byte"
  | .brokenOff => "[Errno 28] No space left on device"

/-- The name under which a failure is reported. -/
def kind : FileError → String
  | .os .noEntry _ => "FileNotFoundError"
  | .os .denied _ => "PermissionError"
  | .os .notDirectory _ => "NotADirectoryError"
  | .os .isDirectory _ => "IsADirectoryError"
  | .os .nameTooLong _ => "OSError"
  | .nullCharacter => "ValueError"
  | .brokenOff => "OSError"

end FileError

/-- Some name of the path holds a null character. -/
def Path.hasNull (p : Path) : Bool :=
  p.names.any fun name => name.contains '\x00'

namespace FileTree

/-- What is at a location; the root is always a directory. -/
def lookup? (t : FileTree) (loc : Location) : Option Entry :=
  if loc = [] then some .directory else t.entries.lookup loc

/-- Puts `value` under `key`, in place of what is there. -/
def put (key : Location) (value : Entry) : List (Location × Entry) → List (Location × Entry)
  | [] => [(key, value)]
  | (k, v) :: rest => if k = key then (key, value) :: rest else (k, v) :: put key value rest

def set (t : FileTree) (loc : Location) (entry : Entry) : FileTree :=
  { t with entries := put loc entry t.entries }

private theorem lookup_cons_eq (key k : Location) (v : Entry) (rest : List (Location × Entry)) :
    ((k, v) :: rest).lookup key = if key = k then some v else rest.lookup key := by
  by_cases h : key = k
  · simp [h]
  · simp [List.lookup_cons, h, beq_eq_false_iff_ne.2 h]

theorem lookup_put (key : Location) (value : Entry) (entries : List (Location × Entry))
    (loc : Location) :
    (put key value entries).lookup loc = if loc = key then some value else entries.lookup loc := by
  induction entries with
  | nil => rw [put, lookup_cons_eq]
  | cons e rest ih =>
    obtain ⟨k, v⟩ := e
    rw [put, lookup_cons_eq loc k v]
    split
    next hk =>
      rw [lookup_cons_eq, hk]
      split <;> rfl
    next hk =>
      rw [lookup_cons_eq, ih]
      split
      next h => rw [if_neg (h ▸ hk)]
      next h => rfl

@[simp] theorem workdir_set (t : FileTree) (loc : Location) (e : Entry) :
    (t.set loc e).workdir = t.workdir := rfl

@[simp] theorem limits_set (t : FileTree) (loc : Location) (e : Entry) :
    (t.set loc e).limits = t.limits := rfl

theorem lookup?_set (t : FileTree) {loc : Location} (e : Entry) (h : loc ≠ []) (l : Location) :
    (t.set loc e).lookup? l = if l = loc then some e else t.lookup? l := by
  by_cases hl : l = []
  · subst hl
    simp [lookup?, Ne.symm h]
  · simp [lookup?, set, hl, lookup_put]

/-- The largest number of bytes of a name. -/
def nameLimit : Nat := 255

/-- The largest number of bytes of a whole path. -/
def pathLimit : Nat := 4095

/-- Follows names from a location.  The last location need not exist. -/
def descend (t : FileTree) : Location → List Text → Except FileFault Location
  | loc, [] => .ok loc
  | loc, name :: names =>
    match t.lookup? loc with
    | some .directory =>
      if nameLimit < (Utf8.encode name).length then .error .nameTooLong
      else t.descend (if name = Path.up then loc.dropLast else loc ++ [name]) names
    | some (.file _) => .error .notDirectory
    | none => .error .noEntry

/-- The location that a path leads to.  The length of the path is looked at first. -/
def locate (t : FileTree) (p : Path) : Except FileFault Location :=
  if pathLimit < (Utf8.encode p.text).length then .error .nameTooLong
  else t.descend (if p.isAbsolute then [] else t.workdir) p.names

/-- What a path leads to, if anything. -/
def find? (t : FileTree) (p : Path) : Option Entry :=
  match t.locate p with
  | .ok loc => t.lookup? loc
  | .error _ => none

def read (t : FileTree) (p : Path) : Except FileError Bytes :=
  if p.hasNull then .error .nullCharacter
  else
    match t.locate p with
    | .error fault => .error (.os fault p)
    | .ok loc =>
      match t.lookup? loc with
      | none => .error (.os .noEntry p)
      | some entry =>
        if loc ∈ t.limits.unreadable then .error (.os .denied p)
        else
          match entry with
          | .file content => .ok content
          | .directory => .error (.os .isDirectory p)

/-- The location of the file that a path opens for writing. -/
def target (t : FileTree) (p : Path) : Except FileError Location :=
  if p.hasNull then .error .nullCharacter
  else
    match t.locate p with
    | .error fault => .error (.os fault p)
    | .ok loc =>
      if t.lookup? loc = some .directory then .error (.os .isDirectory p)
      else if loc ∈ t.limits.unwritable then .error (.os .denied p)
      else .ok loc

/-- The part of the content that a write to the location gets done. -/
def stored (t : FileTree) (loc : Location) (content : Bytes) : Bytes :=
  match t.limits.room.lookup loc with
  | none => content
  | some count => content.take count

/-- Replaces or creates a file in an existing directory.  Once the file is open its old content is
lost, even if the write breaks off. -/
def write (t : FileTree) (p : Path) (content : Bytes) : FileTree × Except FileError Unit :=
  match t.target p with
  | .error e => (t, .error e)
  | .ok loc =>
    (t.set loc (.file (t.stored loc content)),
      if t.stored loc content = content then .ok () else .error .brokenOff)

/-- The tree with directories on the whole way to a location. -/
def makeDirectories (t : FileTree) (loc : Location) : FileTree :=
  (List.range loc.length).foldl (fun t n =>
    let way := loc.take (n + 1)
    if (t.lookup? way).isSome then t else t.set way .directory) t

/-- A tree without limits that holds nothing but its working directory. -/
def ofWorkdir (workdir : Location) : FileTree :=
  makeDirectories ⟨workdir, [], .none⟩ workdir

/-- Puts a file at a path and makes the directories on its way. -/
def place (t : FileTree) (p : Path) (content : Bytes) : Except FileError FileTree :=
  let ready := t.makeDirectories (p.resolve t.workdir).names.dropLast
  (ready.target p).map fun loc => ready.set loc (.file content)

def makeDirectory (t : FileTree) (p : Path) : FileTree :=
  t.makeDirectories (p.resolve t.workdir).names

/-- Removes what a path leads to and all that lies under it. -/
def remove (t : FileTree) (p : Path) : Except FileError FileTree :=
  match t.locate p with
  | .error fault => .error (.os fault p)
  | .ok loc =>
    if (t.lookup? loc).isNone then .error (.os .noEntry p)
    else .ok { t with entries := t.entries.filter fun e => !loc.isPrefixOf e.1 }

def files (t : FileTree) : List (Location × Bytes) :=
  t.entries.filterMap fun e =>
    match e.2 with
    | .file content => some (e.1, content)
    | .directory => none

/-- The files in which two trees differ, with their content in the second one. -/
def changes (before after : FileTree) : List (Location × Option Bytes) :=
  (after.files.filter fun f => before.files.lookup f.1 ≠ some f.2).map (fun f => (f.1, some f.2)) ++
    (before.files.filter fun f => (after.files.lookup f.1).isNone).map fun f => (f.1, none)

end FileTree

end UnitReducer
