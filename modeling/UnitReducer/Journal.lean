import UnitReducer.Toolchain
/-!
# Journals

A journal holds what a run reports while it goes on: log records, and the programs that were
called.  An effect joins it with the file tree and the result that the run ends with.
-/

namespace UnitReducer

inductive Level where
  | debug
  | info
  | warning
  | error
deriving DecidableEq, Repr

/-- The part of the program that reports. -/
inductive Reporter where
  | database
  | preprocessor
  | pipeline
  | commandLine
deriving DecidableEq, Repr

structure Record where
  level : Level
  reporter : Reporter
  message : String
deriving DecidableEq, Repr

structure Journal where
  records : List Record
  calls : List Call
deriving DecidableEq, Repr

namespace Level

def rank : Level → Nat
  | .debug => 10
  | .info => 20
  | .warning => 30
  | .error => 40

def name : Level → String
  | .debug => "DEBUG"
  | .info => "INFO"
  | .warning => "WARNING"
  | .error => "ERROR"

end Level

namespace Journal

def empty : Journal :=
  ⟨[], []⟩

instance : Append Journal where
  append a b := ⟨a.records ++ b.records, a.calls ++ b.calls⟩

def record (level : Level) (reporter : Reporter) (message : String) : Journal :=
  ⟨[⟨level, reporter, message⟩], []⟩

def call (c : Call) : Journal :=
  ⟨[], [c]⟩

@[simp] theorem records_append (a b : Journal) : (a ++ b).records = a.records ++ b.records := rfl

/-- The records of at least the given level. -/
def recordsFrom (level : Level) (j : Journal) : List Record :=
  j.records.filter fun r => level.rank ≤ r.level.rank

end Journal

/-- What an activity on a file tree leaves behind: the tree, the journal, and its result. -/
structure Effect (ε α : Type) where
  tree : FileTree
  journal : Journal
  result : Except ε α

end UnitReducer
