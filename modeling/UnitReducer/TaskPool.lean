import UnitReducer.Preprocess
/-!
# Pools of tasks

A pool holds the tasks of a list of commands over one file tree.  A task has two turns: in the
first it runs its program and reduces the output, in the second it writes the reduced text.  A
list of positions says whose turn it is, time after time, and a scheduler makes such a list for a
number of workers and a number of tasks.
-/

namespace UnitReducer

/-- What became of one file. -/
structure Row (ε α : Type) where
  file : Path
  outcome : Except ε α

def Row.failed {ε α : Type} (row : Row ε α) : Bool :=
  match row.outcome with
  | .ok _ => false
  | .error _ => true

abbrev PreprocessRow := Row PreprocessError Report

/-! ## Tasks -/

/-- How far a task has got. -/
inductive Stage where
  | waiting
  | reduced (text : Text) (report : Report)
  | ended (result : Except PreprocessError Report)

/-- The stage after the first turn. -/
def Stage.ofReduction : Except PreprocessError (Text × Report) → Stage
  | .error e => .ended (.error e)
  | .ok (text, report) => .reduced text report

/-- The task of a command. -/
structure Job where
  command : CompileCommand
  stage : Stage

namespace Job

/-- The next step of a task on the common tree. -/
def advance (tools : Toolchain) (isSystem : Text → Bool) (tree : FileTree) (job : Job) :
    Job × FileTree × Journal :=
  match job.stage with
  | .waiting =>
    let (journal, outcome) := job.command.reducedOutput tools isSystem tree
    (⟨job.command, .ofReduction outcome⟩, tree, journal)
  | .reduced text report =>
    let done := job.command.overwriteSource text report tree
    (⟨job.command, .ended done.result⟩, done.tree, done.journal)
  | .ended _ => (job, tree, .empty)

/-- The row of a task that has ended. -/
def row? (job : Job) : Option PreprocessRow :=
  match job.stage with
  | .ended result => some ⟨job.command.file, result⟩
  | _ => none

end Job

/-! ## Pools -/

/-- The tasks of some commands, in the order of the commands, their common tree, and what they
have reported. -/
@[ext]
structure Pool where
  tree : FileTree
  journal : Journal
  jobs : List Job

namespace Pool

def start (tree : FileTree) (commands : List CompileCommand) : Pool :=
  ⟨tree, .empty, commands.map fun c => ⟨c, .waiting⟩⟩

/-- The task at position `k` takes its next step. -/
def step (tools : Toolchain) (isSystem : Text → Bool) (pool : Pool) (k : Nat) : Pool :=
  match pool.jobs[k]? with
  | none => pool
  | some job =>
    let (next, tree, journal) := job.advance tools isSystem pool.tree
    ⟨tree, pool.journal ++ journal, pool.jobs.set k next⟩

/-- Tasks take their steps in the order of a schedule. -/
def run (tools : Toolchain) (isSystem : Text → Bool) (pool : Pool) (schedule : List Nat) : Pool :=
  schedule.foldl (step tools isSystem) pool

/-- The rows of the tasks that have ended, in the order of the commands. -/
def rows (pool : Pool) : List PreprocessRow :=
  pool.jobs.filterMap Job.row?

/-! ## Schedules -/

/-- Every task is given its two turns. -/
def IsInterleaving (count : Nat) (schedule : List Nat) : Prop :=
  ∀ k < count, 2 ≤ schedule.count k

instance (count : Nat) (schedule : List Nat) : Decidable (IsInterleaving count schedule) :=
  inferInstanceAs (Decidable (∀ k < count, 2 ≤ schedule.count k))

/-- The number of tasks that have had one turn and wait for the other. -/
def inFlight (schedule : List Nat) : Nat :=
  schedule.countP fun k => schedule.count k = 1

/-- The schedule that gives each task its two turns at once, in the order of the commands. -/
def inOrder (first count : Nat) : List Nat :=
  (List.range' first count).flatMap fun k => [k, k]

theorem inOrder_succ (first count : Nat) :
    inOrder first (count + 1) = first :: first :: inOrder (first + 1) count := rfl

theorem isInterleaving_inOrder (count : Nat) : IsInterleaving count (inOrder 0 count) := by
  intro k hk
  have hmem : k ∈ List.range' 0 count := by simpa using hk
  have hsub : List.Sublist [k, k] (inOrder 0 count) :=
    List.sublist_flatten_of_mem (List.mem_map_of_mem (f := fun k => [k, k]) hmem)
  have hcount := hsub.count_le k
  simpa using hcount

theorem le_of_mem_inOrder {first count k : Nat} (h : k ∈ inOrder first count) : first ≤ k := by
  obtain ⟨j, hj, hk⟩ := List.mem_flatMap.1 h
  have hle := (List.mem_range'_1.1 hj).1
  have heq : k = j := by simpa using hk
  omega

/-- A task that has had both its turns is no longer in flight. -/
theorem inFlight_cons_cons {k : Nat} {schedule : List Nat} (h : k ∉ schedule) :
    inFlight (k :: k :: schedule) = inFlight schedule := by
  have hothers : schedule.countP (fun i => (k :: k :: schedule).count i = 1) =
      schedule.countP fun i => schedule.count i = 1 := by
    apply List.countP_congr
    intro i hi
    have hne : k ≠ i := fun heq => h (heq ▸ hi)
    simp [hne]
  unfold inFlight
  rw [List.countP_cons, List.countP_cons, hothers]
  simp

theorem inFlight_take_inOrder (first count n : Nat) :
    inFlight ((inOrder first count).take n) ≤ 1 := by
  induction count generalizing first n with
  | zero => simp [inOrder, inFlight]
  | succ count ih =>
      rw [inOrder_succ]
      match n with
      | 0 => simp [inFlight]
      | 1 => simp [inFlight]
      | n + 2 =>
          have hfirst : first ∉ (inOrder (first + 1) count).take n := by
            intro hmem
            have hle := le_of_mem_inOrder (List.mem_of_mem_take hmem)
            omega
          rw [List.take_succ_cons, List.take_succ_cons, inFlight_cons_cons hfirst]
          exact ih (first + 1) n

end Pool

/-- Whose turn it is when so many workers go through so many tasks.  No more tasks are between
their turns than there are workers. -/
structure Scheduler where
  turns : Nat → Nat → List Nat
  complete : ∀ workers count, Pool.IsInterleaving count (turns workers count)
  bounded : ∀ workers count n, 0 < workers →
    Pool.inFlight ((turns workers count).take n) ≤ workers

/-- One task after another, however many workers there are. -/
def Scheduler.inOrder : Scheduler where
  turns _ count := Pool.inOrder 0 count
  complete _ := Pool.isInterleaving_inOrder
  bounded _ count n hworkers := Nat.le_trans (Pool.inFlight_take_inOrder 0 count n) hworkers

end UnitReducer
