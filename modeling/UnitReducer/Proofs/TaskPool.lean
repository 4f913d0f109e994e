import UnitReducer.Pipeline
import UnitReducer.Proofs.TaskOutcomes
/-!
# What a pool of tasks does

Under every schedule that gives each task its two turns all tasks come to their end.  The
result of a task is settled by the trees that its turns find
(`Pool.exists_getElem?_jobs_run`), only source files change, and of these only the ones whose
tasks have got to write (`Pool.Framed`).  One task after another is the schedule `inOrder`.
-/

namespace UnitReducer

open FileTree (SameDirectories)

def Job.Ended (job : Job) : Prop :=
  ∃ result, job.stage = .ended result

namespace Pool

variable {tools : Toolchain} {isSystem : Text → Bool} {tree : FileTree} {pool : Pool}
  {commands : List CompileCommand}

/-! ## One turn -/

theorem step_eq {k : Nat} {job : Job} (h : pool.jobs[k]? = some job) :
    pool.step tools isSystem k =
      ⟨(job.advance tools isSystem pool.tree).2.1,
        pool.journal ++ (job.advance tools isSystem pool.tree).2.2,
        pool.jobs.set k (job.advance tools isSystem pool.tree).1⟩ := by
  rw [step, h]

theorem step_of_none {k : Nat} (h : pool.jobs[k]? = none) :
    pool.step tools isSystem k = pool := by
  rw [step, h]

theorem run_append (pool : Pool) (before after : List Nat) :
    pool.run tools isSystem (before ++ after) =
      (pool.run tools isSystem before).run tools isSystem after :=
  List.foldl_append

theorem getElem?_jobs_step_self {k : Nat} {job : Job} (h : pool.jobs[k]? = some job) :
    (pool.step tools isSystem k).jobs[k]? = some (job.advance tools isSystem pool.tree).1 := by
  rw [step_eq h]
  exact List.getElem?_set_self (List.getElem?_eq_some_iff.1 h).1

theorem getElem?_jobs_step_of_ne {j k : Nat} (h : j ≠ k) (pool : Pool) :
    (pool.step tools isSystem j).jobs[k]? = pool.jobs[k]? := by
  cases hjob : pool.jobs[j]? with
  | none => rw [step_of_none hjob]
  | some job =>
      rw [step_eq hjob]
      exact List.getElem?_set_ne h

theorem command_advance (tools : Toolchain) (isSystem : Text → Bool) (tree : FileTree)
    (job : Job) : (job.advance tools isSystem tree).1.command = job.command := by
  unfold Job.advance
  split <;> rfl

theorem set_of_getElem? {α : Type} {xs : List α} {k : Nat} {x : α}
    (h : xs[k]? = some x) : xs.set k x = xs := by
  obtain ⟨hk, rfl⟩ := List.getElem?_eq_some_iff.1 h
  exact List.set_getElem_self hk

theorem mem_set_of_mem {α : Type} {xs : List α} {k : Nat} {x y : α} (hx : xs[k]? = some x)
    (hy : y ∈ xs) (hne : y ≠ x) (z : α) : y ∈ xs.set k z := by
  obtain ⟨i, hi⟩ := List.getElem?_of_mem hy
  have hik : k ≠ i := by
    rintro rfl
    rw [hx, Option.some.injEq] at hi
    exact hne hi.symm
  refine List.mem_of_getElem? (i := i) ?_
  rw [List.getElem?_set_ne hik, hi]

theorem map_command_step (tools : Toolchain) (isSystem : Text → Bool) (pool : Pool) (k : Nat) :
    (pool.step tools isSystem k).jobs.map Job.command = pool.jobs.map Job.command := by
  cases hjob : pool.jobs[k]? with
  | none => rw [step_of_none hjob]
  | some job =>
      have hcommand : (pool.jobs.map Job.command)[k]? = some job.command := by
        rw [List.getElem?_map, hjob]
        rfl
      rw [step_eq hjob, List.map_set, command_advance, set_of_getElem? hcommand]

theorem map_command_start (tree : FileTree) (commands : List CompileCommand) :
    (start tree commands).jobs.map Job.command = commands := by
  simp [start, Function.comp_def]

/-! ## Many turns -/

theorem map_command_run (tools : Toolchain) (isSystem : Text → Bool) (pool : Pool)
    (schedule : List Nat) :
    (pool.run tools isSystem schedule).jobs.map Job.command = pool.jobs.map Job.command := by
  induction schedule generalizing pool with
  | nil => rfl
  | cons k schedule ih => exact (ih _).trans (map_command_step tools isSystem pool k)

theorem run_start_nil (tools : Toolchain) (isSystem : Text → Bool) (tree : FileTree)
    (schedule : List Nat) : (start tree []).run tools isSystem schedule = start tree [] := by
  induction schedule with
  | nil => rfl
  | cons k schedule ih => exact ih

theorem getElem?_jobs_run_of_not_mem {schedule : List Nat} {k : Nat} (h : k ∉ schedule)
    (pool : Pool) : (pool.run tools isSystem schedule).jobs[k]? = pool.jobs[k]? := by
  induction schedule generalizing pool with
  | nil => rfl
  | cons j schedule ih =>
      rw [List.mem_cons, not_or] at h
      exact (ih h.2 _).trans (getElem?_jobs_step_of_ne (Ne.symm h.1) pool)

theorem getElem?_jobs_run_of_ended {k : Nat} {c : CompileCommand}
    {result : Except PreprocessError Report} (h : pool.jobs[k]? = some ⟨c, .ended result⟩)
    (schedule : List Nat) :
    (pool.run tools isSystem schedule).jobs[k]? = some ⟨c, .ended result⟩ := by
  induction schedule generalizing pool with
  | nil => exact h
  | cons j schedule ih =>
      apply ih
      by_cases hjk : j = k
      · subst hjk
        exact getElem?_jobs_step_self h
      · rw [getElem?_jobs_step_of_ne hjk, h]

/-- The tree that the task at position `k` finds at its first turn. -/
def treeFor (tools : Toolchain) (isSystem : Text → Bool) (tree : FileTree)
    (commands : List CompileCommand) (schedule : List Nat) (k : Nat) : FileTree :=
  ((start tree commands).run tools isSystem (schedule.takeWhile fun j => j ≠ k)).tree

theorem exists_two_turns {schedule : List Nat} {k : Nat} (h : 2 ≤ schedule.count k) :
    ∃ middle after, schedule =
        (schedule.takeWhile fun j => j ≠ k) ++ k :: (middle ++ k :: after) ∧
      k ∉ schedule.takeWhile (fun j => j ≠ k) ∧ k ∉ middle := by
  have hmem : k ∈ schedule := List.count_pos_iff.1 (by omega)
  obtain ⟨before, rest, rfl, hbefore⟩ := List.eq_append_cons_of_mem hmem
  have hfirst : (before ++ k :: rest).takeWhile (fun j => j ≠ k) = before := by
    rw [List.takeWhile_append_of_pos]
    · simp
    · intro j hj
      exact decide_eq_true fun heq => hbefore (heq ▸ hj)
  have hrest : k ∈ rest := by
    rw [List.count_append, List.count_eq_zero.2 hbefore, List.count_cons_self] at h
    exact List.count_pos_iff.1 (by omega)
  obtain ⟨middle, after, rfl, hmiddle⟩ := List.eq_append_cons_of_mem hrest
  rw [hfirst]
  exact ⟨middle, after, rfl, hbefore, hmiddle⟩

/-- A task that has had both its turns has ended, with the result that the trees of its turns
give. -/
theorem exists_getElem?_jobs_run (tools : Toolchain) (isSystem : Text → Bool) (tree : FileTree)
    {schedule : List Nat} {k : Nat} {c : CompileCommand} (hc : commands[k]? = some c)
    (hturns : 2 ≤ schedule.count k) :
    ∃ later, ((start tree commands).run tools isSystem schedule).jobs[k]? =
      some ⟨c, .ended (c.resultOn tools isSystem
        (treeFor tools isSystem tree commands schedule k) later)⟩ := by
  obtain ⟨middle, after, hschedule, hbefore, hmiddle⟩ := exists_two_turns hturns
  unfold treeFor
  generalize schedule.takeWhile (fun j => j ≠ k) = before at hschedule hbefore ⊢
  subst hschedule
  let first := (start tree commands).run tools isSystem before
  let second := (first.step tools isSystem k).run tools isSystem middle
  have hrun : (start tree commands).run tools isSystem (before ++ k :: (middle ++ k :: after)) =
      (second.step tools isSystem k).run tools isSystem after := by
    rw [run_append]
    exact run_append (first.step tools isSystem k) middle (k :: after)
  have hwaiting : first.jobs[k]? = some ⟨c, .waiting⟩ := by
    rw [getElem?_jobs_run_of_not_mem hbefore]
    simp [start, hc]
  have hsecond : second.jobs[k]? =
      some ⟨c, .ofReduction (c.reducedOutput tools isSystem first.tree).2⟩ := by
    rw [getElem?_jobs_run_of_not_mem hmiddle, getElem?_jobs_step_self hwaiting]
    rfl
  refine ⟨second.tree, ?_⟩
  rw [hrun]
  apply getElem?_jobs_run_of_ended
  rw [getElem?_jobs_step_self hsecond]
  unfold CompileCommand.resultOn
  cases (c.reducedOutput tools isSystem first.tree).2 with
  | error e => rfl
  | ok pair => rfl

/-! ## Complete pools and their rows -/

def Complete (pool : Pool) : Prop :=
  ∀ job ∈ pool.jobs, job.Ended

theorem getElem?_commands_of_jobs (hcommands : pool.jobs.map Job.command = commands) {k : Nat}
    {job : Job} (hjob : pool.jobs[k]? = some job) : commands[k]? = some job.command := by
  rw [← hcommands, List.getElem?_map, hjob]
  rfl

theorem commands_run (tools : Toolchain) (isSystem : Text → Bool) (tree : FileTree)
    (commands : List CompileCommand) (schedule : List Nat) :
    ((start tree commands).run tools isSystem schedule).jobs.map Job.command = commands :=
  (map_command_run tools isSystem _ schedule).trans (map_command_start tree commands)

theorem complete_run (tools : Toolchain) (isSystem : Text → Bool) (tree : FileTree)
    {schedule : List Nat} (hschedule : IsInterleaving commands.length schedule) :
    ((start tree commands).run tools isSystem schedule).Complete := by
  intro job hjob
  obtain ⟨k, hk⟩ := List.getElem?_of_mem hjob
  have hc := getElem?_commands_of_jobs (commands_run tools isSystem tree commands schedule) hk
  have hturns := hschedule k (List.getElem?_eq_some_iff.1 hc).1
  obtain ⟨later, hended⟩ := exists_getElem?_jobs_run tools isSystem tree hc hturns
  rw [hk, Option.some.injEq] at hended
  exact ⟨_, congrArg Job.stage hended⟩

theorem Complete.map_some_rows (h : pool.Complete) :
    pool.rows.map some = pool.jobs.map Job.row? := by
  unfold Complete at h
  unfold rows
  generalize pool.jobs = jobs at h ⊢
  induction jobs with
  | nil => rfl
  | cons job jobs ih =>
      obtain ⟨result, hresult⟩ := h job List.mem_cons_self
      have hrow : job.row? = some ⟨job.command.file, result⟩ := by
        rw [Job.row?, hresult]
      rw [List.filterMap_cons_some hrow, List.map_cons, List.map_cons, hrow,
        ih fun j hj => h j (List.mem_cons_of_mem job hj)]

theorem Complete.getElem?_rows (h : pool.Complete) {k : Nat} {c : CompileCommand}
    {result : Except PreprocessError Report} (hjob : pool.jobs[k]? = some ⟨c, .ended result⟩) :
    pool.rows[k]? = some ⟨c.file, result⟩ := by
  have hrows := congrArg (fun rows => rows[k]?) h.map_some_rows
  simp only [List.getElem?_map, hjob, Option.map_some] at hrows
  exact Option.map_injective (Option.some_injective _) hrows

theorem Complete.map_file_rows (h : pool.Complete) :
    pool.rows.map Row.file = (pool.jobs.map Job.command).map CompileCommand.file := by
  have hfile : ∀ job ∈ pool.jobs, job.row?.map Row.file = some job.command.file := by
    intro job hjob
    obtain ⟨result, hresult⟩ := h job hjob
    rw [Job.row?, hresult]
    rfl
  have hrows := congrArg (List.map (Option.map Row.file)) h.map_some_rows
  rw [List.map_map, List.map_map] at hrows
  apply List.map_injective_iff.2 (Option.some_injective _)
  rw [List.map_map, List.map_map, List.map_map]
  exact hrows.trans (List.map_congr_left hfile)

theorem exists_getElem?_rows (tools : Toolchain) (isSystem : Text → Bool) (tree : FileTree)
    {schedule : List Nat} (hschedule : IsInterleaving commands.length schedule) {k : Nat}
    {c : CompileCommand} (hc : commands[k]? = some c) :
    ∃ later, ((start tree commands).run tools isSystem schedule).rows[k]? =
      some ⟨c.file, c.resultOn tools isSystem
        (treeFor tools isSystem tree commands schedule k) later⟩ := by
  obtain ⟨later, hended⟩ := exists_getElem?_jobs_run tools isSystem tree hc
    (hschedule k (List.getElem?_eq_some_iff.1 hc).1)
  exact ⟨later, (complete_run tools isSystem tree hschedule).getElem?_rows hended⟩

theorem map_file_rows_run (tools : Toolchain) (isSystem : Text → Bool) (tree : FileTree)
    {schedule : List Nat} (hschedule : IsInterleaving commands.length schedule) :
    ((start tree commands).run tools isSystem schedule).rows.map Row.file =
      commands.map CompileCommand.file := by
  rw [(complete_run tools isSystem tree hschedule).map_file_rows, commands_run]

theorem exists_getElem?_of_row (tools : Toolchain) (isSystem : Text → Bool) (tree : FileTree)
    {schedule : List Nat} (hschedule : IsInterleaving commands.length schedule) {k : Nat}
    {row : PreprocessRow}
    (hrow : ((start tree commands).run tools isSystem schedule).rows[k]? = some row) :
    ∃ c, commands[k]? = some c := by
  have hlength := congrArg List.length (map_file_rows_run tools isSystem tree hschedule)
  rw [List.length_map, List.length_map] at hlength
  have hk := (List.getElem?_eq_some_iff.1 hrow).1
  exact ⟨_, List.getElem?_eq_getElem (hlength ▸ hk)⟩

/-! ## Files that change -/

/-- The task has come to write its source file; the write may have broken off. -/
def HasOpened (job : Job) : Prop :=
  (∃ report, job.stage = .ended (.ok report)) ∨ job.stage = .ended (.error (.file .brokenOff))

/-- What has happened to the tree since the start: only source files whose tasks have come to
write them have changed, no directory has come or gone, and no write has broken off that
should not. -/
structure Framed (tree : FileTree) (pool : Pool) : Prop where
  sameDirectories : SameDirectories pool.tree tree
  untouched : ∀ l, (∀ job ∈ pool.jobs, HasOpened job →
    tree.locate job.command.sourcePath ≠ .ok l) → pool.tree.lookup? l = tree.lookup? l
  whole : tree.WritesComplete → ∀ job ∈ pool.jobs, job.stage ≠ .ended (.error (.file .brokenOff))

theorem framed_start (tree : FileTree) (commands : List CompileCommand) :
    Framed tree (start tree commands) where
  sameDirectories := .refl tree
  untouched := fun _ _ => rfl
  whole := by
    intro _ job hjob
    obtain ⟨c, -, rfl⟩ := List.mem_map.1 hjob
    exact nofun

/-- What a turn has to keep: it changes the tree at most where its task writes, and only a
tree that limits its writes lets it break off. -/
theorem Framed.replace (h : Framed tree pool) {k : Nat} {job next : Job} {left : FileTree}
    {journal : Journal} (hjob : pool.jobs[k]? = some job) (hopened : ¬ HasOpened job)
    (hsame : SameDirectories left pool.tree)
    (hframe : ∀ l, (HasOpened next → pool.tree.locate next.command.sourcePath ≠ .ok l) →
      left.lookup? l = pool.tree.lookup? l)
    (hwhole : pool.tree.WritesComplete → next.stage ≠ .ended (.error (.file .brokenOff))) :
    Framed tree ⟨left, journal, pool.jobs.set k next⟩ where
  sameDirectories := hsame.trans h.sameDirectories
  untouched := by
    intro l hl
    have hk : k < pool.jobs.length := (List.getElem?_eq_some_iff.1 hjob).1
    refine (hframe l ?_).trans (h.untouched l ?_)
    · intro hnext hlocate
      exact hl next (List.mem_set hk next) hnext
        (h.sameDirectories.locate_eq_ok_iff.1 hlocate)
    · intro other hother hotherOpened
      refine hl other (mem_set_of_mem hjob hother ?_ next) hotherOpened
      rintro rfl
      exact hopened hotherOpened
  whole := by
    intro hcomplete other hother
    rcases List.mem_or_eq_of_mem_set hother with hother | rfl
    · exact h.whole hcomplete other hother
    · exact hwhole (hcomplete.congr h.sameDirectories.limits_eq)

theorem Framed.step_waiting (h : Framed tree pool) {k : Nat} {c : CompileCommand}
    (hjob : pool.jobs[k]? = some ⟨c, .waiting⟩) : Framed tree (pool.step tools isSystem k) := by
  rw [step_eq hjob]
  refine h.replace hjob ?_ (.refl _) (fun _ _ => rfl) ?_
  · rintro (⟨report, hended⟩ | hended) <;> cases hended
  · intro _ hended
    have hreduced := c.reducedOutput_ne_brokenOff tools isSystem pool.tree
    dsimp only [Job.advance] at hended
    cases houtcome : (c.reducedOutput tools isSystem pool.tree).2 with
    | ok pair =>
        rw [houtcome] at hended
        cases hended
    | error e =>
        rw [houtcome] at hended hreduced
        cases hended
        exact hreduced rfl

theorem Framed.step_reduced (h : Framed tree pool) {k : Nat} {c : CompileCommand} {text : Text}
    {report : Report} (hjob : pool.jobs[k]? = some ⟨c, .reduced text report⟩) :
    Framed tree (pool.step tools isSystem k) := by
  have hclosed : ¬ HasOpened ⟨c, .reduced text report⟩ := by
    rintro (⟨report, hended⟩ | hended) <;> cases hended
  rw [step_eq hjob]
  dsimp only [Job.advance]
  rw [c.result_overwriteSource, c.tree_overwriteSource]
  have hend := pool.tree.writeEnd_write c.sourcePath (Utf8.encode text)
  generalize pool.tree.write c.sourcePath (Utf8.encode text) = done at hend ⊢
  cases hend with
  | refused htarget =>
      refine h.replace hjob hclosed (.refl _) (fun _ _ => rfl) ?_
      rintro - hended
      cases hended
      exact FileTree.target_ne_brokenOff _ _ htarget
  | done hwritable hfits =>
      refine h.replace hjob hclosed (hwritable.sameDirectories_set _) ?_ nofun
      intro l hl
      exact hwritable.lookup?_set_of_locate_ne _ (hl (Or.inl ⟨report, rfl⟩))
  | brokenOff hwritable hbreaks =>
      refine h.replace hjob hclosed (hwritable.sameDirectories_set _) ?_ ?_
      · intro l hl
        exact hwritable.lookup?_set_of_locate_ne _ (hl (Or.inr rfl))
      · intro hcomplete
        exact absurd (hcomplete _ _) hbreaks

theorem Framed.step (h : Framed tree pool) (k : Nat) :
    Framed tree (pool.step tools isSystem k) := by
  cases hjob : pool.jobs[k]? with
  | none =>
      rw [step_of_none hjob]
      exact h
  | some job =>
      obtain ⟨c, stage⟩ := job
      cases stage with
      | waiting => exact h.step_waiting hjob
      | reduced text report => exact h.step_reduced hjob
      | ended result =>
          rw [step_eq hjob]
          dsimp only [Job.advance]
          rw [set_of_getElem? hjob]
          exact ⟨h.sameDirectories, h.untouched, h.whole⟩

theorem Framed.run (h : Framed tree pool) (schedule : List Nat) :
    Framed tree (pool.run tools isSystem schedule) := by
  induction schedule generalizing pool with
  | nil => exact h
  | cons k schedule ih => exact ih (h.step k)

/-! ## One task after another -/

theorem advance_advance (tools : Toolchain) (isSystem : Text → Bool) (tree : FileTree)
    (c : CompileCommand) :
    let once := Job.advance tools isSystem tree ⟨c, .waiting⟩
    let twice := once.1.advance tools isSystem once.2.1
    twice.1 = ⟨c, .ended (c.preprocess tools isSystem tree).result⟩ ∧
      twice.2.1 = (c.preprocess tools isSystem tree).tree := by
  unfold CompileCommand.preprocess
  dsimp only [Job.advance]
  obtain ⟨journal, outcome⟩ := c.reducedOutput tools isSystem tree
  cases outcome with
  | error e => exact ⟨rfl, rfl⟩
  | ok pair => exact ⟨rfl, rfl⟩

end Pool

/-- Preprocesses commands one after another, whether or not some of them fail. -/
def Pipeline.preprocessEach (tools : Toolchain) (isSystem : Text → Bool) :
    FileTree → List CompileCommand → FileTree × List PreprocessRow
  | tree, [] => (tree, [])
  | tree, c :: commands =>
    let done := c.preprocess tools isSystem tree
    let (final, rows) := preprocessEach tools isSystem done.tree commands
    (final, ⟨c.file, done.result⟩ :: rows)

namespace Pool

theorem run_inOrder_aux (tools : Toolchain) (isSystem : Text → Bool) (tree : FileTree)
    (journal : Journal) (done : List Job) (commands : List CompileCommand) :
    let pool : Pool := ⟨tree, journal, done ++ (start tree commands).jobs⟩
    let final := pool.run tools isSystem (inOrder done.length commands.length)
    final.tree = (Pipeline.preprocessEach tools isSystem tree commands).1 ∧
      final.rows = done.filterMap Job.row? ++
        (Pipeline.preprocessEach tools isSystem tree commands).2 := by
  induction commands generalizing tree journal done with
  | nil => simp [inOrder, run, rows, start, Pipeline.preprocessEach]
  | cons c commands ih =>
      intro pool final
      have hjob : pool.jobs[done.length]? = some ⟨c, .waiting⟩ := by simp [pool, start]
      -- after its two turns the task of `c` has ended, and the others go on behind it
      have htwo : ∃ journal', (pool.step tools isSystem done.length).step tools isSystem
          done.length = ⟨(c.preprocess tools isSystem tree).tree, journal',
            (done ++ [⟨c, .ended (c.preprocess tools isSystem tree).result⟩]) ++
              (start tree commands).jobs⟩ := by
        obtain ⟨hstage, htree⟩ := advance_advance tools isSystem tree c
        rw [step_eq hjob, step_eq (by simp [pool, start]; rfl), hstage, htree]
        refine ⟨_, Pool.ext rfl rfl ?_⟩
        simp [pool, start]
      obtain ⟨journal', htwo⟩ := htwo
      have hfinal : final = (Pool.mk (c.preprocess tools isSystem tree).tree journal'
          ((done ++ [⟨c, .ended (c.preprocess tools isSystem tree).result⟩]) ++
            (start tree commands).jobs)).run tools isSystem
              (inOrder (done.length + 1) commands.length) := by
        rw [← htwo]
        rfl
      have hrest := ih (c.preprocess tools isSystem tree).tree journal'
        (done ++ [⟨c, .ended (c.preprocess tools isSystem tree).result⟩])
      rw [List.length_append, List.length_singleton] at hrest
      rw [hfinal]
      refine ⟨hrest.1, hrest.2.trans ?_⟩
      simp [Job.row?, Pipeline.preprocessEach]

theorem run_inOrder (tools : Toolchain) (isSystem : Text → Bool) (tree : FileTree)
    (commands : List CompileCommand) :
    let final := (start tree commands).run tools isSystem (inOrder 0 commands.length)
    final.tree = (Pipeline.preprocessEach tools isSystem tree commands).1 ∧
      final.rows = (Pipeline.preprocessEach tools isSystem tree commands).2 :=
  run_inOrder_aux tools isSystem tree .empty [] commands

end Pool

end UnitReducer
