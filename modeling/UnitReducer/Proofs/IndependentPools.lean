import UnitReducer.Proofs.TaskIndependence
import UnitReducer.Proofs.TaskPool
/-!
# Pools of independent tasks

Tasks that are independent of each other always see what they would see if they ran
alone.  `Pool.Sound`, which says so, is preserved by every schedule, and so all complete
pools of independent tasks hold the same files and the same rows.
-/

namespace UnitReducer

open FileTree (AgreeOutside)

/-! ## What every schedule preserves -/

/-- What a task has done so far is what it would have done alone on the tree.  Only the
reason why a file cannot be written may be another one, when the file of another task
has come to stand on the way. -/
def Job.Sound (tools : Toolchain) (isSystem : Text → Bool) (tree : FileTree)
    (commands : List CompileCommand) (job : Job) : Prop :=
  match job.stage with
  | .waiting => True
  | .reduced text report => (job.command.reducedOutput tools isSystem tree).2 = .ok (text, report)
  | .ended result =>
    (∀ report, result = .ok report ↔
      (job.command.preprocess tools isSystem tree).result = .ok report) ∧
    (WaysApart tree commands → result = (job.command.preprocess tools isSystem tree).result)

def Job.HasWritten (tools : Toolchain) (isSystem : Text → Bool) (tree : FileTree) (job : Job)
    (l : Location) : Prop :=
  job.Ended ∧ job.command.Writes tools isSystem tree l

namespace Pool

/-- The invariant of a pool that was started on `tree`.  Every task is sound, a file
that was written is as its task alone would have left it, and all else is as it was. -/
structure Sound (tools : Toolchain) (isSystem : Text → Bool) (tree : FileTree)
    (commands : List CompileCommand) (pool : Pool) : Prop where
  commands_eq : pool.jobs.map Job.command = commands
  framed : Framed tree pool
  jobs : ∀ job ∈ pool.jobs, job.Sound tools isSystem tree commands
  written : ∀ job ∈ pool.jobs, ∀ l, job.HasWritten tools isSystem tree l →
    pool.tree.lookup? l = (job.command.preprocess tools isSystem tree).tree.lookup? l
  untouched : ∀ l, (∀ job ∈ pool.jobs, ¬ job.HasWritten tools isSystem tree l) →
    pool.tree.lookup? l = tree.lookup? l

variable {tools : Toolchain} {isSystem : Text → Bool} {tree : FileTree}
  {commands : List CompileCommand} {pool : Pool}

theorem sound_start (tools : Toolchain) (isSystem : Text → Bool) (tree : FileTree)
    (commands : List CompileCommand) :
    Sound tools isSystem tree commands (start tree commands) where
  commands_eq := map_command_start tree commands
  framed := framed_start tree commands
  jobs := by
    intro job hjob
    obtain ⟨c, -, rfl⟩ := List.mem_map.1 hjob
    trivial
  written := by
    rintro job hjob l ⟨⟨result, hended⟩, -⟩
    obtain ⟨c, -, rfl⟩ := List.mem_map.1 hjob
    cases hended
  untouched := fun _ _ => rfl

theorem Sound.getElem?_commands (h : Sound tools isSystem tree commands pool) {k : Nat} {job : Job}
    (hjob : pool.jobs[k]? = some job) : commands[k]? = some job.command :=
  getElem?_commands_of_jobs h.commands_eq hjob

theorem Sound.agreeOutside (h : Sound tools isSystem tree commands pool) {k : Nat} {job : Job}
    (hjob : pool.jobs[k]? = some job) (hopen : ¬ job.Ended) :
    AgreeOutside (writtenByOthers tools isSystem tree commands k) pool.tree tree := by
  refine ⟨h.framed.sameDirectories.workdir_eq, h.framed.sameDirectories.limits_eq, ?_⟩
  intro l hl
  apply h.untouched l
  rintro other hother ⟨hended, hwrites⟩
  obtain ⟨i, hi⟩ := List.getElem?_of_mem hother
  have hik : i ≠ k := by
    rintro rfl
    rw [hjob, Option.some.injEq] at hi
    exact hopen (hi ▸ hended)
  exact hl ⟨other.command,
    List.mem_eraseIdx_iff_getElem?.2 ⟨i, hik, h.getElem?_commands hi⟩, hwrites⟩

/-- What a turn has to keep: the task that takes it stays sound, and the tree changes
at most where this task writes, to what it would write alone. -/
theorem Sound.of_advance (h : Sound tools isSystem tree commands pool)
    (hfiles : tree.DifferentFiles (commands.map CompileCommand.sourcePath)) {k : Nat}
    {job next : Job} {left : FileTree} {journal : Journal} (hjob : pool.jobs[k]? = some job)
    (hopen : ¬ job.Ended)
    (hadvance : job.advance tools isSystem pool.tree = (next, left, journal))
    (hnext : next.Sound tools isSystem tree commands)
    (hwritten : ∀ l, next.HasWritten tools isSystem tree l →
      left.lookup? l = (next.command.preprocess tools isSystem tree).tree.lookup? l)
    (hframe : ∀ l, ¬ next.HasWritten tools isSystem tree l →
      left.lookup? l = pool.tree.lookup? l) :
    Sound tools isSystem tree commands (pool.step tools isSystem k) := by
  have hk : k < pool.jobs.length := (List.getElem?_eq_some_iff.1 hjob).1
  have hcommand : next.command = job.command := by
    have hsame := command_advance tools isSystem pool.tree job
    rwa [hadvance] at hsame
  have hcommands := (map_command_step tools isSystem pool k).trans h.commands_eq
  have hframed : Framed tree (pool.step tools isSystem k) := h.framed.step k
  rw [step_eq hjob, hadvance] at hcommands hframed ⊢
  -- a member of the new list is the new task or an old one from another position
  have hmem : ∀ other ∈ pool.jobs.set k next,
      other = next ∨ ∃ i, i ≠ k ∧ pool.jobs[i]? = some other := by
    intro other hother
    obtain ⟨i, hi⟩ := List.getElem?_of_mem hother
    by_cases hik : i = k
    · subst hik
      rw [List.getElem?_set_self hk, Option.some.injEq] at hi
      exact Or.inl hi.symm
    · rw [List.getElem?_set_ne (Ne.symm hik)] at hi
      exact Or.inr ⟨i, hik, hi⟩
  refine ⟨hcommands, hframed, ?_, ?_, ?_⟩
  · intro other hother
    rcases hmem other hother with rfl | ⟨i, -, hi⟩
    · exact hnext
    · exact h.jobs other (List.mem_of_getElem? hi)
  · intro other hother l hl
    rcases hmem other hother with rfl | ⟨i, hik, hi⟩
    · exact hwritten l hl
    · -- the files of two tasks are different, so the turn leaves this one alone
      have hother : ¬ next.HasWritten tools isSystem tree l := by
        rintro ⟨-, hwrites⟩
        rw [hcommand] at hwrites
        refine hfiles.locate_ne hik ?_ ?_ hl.2.locate_eq hwrites.locate_eq
        · rw [List.getElem?_map, h.getElem?_commands hi]
          rfl
        · rw [List.getElem?_map, h.getElem?_commands hjob]
          rfl
      exact (hframe l hother).trans (h.written other (List.mem_of_getElem? hi) l hl)
  · intro l hl
    refine (hframe l (hl next (List.mem_set hk next))).trans (h.untouched l ?_)
    intro other hother hwritten
    refine hl other (mem_set_of_mem hjob hother ?_ next) hwritten
    rintro rfl
    exact hopen hwritten.1

theorem Sound.step_waiting (h : Sound tools isSystem tree commands pool)
    (hindependent : IndependentTasks tools isSystem tree commands) {k : Nat} {c : CompileCommand}
    (hjob : pool.jobs[k]? = some ⟨c, .waiting⟩) :
    Sound tools isSystem tree commands (pool.step tools isSystem k) := by
  have hopen : ¬ Job.Ended ⟨c, .waiting⟩ := nofun
  have hreduced : c.reducedOutput tools isSystem pool.tree = c.reducedOutput tools isSystem tree :=
    hindependent.programs.reducedOutput_eq (h.getElem?_commands hjob) (h.agreeOutside hjob hopen)
  have hadvance : Job.advance tools isSystem pool.tree ⟨c, .waiting⟩ =
      (⟨c, .ofReduction (c.reducedOutput tools isSystem pool.tree).2⟩, pool.tree,
        (c.reducedOutput tools isSystem pool.tree).1) := rfl
  rw [hreduced] at hadvance
  refine h.of_advance hindependent.files hjob hopen hadvance ?_ ?_ fun _ _ => rfl
  · cases houtcome : (c.reducedOutput tools isSystem tree).2 with
    | error e =>
        have halone := CompileCommand.preprocess_of_reducedOutput_eq_error houtcome
        exact ⟨fun report => by rw [halone.1], fun _ => halone.1.symm⟩
    | ok pair => exact houtcome
  · rintro l ⟨⟨result, hended⟩, ⟨text, report, hreduces⟩, -⟩
    dsimp only at hreduces hended
    rw [hreduces] at hended
    cases hended

theorem Sound.step_reduced (h : Sound tools isSystem tree commands pool)
    (hindependent : IndependentTasks tools isSystem tree commands) {k : Nat} {c : CompileCommand}
    {text : Text} {report : Report} (hjob : pool.jobs[k]? = some ⟨c, .reduced text report⟩) :
    Sound tools isSystem tree commands (pool.step tools isSystem k) := by
  have hopen : ¬ Job.Ended ⟨c, .reduced text report⟩ := nofun
  have hreduced : (c.reducedOutput tools isSystem tree).2 = .ok (text, report) :=
    h.jobs _ (List.mem_of_getElem? hjob)
  obtain ⟨haloneResult, haloneTree⟩ := CompileCommand.preprocess_of_reducedOutput_eq_ok hreduced
  have hadvance : Job.advance tools isSystem pool.tree ⟨c, .reduced text report⟩ =
      (⟨c, .ended (c.overwriteSource text report pool.tree).result⟩,
        (c.overwriteSource text report pool.tree).tree,
        (c.overwriteSource text report pool.tree).journal) := rfl
  rw [c.result_overwriteSource] at haloneResult hadvance
  rw [c.tree_overwriteSource] at haloneTree hadvance
  have hsame := h.framed.sameDirectories
  cases hplace : pool.tree.target c.sourcePath with
  | error e =>
      -- alone the task fails as well, if perhaps for another reason
      obtain ⟨e', he'⟩ : ∃ e', tree.target c.sourcePath = .error e' := by
        cases htarget : tree.target c.sourcePath with
        | error e' => exact ⟨e', rfl⟩
        | ok l =>
            rw [hsame.target_eq_ok_iff.2 htarget] at hplace
            cases hplace
      rw [FileTree.write_of_target_eq_error hplace] at hadvance
      rw [FileTree.write_of_target_eq_error he'] at haloneResult
      refine h.of_advance hindependent.files hjob hopen hadvance ⟨?_, ?_⟩ ?_ fun _ _ => rfl
      · intro report'
        rw [haloneResult]
        exact ⟨nofun, nofun⟩
      · intro hways
        have hcause := hways.target_eq hindependent.files (h.getElem?_commands hjob)
          (h.agreeOutside hjob hopen)
        rw [hplace, he', Except.error.injEq] at hcause
        rw [haloneResult, hcause]
      · rintro l ⟨-, hwrites⟩
        rw [FileTree.target_eq_ok_iff.2 hwrites.writable] at he'
        cases he'
  | ok place =>
      have hwritable := FileTree.target_eq_ok_iff.1 hplace
      have hwritable' := hsame.writable_iff.1 hwritable
      have hwrites : ∀ l, c.Writes tools isSystem tree l ↔ l = place :=
        fun l => CompileCommand.writes_iff_of_writable hreduced hwritable'
      rw [hwritable.write_eq, FileTree.stored_congr hsame.limits_eq] at hadvance
      rw [hwritable'.write_eq] at haloneResult haloneTree
      refine h.of_advance hindependent.files hjob hopen hadvance ?_ ?_ ?_
      · exact ⟨fun report' => by rw [haloneResult], fun _ => haloneResult.symm⟩
      · rintro l ⟨-, hl⟩
        obtain rfl := (hwrites l).1 hl
        rw [haloneTree, hwritable.lookup?_set_self, hwritable'.lookup?_set_self]
      · intro l hl
        have hne : l ≠ place := fun heq => hl ⟨⟨_, rfl⟩, (hwrites l).2 heq⟩
        exact (hwritable.agreeOutside_set _).lookup_eq l hne

theorem Sound.step (h : Sound tools isSystem tree commands pool)
    (hindependent : IndependentTasks tools isSystem tree commands) (k : Nat) :
    Sound tools isSystem tree commands (pool.step tools isSystem k) := by
  cases hjob : pool.jobs[k]? with
  | none =>
      rw [step_of_none hjob]
      exact h
  | some job =>
      obtain ⟨c, stage⟩ := job
      cases stage with
      | waiting => exact h.step_waiting hindependent hjob
      | reduced text report => exact h.step_reduced hindependent hjob
      | ended result =>
          rw [step_eq hjob]
          dsimp only [Job.advance]
          rw [set_of_getElem? hjob]
          exact ⟨h.commands_eq, ⟨h.framed.sameDirectories, h.framed.untouched, h.framed.whole⟩,
            h.jobs, h.written, h.untouched⟩

theorem Sound.run (h : Sound tools isSystem tree commands pool)
    (hindependent : IndependentTasks tools isSystem tree commands) (schedule : List Nat) :
    Sound tools isSystem tree commands (pool.run tools isSystem schedule) := by
  induction schedule generalizing pool with
  | nil => exact h
  | cons k schedule ih => exact ih (h.step hindependent k)

/-! ## How a complete pool ends -/

theorem Sound.rows_eq (h : Sound tools isSystem tree commands pool) (hcomplete : pool.Complete)
    (hways : WaysApart tree commands) :
    pool.rows =
      commands.map fun c => ⟨c.file, (c.preprocess tools isSystem tree).result⟩ := by
  have hrow : ∀ job ∈ pool.jobs, job.row? =
      some ⟨job.command.file, (job.command.preprocess tools isSystem tree).result⟩ := by
    intro job hjob
    have hsound := h.jobs job hjob
    obtain ⟨result, hended⟩ := hcomplete job hjob
    unfold Job.Sound at hsound
    rw [hended] at hsound
    rw [Job.row?, hended, ← hsound.2 hways]
  apply List.map_injective_iff.2 (Option.some_injective _)
  rw [hcomplete.map_some_rows, List.map_congr_left hrow, ← h.commands_eq, List.map_map,
    List.map_map]
  rfl

theorem Sound.agreeOutside_empty (h : Sound tools isSystem tree commands pool)
    (hcomplete : pool.Complete) {pool' : Pool} (h' : Sound tools isSystem tree commands pool')
    (hcomplete' : pool'.Complete) : AgreeOutside ∅ pool.tree pool'.tree := by
  have hsame := h.framed.sameDirectories.trans h'.framed.sameDirectories.symm
  refine ⟨hsame.workdir_eq, hsame.limits_eq, ?_⟩
  intro l _
  by_cases hwritten : ∃ c ∈ commands, c.Writes tools isSystem tree l
  · obtain ⟨c, hc, hwrites⟩ := hwritten
    have hholds : ∀ {q : Pool}, Sound tools isSystem tree commands q → q.Complete →
        q.tree.lookup? l = (c.preprocess tools isSystem tree).tree.lookup? l := by
      intro q hq hqcomplete
      have hmem : c ∈ q.jobs.map Job.command := by rw [hq.commands_eq]; exact hc
      obtain ⟨job, hjob, rfl⟩ := List.mem_map.1 hmem
      exact hq.written job hjob l ⟨hqcomplete job hjob, hwrites⟩
    rw [hholds h hcomplete, hholds h' hcomplete']
  · have huntouched : ∀ {q : Pool}, Sound tools isSystem tree commands q →
        q.tree.lookup? l = tree.lookup? l := by
      intro q hq
      apply hq.untouched l
      rintro job hjob ⟨-, hwrites⟩
      refine hwritten ⟨job.command, ?_, hwrites⟩
      rw [← hq.commands_eq]
      exact List.mem_map_of_mem hjob
    rw [huntouched h, huntouched h']

end Pool

end UnitReducer
