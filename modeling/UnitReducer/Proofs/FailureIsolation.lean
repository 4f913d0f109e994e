import UnitReducer.Proofs.TaskPool
import UnitReducer.Text.Utf8.Lemmas
/-!
# Isolation of failures

A run is meant to end with a summary, in which every source file has its row, or
to refuse its database.  `isolatesFailures_iff` says exactly when it does so, and
`overlong_marker_escapes` shows a run that does not.
-/

namespace UnitReducer

/-! ## Loading the database -/

namespace Database

theorem commandsFrom_eq_error {index : Nat} {entries : List Json} {e : DatabaseError}
    (h : commandsFrom index entries = .error e) : e.isRefusal = true := by
  induction entries generalizing index with
  | nil => cases h
  | cons entry entries ih =>
      rw [commandsFrom] at h
      rcases bind_eq_error_iff.1 h with h | ⟨command, -, h⟩
      · obtain ⟨fault, -, rfl⟩ := mapError_eq_error_iff.1 h
        rfl
      · rcases bind_eq_error_iff.1 h with h | ⟨commands, -, h⟩
        · exact ih h
        · cases h

theorem ofJson_eq_error {path : Path} {json : Json} {e : DatabaseError}
    (h : ofJson path json = .error e) : e.isRefusal = true := by
  unfold ofJson at h
  split at h
  · cases h
    rfl
  · exact commandsFrom_eq_error h
  · cases h
    rfl

theorem isRefusal_of_load_eq_error {tree : FileTree} {path : Path}
    {parse : Bytes → Option Json} {e : DatabaseError} (h : load tree path parse = .error e) :
    e.isRefusal = true ↔
      ∀ cause, tree.read path = .error cause → ∃ p, cause = .os .noEntry p := by
  unfold load at h
  split at h
  next p hread =>
    cases h
    rw [hread]
    exact ⟨fun _ cause hcause => ⟨p, by cases hcause; rfl⟩, fun _ => rfl⟩
  next cause hcause hread =>
    cases h
    constructor
    · intro h
      cases h
    · intro h
      obtain ⟨p, rfl⟩ := h cause hread
      exact absurd rfl (hcause p)
  next content hread =>
    have hrefusal : e.isRefusal = true := by
      split at h
      · cases h
        rfl
      · exact ofJson_eq_error h
    refine ⟨fun _ cause hcause => ?_, fun _ => hrefusal⟩
    rw [hread] at hcause
    cases hcause

theorem read_of_load_eq_ok {tree : FileTree} {path : Path} {parse : Bytes → Option Json}
    {loaded : List CompileCommand} (h : load tree path parse = .ok loaded) :
    ∃ content, tree.read path = .ok content := by
  unfold load at h
  split at h
  · cases h
  · cases h
  next content hread => exact ⟨content, hread⟩

theorem kind_eq_iff {e : DatabaseError} :
    e.kind = "CompileCommandsError" ↔ e.isRefusal = true := by
  cases e with
  | unreadable cause =>
      cases cause with
      | os fault path =>
          cases fault <;> simp [DatabaseError.kind, FileError.kind, DatabaseError.isRefusal]
      | nullCharacter => simp [DatabaseError.kind, FileError.kind, DatabaseError.isRefusal]
      | brokenOff => simp [DatabaseError.kind, FileError.kind, DatabaseError.isRefusal]
  | notFound path => exact ⟨fun _ => rfl, fun _ => rfl⟩
  | unparsable path => exact ⟨fun _ => rfl, fun _ => rfl⟩
  | notArray path => exact ⟨fun _ => rfl, fun _ => rfl⟩
  | noCommands path => exact ⟨fun _ => rfl, fun _ => rfl⟩
  | badEntry index fault => exact ⟨fun _ => rfl, fun _ => rfl⟩

end Database

namespace Pipeline

/-! ## Preprocessing all files -/

theorem escaping?_eq_none_iff {ε α : Type} {isPerFile : ε → Bool} {outcome : Except ε α} :
    escaping? isPerFile outcome = none ↔ ∀ e, outcome = .error e → isPerFile e = true := by
  cases outcome with
  | ok a => simp [escaping?]
  | error e => simp [escaping?]

theorem fatal?_eq_none_iff {rows : List PreprocessRow} :
    fatal? rows = none ↔
      ∀ row ∈ rows, ∀ e, row.outcome = .error e → e.isPerFile = true := by
  unfold fatal?
  simp only [List.findSome?_eq_none_iff, escaping?_eq_none_iff]

theorem fatal?_rows_eq_none_iff (tools : Toolchain) (isSystem : Text → Bool) (tree : FileTree)
    {commands : List CompileCommand} {schedule : List Nat}
    (hschedule : Pool.IsInterleaving commands.length schedule) :
    fatal? ((Pool.start tree commands).run tools isSystem schedule).rows = none ↔
      ∀ (k : Nat) (c : CompileCommand), commands[k]? = some c →
        ¬ c.Escapes tools isSystem (Pool.treeFor tools isSystem tree commands schedule k) := by
  rw [fatal?_eq_none_iff]
  constructor
  · intro h k c hc
    obtain ⟨later, hrow⟩ := Pool.exists_getElem?_rows tools isSystem tree hschedule hc
    exact (CompileCommand.not_escapes_iff later).2 (h _ (List.mem_of_getElem? hrow))
  · intro h row hrow e he
    obtain ⟨k, hk⟩ := List.getElem?_of_mem hrow
    obtain ⟨c, hc⟩ := Pool.exists_getElem?_of_row tools isSystem tree hschedule hk
    obtain ⟨later, hrow'⟩ := Pool.exists_getElem?_rows tools isSystem tree hschedule hc
    rw [hk, Option.some.injEq] at hrow'
    subst hrow'
    exact (CompileCommand.not_escapes_iff later).1 (h k c hc) e he

theorem preprocessAll_eq_ok_iff {tools : Toolchain} {isSystem : Text → Bool}
    {tree : FileTree} {commands : List CompileCommand} {schedule : List Nat}
    {rows : List PreprocessRow} :
    (preprocessAll tools isSystem tree commands schedule).result = .ok rows ↔
      fatal? rows = none ∧
        rows = ((Pool.start tree (sources commands)).run tools isSystem schedule).rows := by
  unfold preprocessAll
  generalize ((Pool.start tree (sources commands)).run tools isSystem schedule) = pool
  dsimp only
  cases hfatal : fatal? pool.rows with
  | none =>
      constructor
      · intro h
        cases h
        exact ⟨hfatal, rfl⟩
      · rintro ⟨-, rfl⟩
        rfl
  | some e =>
      constructor
      · intro h
        cases h
      · rintro ⟨hnone, rfl⟩
        rw [hfatal] at hnone
        cases hnone

theorem tree_preprocessAll (tools : Toolchain) (isSystem : Text → Bool) (tree : FileTree)
    (commands : List CompileCommand) (schedule : List Nat) :
    (preprocessAll tools isSystem tree commands schedule).tree =
      ((Pool.start tree (sources commands)).run tools isSystem schedule).tree := by
  unfold preprocessAll
  dsimp only
  split <;> rfl

/-- The commands whose files a run preprocesses. -/
def targets (options : Options) (commands : List CompileCommand) : List CompileCommand :=
  if options.preprocess then sources commands else []

def turns (scheduler : Scheduler) (options : Options) (commands : List CompileCommand) :
    List Nat :=
  scheduler.turns options.workers (targets options commands).length

/-- The tasks of a run after the preprocessing stage. -/
def stagePool (tools : Toolchain) (options : Options) (tree : FileTree)
    (commands : List CompileCommand) (scheduler : Scheduler) : Pool :=
  (Pool.start tree (targets options commands)).run tools (Header.underRoots options.systemRoots)
    (turns scheduler options commands)

/-- The tree that the task at position `k` of a run finds at its first turn. -/
def treeForTask (tools : Toolchain) (options : Options) (tree : FileTree)
    (commands : List CompileCommand) (scheduler : Scheduler) (k : Nat) : FileTree :=
  Pool.treeFor tools (Header.underRoots options.systemRoots) tree (targets options commands)
    (turns scheduler options commands) k

section Stage

variable {tools : Toolchain} {options : Options} {tree : FileTree}
  {commands : List CompileCommand} {scheduler : Scheduler}

theorem stagePool_of_off (hoff : options.preprocess ≠ true) :
    stagePool tools options tree commands scheduler = Pool.start tree [] := by
  unfold stagePool targets
  rw [if_neg hoff]
  exact Pool.run_start_nil tools _ tree _

theorem preprocessStage_eq_ok_iff {rows : List PreprocessRow} :
    (preprocessStage tools options tree commands scheduler).result = .ok rows ↔
      fatal? rows = none ∧ rows = (stagePool tools options tree commands scheduler).rows := by
  by_cases hpreprocess : options.preprocess = true
  · unfold preprocessStage stagePool turns targets
    rw [if_pos hpreprocess, if_pos hpreprocess, preprocessAll_eq_ok_iff]
  · rw [stagePool_of_off hpreprocess, preprocessStage, if_neg hpreprocess]
    constructor
    · intro h
      cases h
      exact ⟨rfl, rfl⟩
    · rintro ⟨-, rfl⟩
      rfl

theorem fatal?_stagePool_eq_none_iff :
    fatal? (stagePool tools options tree commands scheduler).rows = none ↔
      ∀ (k : Nat) (c : CompileCommand), (targets options commands)[k]? = some c →
        ¬ c.Escapes tools (Header.underRoots options.systemRoots)
          (treeForTask tools options tree commands scheduler k) :=
  fatal?_rows_eq_none_iff tools _ tree (scheduler.complete options.workers _)

theorem tree_preprocessStage (tools : Toolchain) (options : Options) (tree : FileTree)
    (commands : List CompileCommand) (scheduler : Scheduler) :
    (preprocessStage tools options tree commands scheduler).tree =
      (stagePool tools options tree commands scheduler).tree := by
  by_cases hpreprocess : options.preprocess = true
  · unfold preprocessStage stagePool turns targets
    rw [if_pos hpreprocess, if_pos hpreprocess, tree_preprocessAll]
  · rw [stagePool_of_off hpreprocess, preprocessStage, if_neg hpreprocess]
    rfl

theorem sameDirectories_preprocessStage (tools : Toolchain) (options : Options) (tree : FileTree)
    (commands : List CompileCommand) (scheduler : Scheduler) :
    FileTree.SameDirectories (preprocessStage tools options tree commands scheduler).tree tree := by
  rw [tree_preprocessStage]
  exact ((Pool.framed_start tree _).run _).sameDirectories

end Stage

/-! ## Patching all files -/

theorem escaping?_patchFile_eq_none_iff {tree : FileTree} {header : Option Text}
    {isSource : Bool} {path : Path} :
    escaping? PatchError.isPerFile (tree.patchFile header isSource path).2 = none ↔
      path.hasNull = false := by
  rw [escaping?_eq_none_iff]
  constructor
  · intro h
    by_contra hnull
    rw [Bool.not_eq_false] at hnull
    rw [FileTree.patchFile_of_hasNull hnull] at h
    cases h _ rfl
  · intro hnull e he
    exact FileTree.isPerFile_of_patchFile_eq_error hnull he

theorem patchEach_cons_of_noNull {path : Path} (h : path.hasNull = false)
    (header : Option Text) (tree : FileTree) (paths : List Path) :
    let first := tree.patchFile header path.isSource path
    let others := patchEach header first.1 paths
    patchEach header tree (path :: paths) =
      ⟨others.tree, patchNote path first.2 ++ others.journal,
        others.result.map (⟨path, first.2⟩ :: ·)⟩ := by
  intro first others
  rw [patchEach]
  dsimp only
  rw [escaping?_patchFile_eq_none_iff.2 h]

/-- Only a null character in a path keeps the rows of the patched files back. -/
theorem patchEach_ok_iff (header : Option Text) (tree : FileTree) (paths : List Path) :
    (∃ rows, (patchEach header tree paths).result = .ok rows) ↔
      ∀ path ∈ paths, path.hasNull = false := by
  induction paths generalizing tree with
  | nil => exact ⟨fun _ _ h => by simp at h, fun _ => ⟨[], rfl⟩⟩
  | cons path paths ih =>
      rw [List.forall_mem_cons]
      cases hnull : path.hasNull with
      | false =>
          rw [patchEach_cons_of_noNull hnull, exists_map_eq_ok_iff, ih]
          exact (and_iff_right rfl).symm
      | true =>
          rw [patchEach, FileTree.patchFile_of_hasNull hnull]
          simp [escaping?, PatchError.isPerFile]

theorem patchStage_eq_ok_iff {options : Options} {tree : FileTree}
    {commands : List CompileCommand} {rows : List PatchRow} :
    (patchStage options tree commands).result = .ok rows ↔
      (patchEach options.header tree (filesToPatch commands options.files)).result = .ok rows := by
  unfold patchStage
  dsimp only
  cases (patchEach options.header tree (filesToPatch commands options.files)).result with
  | error e => simp
  | ok rows' => simp

theorem patchStage_ok_iff {options : Options} {tree : FileTree}
    {commands : List CompileCommand} :
    (∃ rows, (patchStage options tree commands).result = .ok rows) ↔
      ∀ path ∈ filesToPatch commands options.files, path.hasNull = false := by
  simp only [patchStage_eq_ok_iff]
  exact patchEach_ok_iff options.header tree (filesToPatch commands options.files)

/-! ## The whole run -/

section Run

variable {tools : Toolchain} {options : Options} {tree : FileTree} {parse : Bytes → Option Json}
  {scheduler : Scheduler} {commands : List CompileCommand}

theorem runCommands_eq_ok_iff {summary : Summary} :
    (runCommands tools options tree commands scheduler).result = .ok summary ↔
      ∃ rows, (preprocessStage tools options tree commands scheduler).result = .ok rows ∧
        ((rows.any Row.failed = true ∧
            summary = ⟨options.database, commands.length, rows, none⟩) ∨
          rows.any Row.failed = false ∧
            ∃ patched, (patchStage options
                (preprocessStage tools options tree commands scheduler).tree commands).result =
                  .ok patched ∧
              summary = ⟨options.database, commands.length, rows, some patched⟩) := by
  unfold runCommands
  dsimp only
  cases (preprocessStage tools options tree commands scheduler).result with
  | error e => simp
  | ok rows =>
      dsimp only
      by_cases hfailed : rows.any Row.failed = true
      · rw [if_pos hfailed]
        constructor
        · intro h
          cases h
          exact ⟨rows, rfl, Or.inl ⟨hfailed, rfl⟩⟩
        · rintro ⟨rows', h, ⟨-, rfl⟩ | ⟨hpassed, -⟩⟩ <;> cases h
          · rfl
          · rw [hfailed] at hpassed
            cases hpassed
      · rw [if_neg hfailed]
        rw [Bool.not_eq_true] at hfailed
        constructor
        · intro h
          obtain ⟨patched, hpatched, rfl⟩ := map_eq_ok_iff.1 h
          exact ⟨rows, rfl, Or.inr ⟨hfailed, patched, mapError_eq_ok_iff.1 hpatched, rfl⟩⟩
        · rintro ⟨rows', h, ⟨hfailed', -⟩ | ⟨-, patched, hpatched, rfl⟩⟩ <;> cases h
          · rw [hfailed] at hfailed'
            cases hfailed'
          · exact map_eq_ok_iff.2 ⟨patched, mapError_eq_ok_iff.2 hpatched, rfl⟩

theorem exists_runCommands_eq_ok_iff :
    (∃ summary, (runCommands tools options tree commands scheduler).result = .ok summary) ↔
      (∀ (k : Nat) (c : CompileCommand), (targets options commands)[k]? = some c →
        ¬ c.Escapes tools (Header.underRoots options.systemRoots)
          (treeForTask tools options tree commands scheduler k)) ∧
      ∀ rows, (preprocessStage tools options tree commands scheduler).result = .ok rows →
        rows.any Row.failed = false →
        ∀ path ∈ filesToPatch commands options.files, path.hasNull = false := by
  rw [← fatal?_stagePool_eq_none_iff]
  simp only [runCommands_eq_ok_iff]
  constructor
  · rintro ⟨summary, rows, hrows, h⟩
    obtain ⟨hfatal, hrows'⟩ := preprocessStage_eq_ok_iff.1 hrows
    rw [hrows'] at hfatal
    refine ⟨hfatal, ?_⟩
    intro rows₂ hrows₂ hpassed
    rw [hrows, Except.ok.injEq] at hrows₂
    subst hrows₂
    rcases h with ⟨hfailed, -⟩ | ⟨-, patched, hpatched, -⟩
    · rw [hfailed] at hpassed
      cases hpassed
    · exact patchStage_ok_iff.1 ⟨patched, hpatched⟩
  · rintro ⟨hfatal, hpaths⟩
    have hrows := preprocessStage_eq_ok_iff.2 ⟨hfatal, rfl⟩
    cases hfailed : (stagePool tools options tree commands scheduler).rows.any Row.failed with
    | true => exact ⟨_, _, hrows, Or.inl ⟨hfailed, rfl⟩⟩
    | false =>
        obtain ⟨patched, hpatched⟩ := patchStage_ok_iff.2 (hpaths _ hrows hfailed)
        exact ⟨_, _, hrows, Or.inr ⟨hfailed, patched, hpatched, rfl⟩⟩

theorem map_file_preprocessed {summary : Summary}
    (h : (runCommands tools options tree commands scheduler).result = .ok summary) :
    summary.preprocessed.map Row.file =
      (targets options commands).map CompileCommand.file := by
  obtain ⟨rows, hrows, h⟩ := runCommands_eq_ok_iff.1 h
  have hpreprocessed : summary.preprocessed = rows := by
    rcases h with ⟨-, rfl⟩ | ⟨-, patched, -, rfl⟩ <;> rfl
  rw [hpreprocessed, (preprocessStage_eq_ok_iff.1 hrows).2]
  exact Pool.map_file_rows_run tools _ tree (scheduler.complete options.workers _)

theorem run_of_load_eq_error (tools : Toolchain) (scheduler : Scheduler) {e : DatabaseError}
    (h : Database.load tree options.database parse = .error e) :
    (run tools options tree parse scheduler).result = .error (.database e) := by
  unfold run
  rw [h]

theorem run_of_load_eq_ok (tools : Toolchain) (scheduler : Scheduler)
    {loaded : List CompileCommand}
    (h : Database.load tree options.database parse = .ok loaded) :
    (run tools options tree parse scheduler).result =
      (runCommands tools options tree (Database.dedupe loaded).1 scheduler).result := by
  unfold run
  rw [h]

end Run

/-- What a run promises: a database that cannot be used is refused as such, and
once one is loaded, there is a summary with one row for every source file. -/
structure IsolatesFailures (tools : Toolchain) (options : Options) (tree : FileTree)
    (parse : Bytes → Option Json) (scheduler : Scheduler) : Prop where
  refused : ∀ e, Database.load tree options.database parse = .error e →
    (run tools options tree parse scheduler).result = .error (.database e) ∧
      e.kind = "CompileCommandsError"
  recorded : ∀ loaded, Database.load tree options.database parse = .ok loaded →
    ∃ summary, (run tools options tree parse scheduler).result = .ok summary ∧
      summary.preprocessed.map Row.file =
        (targets options (Database.dedupe loaded).1).map CompileCommand.file

/-- Nothing escapes from a run.  The database is missing or can be read; no task makes a
call that is refused for a null character, finds an overlong marker, or reaches the write
of a source path with a null character; and no file that gets to be patched has a null
character in its path.  What a task finds at its first turn depends on the schedule.  That
a text cannot be encoded does not come up, since it holds no lone surrogate. -/
structure NothingEscapes (tools : Toolchain) (options : Options) (tree : FileTree)
    (parse : Bytes → Option Json) (scheduler : Scheduler) : Prop where
  database : ∀ cause, tree.read options.database = .error cause →
    ∃ path, cause = .os .noEntry path
  preprocess : ∀ loaded, Database.load tree options.database parse = .ok loaded →
    ∀ (k : Nat) (c : CompileCommand),
      (targets options (Database.dedupe loaded).1)[k]? = some c →
        ¬ c.Escapes tools (Header.underRoots options.systemRoots)
          (treeForTask tools options tree (Database.dedupe loaded).1 scheduler k)
  patch : ∀ loaded rows, Database.load tree options.database parse = .ok loaded →
    (preprocessStage tools options tree (Database.dedupe loaded).1 scheduler).result = .ok rows →
    rows.any Row.failed = false →
    ∀ path ∈ filesToPatch (Database.dedupe loaded).1 options.files, path.hasNull = false

/-- A run isolates failures exactly when nothing escapes from it. -/
theorem isolatesFailures_iff (tools : Toolchain) (options : Options) (tree : FileTree)
    (parse : Bytes → Option Json) (scheduler : Scheduler) :
    IsolatesFailures tools options tree parse scheduler ↔
      NothingEscapes tools options tree parse scheduler := by
  cases hload : Database.load tree options.database parse with
  | error e =>
      have hrefusal := Database.isRefusal_of_load_eq_error hload
      constructor
      · intro h
        have hkind := (h.refused e hload).2
        exact
          { database := hrefusal.1 (Database.kind_eq_iff.1 hkind)
            preprocess := by simp [hload]
            patch := by simp [hload] }
      · intro h
        refine ⟨?_, by simp [hload]⟩
        intro e' he'
        rw [hload, Except.error.injEq] at he'
        subst he'
        exact ⟨run_of_load_eq_error tools scheduler hload,
          Database.kind_eq_iff.2 (hrefusal.2 h.database)⟩
  | ok loaded =>
      have hrun := run_of_load_eq_ok tools scheduler hload
      constructor
      · intro h
        obtain ⟨summary, hsummary, -⟩ := h.recorded loaded hload
        obtain ⟨htasks, hpaths⟩ :=
          exists_runCommands_eq_ok_iff.1 ⟨summary, hrun.symm.trans hsummary⟩
        obtain ⟨content, hread⟩ := Database.read_of_load_eq_ok hload
        refine ⟨by simp [hread], ?_, ?_⟩
        · intro loaded' hloaded'
          rw [hload, Except.ok.injEq] at hloaded'
          subst hloaded'
          exact htasks
        · intro loaded' rows hloaded'
          rw [hload, Except.ok.injEq] at hloaded'
          subst hloaded'
          exact hpaths rows
      · intro h
        refine ⟨by simp [hload], ?_⟩
        intro loaded' hloaded'
        obtain ⟨summary, hsummary⟩ := exists_runCommands_eq_ok_iff.2
          ⟨h.preprocess loaded' hloaded', fun rows => h.patch loaded' rows hloaded'⟩
        refine ⟨summary, ?_, map_file_preprocessed hsummary⟩
        rw [run_of_load_eq_ok tools scheduler hloaded', hsummary]

/-! ## A failure that is not isolated -/

def prints (output : Text) : Toolchain :=
  fun _ _ => .ok ⟨Utf8.encode output, [], 0⟩

theorem runPreprocessor_prints {output : Text} (houtput : output ≠ []) {c : CompileCommand}
    {call : Call} (hcall : c.call? = some call) (tree : FileTree) :
    (c.runPreprocessor (prints output) tree).2 = .ok output := by
  rw [CompileCommand.runPreprocessor_of_call hcall]
  unfold prints CompileCommand.usableOutput
  dsimp only
  rw [if_neg (by simp), Utf8.decode_encode]
  cases output with
  | nil => exact absurd rfl houtput
  | cons c output => rfl

def markerLine (count : Nat) : Text :=
  '#' :: ([' '] ++ (List.replicate count '1' ++ ([' '] ++ '"' :: ("a.c".toList ++ ['"']))))

theorem markerShape_markerLine {count : Nat} (h : 0 < count) :
    Line.MarkerShape (markerLine count) (List.replicate count '1') "a.c".toList := by
  have hspace : [' '] ≠ [] ∧ ∀ c ∈ [' '], CharClass.asciiSpace c = true := by
    refine ⟨List.cons_ne_nil ' ' [], ?_⟩
    intro c hc
    rw [List.mem_singleton.1 hc]
    rfl
  have hdigits : List.replicate count '1' ≠ [] ∧
      ∀ c ∈ List.replicate count '1', c.isDigit = true := by
    constructor
    · rw [ne_eq, List.replicate_eq_nil_iff]
      omega
    · intro c hc
      rw [List.eq_of_mem_replicate hc]
      rfl
  exact .intro hspace hdigits hspace (by decide) (by decide)

theorem lines_markerLine (count : Nat) :
    (Text.unlines [markerLine count]).lines = [markerLine count] := by
  have hlast : ∃ front, markerLine count = front ++ ['"'] :=
    ⟨'#' :: ([' '] ++ (List.replicate count '1' ++ ([' '] ++ '"' :: "a.c".toList))),
      by simp [markerLine]⟩
  have hreturn : (markerLine count).getLast? ≠ some '\r' := by
    obtain ⟨front, hfront⟩ := hlast
    rw [hfront, List.getLast?_concat]
    decide
  rw [Text.lines_unlines (by simp [markerLine]), List.map_singleton,
    Text.dropCarriageReturn_of_ne hreturn]

theorem overlongMarker_markerLine {count : Nat} (h : Decimal.digitLimit < count) :
    OverlongMarker (Text.unlines [markerLine count]) := by
  refine ⟨[], markerLine count, [], List.replicate count '1', "a.c".toList,
    lines_markerLine count, by simp, ?_, by simpa using h⟩
  exact markerShape_markerLine (by omega)

def soleDatabase : Text :=
  "[\x7b\"directory\":\".\",\"file\":\"a.c\",\"arguments\":[\"cc\"]\x7d]".toList

def soleCommand : CompileCommand :=
  ⟨Path.ofText ".".toList, Path.ofText "a.c".toList, some ["cc".toList], none⟩

def soleTree : FileTree :=
  ⟨[], [(["db.json".toList], .file (Utf8.encode soleDatabase)), (["a.c".toList], .file [])],
    .none⟩

def soleOptions : Options :=
  ⟨Path.ofText "db.json".toList, [], true, none, Header.defaultRoots, 1, by decide⟩

theorem load_soleTree :
    Database.load soleTree soleOptions.database = .ok [soleCommand] := by
  decide +kernel

theorem targets_sole :
    targets soleOptions (Database.dedupe [soleCommand]).1 = [soleCommand] := by
  decide +kernel

/-- Whatever goes wrong with the only source file should have its row, yet a marker
with 4301 digits ends the run without a summary. -/
theorem overlong_marker_escapes :
    ¬ IsolatesFailures (prints (Text.unlines [markerLine 4301])) soleOptions soleTree
      Json.parse? .inOrder := by
  intro h
  obtain ⟨summary, hsummary, -⟩ := h.recorded [soleCommand] load_soleTree
  rw [run_of_load_eq_ok _ _ load_soleTree] at hsummary
  have htasks := (exists_runCommands_eq_ok_iff.1 ⟨summary, hsummary⟩).1
  rw [targets_sole] at htasks
  have hoverlong : OverlongMarker (Text.unlines [markerLine 4301]) :=
    overlongMarker_markerLine (by decide)
  refine htasks 0 soleCommand rfl (Or.inr ⟨_, ?_, Or.inl hoverlong⟩)
  exact runPreprocessor_prints (by simp) rfl _

end Pipeline

end UnitReducer
