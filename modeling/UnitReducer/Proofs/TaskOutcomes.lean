import UnitReducer.PatchFile
import UnitReducer.Preprocess
import UnitReducer.Proofs.Classification
import UnitReducer.Proofs.FileViews
import UnitReducer.Proofs.Walk
/-!
# How the work on one file can end

One lemma for every way in which preprocessing or patching one file can fail, and
from them the failures that do not concern this file alone: a marker with more
digits than are converted, and a null character in a call or in a path.
-/

namespace UnitReducer

/-! ## Reading and writing -/

namespace FileTree

theorem read_of_hasNull {t : FileTree} {p : Path} (h : p.hasNull = true) :
    t.read p = .error .nullCharacter := by
  rw [read, if_pos h]

theorem target_of_hasNull {t : FileTree} {p : Path} (h : p.hasNull = true) :
    t.target p = .error .nullCharacter := by
  rw [target, if_pos h]

theorem read_eq_error {t : FileTree} {p : Path} (h : p.hasNull = false) {e : FileError}
    (herror : t.read p = .error e) : ∃ fault, e = .os fault p := by
  unfold read at herror
  rw [if_neg (by simp [h])] at herror
  split at herror
  · cases herror
    exact ⟨_, rfl⟩
  split at herror
  · cases herror
    exact ⟨_, rfl⟩
  split at herror
  · cases herror
    exact ⟨_, rfl⟩
  split at herror
  · cases herror
  · cases herror
    exact ⟨_, rfl⟩

theorem target_eq_error {t : FileTree} {p : Path} (h : p.hasNull = false) {e : FileError}
    (herror : t.target p = .error e) : ∃ fault, e = .os fault p := by
  unfold target at herror
  rw [if_neg (by simp [h])] at herror
  split at herror
  · cases herror
    exact ⟨_, rfl⟩
  split at herror
  · cases herror
    exact ⟨_, rfl⟩
  split at herror
  · cases herror
    exact ⟨_, rfl⟩
  · cases herror

theorem target_ne_brokenOff (t : FileTree) (p : Path) : t.target p ≠ .error .brokenOff := by
  intro h
  cases hnull : p.hasNull with
  | true =>
      rw [target_of_hasNull hnull] at h
      cases h
  | false =>
      obtain ⟨fault, hfault⟩ := target_eq_error hnull h
      cases hfault

theorem write_eq_error {t : FileTree} {p : Path} (h : p.hasNull = false) {content : Bytes}
    {e : FileError} (herror : (t.write p content).2 = .error e) :
    (∃ fault, e = .os fault p) ∨ e = .brokenOff := by
  have hend := t.writeEnd_write p content
  generalize t.write p content = done at herror hend
  cases hend with
  | refused htarget =>
      cases herror
      exact Or.inl (target_eq_error h htarget)
  | done => cases herror
  | brokenOff =>
      cases herror
      exact Or.inr rfl

/-! ## Patching one file -/

theorem readText_eq_ok_iff {t : FileTree} {p : Path} {text : Text} :
    t.readText p = .ok text ↔
      ∃ content, t.read p = .ok content ∧ Utf8.decode content = .ok text := by
  unfold readText
  simp only [bind_eq_ok_iff, mapError_eq_ok_iff]

theorem patchFile_of_readText_eq_error {t : FileTree} {p : Path} {e : PatchError}
    (h : t.readText p = .error e) (header : Option Text) (isSource : Bool) :
    t.patchFile header isSource p = (t, .error e) := by
  rw [patchFile, h]

theorem patchFile_of_readText_eq_ok {t : FileTree} {p : Path} {old : Text}
    (h : t.readText p = .ok old) (header : Option Text) (isSource : Bool) :
    t.patchFile header isSource p =
      if (Patch.run header (Patch.steps isSource) old).1 = old then
        (t, .ok (Patch.run header (Patch.steps isSource) old).2)
      else
        ((t.write p (Utf8.encode (Patch.run header (Patch.steps isSource) old).1)).1,
          ((t.write p (Utf8.encode (Patch.run header (Patch.steps isSource) old).1)).2.mapError
            .file).map fun _ => (Patch.run header (Patch.steps isSource) old).2) := by
  rw [patchFile, h]

theorem patchFile_of_hasNull {t : FileTree} {p : Path} (h : p.hasNull = true)
    (header : Option Text) (isSource : Bool) :
    t.patchFile header isSource p = (t, .error (.file .nullCharacter)) := by
  apply patchFile_of_readText_eq_error
  rw [readText, read_of_hasNull h]
  rfl

theorem isPerFile_of_patchFile_eq_error {t : FileTree} {p : Path} (h : p.hasNull = false)
    {header : Option Text} {isSource : Bool} {e : PatchError}
    (herror : (t.patchFile header isSource p).2 = .error e) : e.isPerFile = true := by
  cases hread : t.readText p with
  | error cause =>
      rw [patchFile_of_readText_eq_error hread] at herror
      cases herror
      rcases bind_eq_error_iff.1 hread with hread | ⟨content, -, hdecode⟩
      · obtain ⟨cause, hcause, rfl⟩ := mapError_eq_error_iff.1 hread
        obtain ⟨fault, rfl⟩ := read_eq_error h hcause
        rfl
      · obtain ⟨cause, -, rfl⟩ := mapError_eq_error_iff.1 hdecode
        rfl
  | ok old =>
      rw [patchFile_of_readText_eq_ok hread] at herror
      split at herror
      · cases herror
      · rw [map_eq_error_iff, mapError_eq_error_iff] at herror
        obtain ⟨cause, hcause, rfl⟩ := herror
        rcases write_eq_error h hcause with ⟨fault, rfl⟩ | rfl <;> rfl

end FileTree

/-! ## Preprocessing one file -/

namespace CompileCommand

/-- The call of the program that preprocesses a file, if the command has one. -/
def call? (c : CompileCommand) : Option Call :=
  match c.argv with
  | .error _ => none
  | .ok argv => (PreprocessArgv.ofArgv? argv).map fun arguments => ⟨c.directory, arguments⟩

/-- The result of a task whose two turns find these trees. -/
def resultOn (tools : Toolchain) (isSystem : Text → Bool) (first second : FileTree)
    (c : CompileCommand) : Except PreprocessError Report :=
  match (c.reducedOutput tools isSystem first).2 with
  | .error e => .error e
  | .ok (text, report) => (c.overwriteSource text report second).result

section Failures

variable {tools : Toolchain} {isSystem : Text → Bool} {tree : FileTree} {c : CompileCommand}

theorem runPreprocessor_of_no_call (tools : Toolchain) (tree : FileTree)
    (h : c.call? = none) :
    (∃ cause, (c.runPreprocessor tools tree).2 = .error (.command cause)) ∨
      (c.runPreprocessor tools tree).2 = .error (.tool .emptyArgv) := by
  unfold call? at h
  unfold runPreprocessor
  cases hargv : c.argv with
  | error e => exact Or.inl ⟨e, rfl⟩
  | ok argv =>
      rw [hargv] at h
      have hnone := Option.map_eq_none_iff.1 h
      dsimp only
      rw [hnone]
      exact Or.inr rfl

theorem runPreprocessor_of_call {call : Call} (h : c.call? = some call) :
    (c.runPreprocessor tools tree).2 =
      match tools tree call with
      | .error .nullCharacter => .error (.file .nullCharacter)
      | .error (.start cause) => .error (.tool (.start call.argv cause))
      | .ok done => (c.usableOutput call.argv done).mapError .tool := by
  unfold call? at h
  unfold runPreprocessor
  cases hargv : c.argv with
  | error e =>
      rw [hargv] at h
      cases h
  | ok argv =>
      rw [hargv] at h
      obtain ⟨arguments, harguments, rfl⟩ := Option.map_eq_some_iff.1 h
      dsimp only
      rw [harguments]
      dsimp only
      cases tools tree ⟨c.directory, arguments⟩ with
      | error fault => cases fault <;> rfl
      | ok done => rfl

/-- The kinds of failure of a preprocessor run.  Only a call that is refused for a null
character is not the matter of one file. -/
theorem runPreprocessor_eq_error {e : PreprocessError}
    (h : (c.runPreprocessor tools tree).2 = .error e) :
    (∃ cause, e = .command cause) ∨ (∃ cause, e = .tool cause) ∨
      e = .file .nullCharacter ∧ ∃ call, c.call? = some call ∧
        tools tree call = .error .nullCharacter := by
  cases hcall : c.call? with
  | none =>
      rcases runPreprocessor_of_no_call tools tree hcall with
        ⟨cause, hcause⟩ | hempty
      · rw [h] at hcause
        cases hcause
        exact Or.inl ⟨cause, rfl⟩
      · rw [h] at hempty
        cases hempty
        exact Or.inr (Or.inl ⟨_, rfl⟩)
  | some call =>
      rw [runPreprocessor_of_call hcall] at h
      split at h
      next hnull =>
        cases h
        exact Or.inr (Or.inr ⟨rfl, call, rfl, hnull⟩)
      · cases h
        exact Or.inr (Or.inl ⟨_, rfl⟩)
      · obtain ⟨cause, -, rfl⟩ := mapError_eq_error_iff.1 h
        exact Or.inr (Or.inl ⟨cause, rfl⟩)

theorem runPreprocessor_escapes_iff :
    (∃ e, (c.runPreprocessor tools tree).2 = .error e ∧ e.isPerFile = false) ↔
      ∃ call, c.call? = some call ∧ tools tree call = .error .nullCharacter := by
  constructor
  · rintro ⟨e, he, hescapes⟩
    rcases runPreprocessor_eq_error he with ⟨cause, rfl⟩ | ⟨cause, rfl⟩ | ⟨-, hnull⟩
    · cases hescapes
    · cases hescapes
    · exact hnull
  · rintro ⟨call, hcall, hnull⟩
    refine ⟨.file .nullCharacter, ?_, rfl⟩
    rw [runPreprocessor_of_call hcall, hnull]

theorem reducedOutput_eq_error_iff {e : PreprocessError} :
    (c.reducedOutput tools isSystem tree).2 = .error e ↔
      (c.runPreprocessor tools tree).2 = .error e ∨
      ∃ output, (c.runPreprocessor tools tree).2 = .ok output ∧
        ∃ cause, Reduction.reduce isSystem output = .error cause ∧ e = .marker cause := by
  unfold reducedOutput
  obtain ⟨journal, outcome⟩ := c.runPreprocessor tools tree
  cases outcome with
  | error e' => simp
  | ok output => simp [mapError_eq_error_iff]

theorem reducedOutput_ne_brokenOff (tools : Toolchain) (isSystem : Text → Bool)
    (tree : FileTree) (c : CompileCommand) :
    (c.reducedOutput tools isSystem tree).2 ≠ .error (.file .brokenOff) := by
  intro h
  rcases reducedOutput_eq_error_iff.1 h with h | ⟨output, -, cause, -, h⟩
  · rcases runPreprocessor_eq_error h with ⟨cause, h⟩ | ⟨cause, h⟩ | ⟨h, -⟩ <;> cases h
  · cases h

theorem result_preprocess (tools : Toolchain) (isSystem : Text → Bool) (tree : FileTree)
    (c : CompileCommand) :
    (c.preprocess tools isSystem tree).result = c.resultOn tools isSystem tree tree := by
  unfold preprocess resultOn
  obtain ⟨journal, outcome⟩ := c.reducedOutput tools isSystem tree
  cases outcome <;> rfl

theorem result_overwriteSource (c : CompileCommand) (text : Text) (report : Report)
    (tree : FileTree) :
    (c.overwriteSource text report tree).result =
      ((tree.write c.sourcePath (Utf8.encode text)).2.mapError .file).map fun _ => report := by
  unfold overwriteSource
  obtain ⟨left, outcome⟩ := tree.write c.sourcePath (Utf8.encode text)
  cases outcome <;> rfl

theorem tree_overwriteSource (c : CompileCommand) (text : Text) (report : Report)
    (tree : FileTree) :
    (c.overwriteSource text report tree).tree =
      (tree.write c.sourcePath (Utf8.encode text)).1 := by
  unfold overwriteSource
  obtain ⟨left, outcome⟩ := tree.write c.sourcePath (Utf8.encode text)
  cases outcome <;> rfl

theorem overwriteSource_eq_error_iff {text : Text} {report : Report} {e : PreprocessError} :
    (c.overwriteSource text report tree).result = .error e ↔
      ∃ cause, (tree.write c.sourcePath (Utf8.encode text)).2 = .error cause ∧ e = .file cause := by
  rw [result_overwriteSource, map_eq_error_iff, mapError_eq_error_iff]

theorem resultOn_eq_error_iff {later : FileTree} {e : PreprocessError} :
    c.resultOn tools isSystem tree later = .error e ↔
      (c.runPreprocessor tools tree).2 = .error e ∨
      ∃ output, (c.runPreprocessor tools tree).2 = .ok output ∧
        ((∃ cause, Reduction.reduce isSystem output = .error cause ∧ e = .marker cause) ∨
          ∃ text report cause, Reduction.reduce isSystem output = .ok (text, report) ∧
            (later.write c.sourcePath (Utf8.encode text)).2 = .error cause ∧ e = .file cause) := by
  unfold resultOn reducedOutput
  obtain ⟨journal, outcome⟩ := c.runPreprocessor tools tree
  cases outcome with
  | error e' => simp
  | ok output =>
      cases hreduce : Reduction.reduce isSystem output with
      | error cause => simp [hreduce, eq_comm]
      | ok pair =>
          obtain ⟨text, report⟩ := pair
          simp [hreduce, overwriteSource_eq_error_iff]

end Failures

end CompileCommand

/-! ## Failures that escape -/

/-- The first line that cannot be classified is a marker with more digits than are
converted. -/
def OverlongMarker (output : Text) : Prop :=
  ∃ before line after digits path, output.lines = before ++ line :: after ∧
    (∀ l ∈ before, ∃ x, Line.classify none l = .ok x) ∧
    Line.MarkerShape line digits path ∧ Decimal.digitLimit < digits.length

theorem overlongMarker_iff (isSystem : Text → Bool) {output : Text} :
    OverlongMarker output ↔
      ∃ count, Reduction.reduce isSystem output = .error (.tooManyDigits count) := by
  constructor
  · rintro ⟨before, line, after, digits, path, hlines, hbefore, hmarker, hlimit⟩
    refine ⟨digits.length, Reduction.reduce_eq_error_iff.2 ?_⟩
    refine Line.classifyFrom_eq_error_iff.2 ⟨before, line, after, hlines, hbefore, ?_⟩
    exact Line.classify_eq_error_iff.2 ⟨Line.includePath?_of_markerShape hmarker, digits,
      path, Line.markerFields?_eq_some_iff.2 hmarker, Or.inl ⟨hlimit, rfl⟩⟩
  · rintro ⟨count, h⟩
    obtain ⟨before, line, after, hlines, hbefore, herror⟩ :=
      Line.classifyFrom_eq_error_iff.1 (Reduction.reduce_eq_error_iff.1 h)
    obtain ⟨-, digits, path, hmarker, ⟨hlimit, -⟩ | ⟨-, -, h⟩⟩ :=
      Line.classify_eq_error_iff.1 herror
    · exact ⟨before, line, after, digits, path, hlines, hbefore,
        Line.markerFields?_eq_some_iff.1 hmarker, hlimit⟩
    · cases h

/-- The task of a command fails in a way that does not concern its file alone: its call is
refused for a null character, the preprocessor prints an overlong marker, or all goes well
but for a null character in the path of the source file. -/
def CompileCommand.Escapes (tools : Toolchain) (isSystem : Text → Bool) (tree : FileTree)
    (c : CompileCommand) : Prop :=
  (∃ call, c.call? = some call ∧ tools tree call = .error .nullCharacter) ∨
  ∃ output, (c.runPreprocessor tools tree).2 = .ok output ∧
    (OverlongMarker output ∨
      (∃ text report, Reduction.reduce isSystem output = .ok (text, report)) ∧
        c.sourcePath.hasNull = true)

/-- Whether a task escapes is settled by the tree that its first turn finds. -/
theorem CompileCommand.escapes_iff {tools : Toolchain} {isSystem : Text → Bool}
    {tree : FileTree} {c : CompileCommand} (later : FileTree) :
    c.Escapes tools isSystem tree ↔
      ∃ e, c.resultOn tools isSystem tree later = .error e ∧ e.isPerFile = false := by
  constructor
  · rintro (hcall | ⟨output, houtput, hmarker | ⟨⟨text, report, hreduce⟩, hnull⟩⟩)
    · obtain ⟨e, he, hescapes⟩ := runPreprocessor_escapes_iff.2 hcall
      exact ⟨e, resultOn_eq_error_iff.2 (Or.inl he), hescapes⟩
    · obtain ⟨count, hcount⟩ := (overlongMarker_iff isSystem).1 hmarker
      refine ⟨.marker (.tooManyDigits count), resultOn_eq_error_iff.2 ?_, rfl⟩
      exact Or.inr ⟨output, houtput, Or.inl ⟨_, hcount, rfl⟩⟩
    · have hwrite := FileTree.write_of_target_eq_error (t := later)
        (FileTree.target_of_hasNull hnull) (Utf8.encode text)
      refine ⟨.file .nullCharacter, resultOn_eq_error_iff.2 ?_, rfl⟩
      exact Or.inr ⟨output, houtput, Or.inr ⟨text, report, _, hreduce, by rw [hwrite], rfl⟩⟩
  · rintro ⟨e, h, he⟩
    rcases resultOn_eq_error_iff.1 h with h | ⟨output, houtput, h⟩
    · exact Or.inl (runPreprocessor_escapes_iff.1 ⟨e, h, he⟩)
    refine Or.inr ⟨output, houtput, ?_⟩
    rcases h with ⟨cause, hreduce, rfl⟩ | ⟨text, report, cause, hreduce, hwrite, rfl⟩
    · -- of the two marker failures only the count of digits escapes
      cases cause with
      | tooManyDigits count => exact Or.inl ((overlongMarker_iff isSystem).2 ⟨count, hreduce⟩)
      | outOfRange line index => cases he
    · refine Or.inr ⟨⟨text, report, hreduce⟩, ?_⟩
      by_contra hnull
      rcases FileTree.write_eq_error (by simpa using hnull) hwrite with ⟨fault, rfl⟩ | rfl
      · cases he
      · cases he

theorem CompileCommand.not_escapes_iff {tools : Toolchain} {isSystem : Text → Bool}
    {tree : FileTree} {c : CompileCommand} (later : FileTree) :
    ¬ c.Escapes tools isSystem tree ↔
      ∀ e, c.resultOn tools isSystem tree later = .error e → e.isPerFile = true := by
  rw [escapes_iff later]
  push Not
  simp only [Bool.ne_false_iff]

/-- A null character in the directory or in an argument lets the task escape wherever null
characters are refused. -/
theorem CompileCommand.escapes_of_hasNull (tools : Toolchain) (isSystem : Text → Bool)
    (tree : FileTree) {c : CompileCommand} {call : Call} (hcall : c.call? = some call)
    (hnull : call.hasNull = true) : c.Escapes tools.refusingNull isSystem tree :=
  Or.inl ⟨call, hcall, if_pos hnull⟩

end UnitReducer
