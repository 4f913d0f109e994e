import UnitReducer.Proofs.FileViews
import UnitReducer.Proofs.TaskOutcomes
import UnitReducer.Text.Utf8.Lemmas
/-!
# Preprocessing one file: all or nothing

`CompileCommand.Prints` and `WellFormedMarkers` say what it takes to reduce the
output of a preprocessor.  When a file is preprocessed, either something fails and
no file changes, or the reduced output is in its source file and nowhere else
(`preprocess_all_or_nothing`).  The one exception is a write that breaks off: the source
file then holds the front of the reduced output.
-/

namespace UnitReducer

/-! ## Output that can be reduced -/

/-- The number of every line marker is converted and fits 64 bits. -/
def WellFormedMarkers (output : Text) : Prop :=
  ∀ line ∈ output.lines, ∀ digits path, Line.MarkerShape line digits path →
    digits.length ≤ Decimal.digitLimit ∧ Decimal.natOfDigits digits ≤ Line.maxNumber

theorem Line.exists_classify_eq_ok_iff {text : Text} :
    (∃ line, classify none text = .ok line) ↔
      ∀ digits path, MarkerShape text digits path →
        digits.length ≤ Decimal.digitLimit ∧ Decimal.natOfDigits digits ≤ maxNumber := by
  constructor
  · rintro ⟨line, hline⟩ digits path hmarker
    have hfields := markerFields?_eq_some_iff.2 hmarker
    rcases classify_eq_ok_iff.1 hline with
      ⟨path', hpath', -⟩ | ⟨-, digits', path', hfields', hlimit, hrange, -⟩ | ⟨-, hnone, -⟩
    · rw [includePath?_of_markerShape hmarker] at hpath'
      cases hpath'
    · rw [hfields, Option.some.injEq, Prod.mk.injEq] at hfields'
      rw [hfields'.1]
      exact ⟨hlimit, hrange⟩
    · rw [hfields] at hnone
      cases hnone
  · intro h
    cases hclassify : classify none text with
    | ok line => exact ⟨line, rfl⟩
    | error e =>
        obtain ⟨-, digits, path, hfields, hbad⟩ := classify_eq_error_iff.1 hclassify
        obtain ⟨hlimit, hrange⟩ := h digits path (markerFields?_eq_some_iff.1 hfields)
        omega

theorem Line.exists_classifyAll_eq_ok_iff {texts : List Text} :
    (∃ lines, classifyAll texts = .ok lines) ↔
      ∀ text ∈ texts, ∃ line, classify none text = .ok line := by
  simp only [classifyAll_eq_ok_iff]
  induction texts with
  | nil => simp
  | cons text texts ih =>
      rw [List.forall_mem_cons, ← ih]
      constructor
      · rintro ⟨lines, hlines⟩
        obtain ⟨line, others, hline, hothers, -⟩ := List.forall₂_cons_left_iff.1 hlines
        exact ⟨⟨line, hline⟩, others, hothers⟩
      · rintro ⟨⟨line, hline⟩, others, hothers⟩
        exact ⟨line :: others, .cons hline hothers⟩

theorem Reduction.exists_reduce_eq_ok_iff (isSystem : Text → Bool) {output : Text} :
    (∃ text report, reduce isSystem output = .ok (text, report)) ↔
      WellFormedMarkers output := by
  have hclassified : (∃ lines, Line.classifyAll output.lines = .ok lines) ↔
      WellFormedMarkers output := by
    rw [Line.exists_classifyAll_eq_ok_iff]
    exact forall₂_congr fun line _ => Line.exists_classify_eq_ok_iff
  rw [← hclassified]
  simp only [reduce_eq_ok_iff]
  constructor
  · rintro ⟨text, report, lines, hlines, -⟩
    exact ⟨lines, hlines⟩
  · rintro ⟨lines, hlines⟩
    exact ⟨_, _, lines, hlines, rfl, rfl⟩

namespace CompileCommand

/-- The command line of a file can be had and is not empty, the program that
preprocesses the file starts, ends well, and prints `output` in valid UTF-8. -/
inductive Prints (tools : Toolchain) (tree : FileTree) (c : CompileCommand) (output : Text) : Prop
  | intro {argv arguments : List Text} {done : Completion}
      (hargv : c.argv = .ok argv) (hnonempty : argv ≠ [])
      (harguments : PreprocessArgv.ofArgv? argv = some arguments)
      (hstarts : tools tree ⟨c.directory, arguments⟩ = .ok done)
      (hstatus : done.status = 0) (hstdout : done.stdout ≠ [])
      (hdecode : Utf8.decode done.stdout = .ok output)

theorem usableOutput_eq_ok_iff {c : CompileCommand} {argv : List Text} {done : Completion}
    {output : Text} :
    c.usableOutput argv done = .ok output ↔
      done.status = 0 ∧ done.stdout ≠ [] ∧ Utf8.decode done.stdout = .ok output := by
  unfold usableOutput
  constructor
  · intro h
    split at h
    · cases h
    next hstatus =>
    split at h
    · cases h
    · cases h
    next decoded hne hdecode =>
    cases h
    refine ⟨by simpa using hstatus, ?_, hdecode⟩
    intro hstdout
    rw [hstdout] at hdecode
    cases hdecode
    exact hne rfl
  · rintro ⟨hstatus, hstdout, hdecode⟩
    rw [if_neg (by simpa using hstatus), hdecode]
    cases output with
    | nil =>
        -- no text is printed as no bytes only
        rw [← Utf8.encode_of_decode hdecode] at hstdout
        exact absurd rfl hstdout
    | cons c output => rfl

theorem call?_eq_some_iff {c : CompileCommand} {call : Call} :
    c.call? = some call ↔ ∃ argv arguments, c.argv = .ok argv ∧
      PreprocessArgv.ofArgv? argv = some arguments ∧ call = ⟨c.directory, arguments⟩ := by
  unfold call?
  cases c.argv with
  | error e => simp
  | ok argv => simp [eq_comm]

theorem runPreprocessor_eq_ok_iff {tools : Toolchain} {tree : FileTree} {c : CompileCommand}
    {output : Text} :
    (c.runPreprocessor tools tree).2 = .ok output ↔ c.Prints tools tree output := by
  constructor
  · intro h
    cases hcall : c.call? with
    | none =>
        rcases runPreprocessor_of_no_call tools tree hcall with
          ⟨cause, hcause⟩ | hempty
        · rw [h] at hcause
          cases hcause
        · rw [h] at hempty
          cases hempty
    | some call =>
        obtain ⟨argv, arguments, hargv, harguments, rfl⟩ := call?_eq_some_iff.1 hcall
        rw [runPreprocessor_of_call hcall] at h
        split at h
        · cases h
        · cases h
        next done hdone =>
        obtain ⟨hstatus, hstdout, hdecode⟩ :=
          usableOutput_eq_ok_iff.1 (mapError_eq_ok_iff.1 h)
        have hnonempty : argv ≠ [] := by
          rintro rfl
          cases harguments
        exact .intro hargv hnonempty harguments hdone hstatus hstdout hdecode
  · rintro ⟨hargv, -, harguments, hdone, hstatus, hstdout, hdecode⟩
    have hcall := call?_eq_some_iff.2 ⟨_, _, hargv, harguments, rfl⟩
    rw [runPreprocessor_of_call hcall, hdone]
    exact mapError_eq_ok_iff.2 (usableOutput_eq_ok_iff.2 ⟨hstatus, hstdout, hdecode⟩)

/-! ## The two steps of a task -/

section Steps

variable {tools : Toolchain} {isSystem : Text → Bool} {tree : FileTree} {c : CompileCommand}

theorem reducedOutput_eq_ok_iff {text : Text} {report : Report} :
    (c.reducedOutput tools isSystem tree).2 = .ok (text, report) ↔
      ∃ output, c.Prints tools tree output ∧
        Reduction.reduce isSystem output = .ok (text, report) := by
  simp only [← runPreprocessor_eq_ok_iff]
  unfold reducedOutput
  obtain ⟨journal, outcome⟩ := c.runPreprocessor tools tree
  cases outcome with
  | error e => simp
  | ok output => simp [mapError_eq_ok_iff]

theorem preprocess_of_reducedOutput_eq_error {e : PreprocessError}
    (h : (c.reducedOutput tools isSystem tree).2 = .error e) :
    (c.preprocess tools isSystem tree).result = .error e ∧
      (c.preprocess tools isSystem tree).tree = tree := by
  unfold preprocess
  generalize c.reducedOutput tools isSystem tree = reduced at h ⊢
  obtain ⟨journal, outcome⟩ := reduced
  cases h
  exact ⟨rfl, rfl⟩

theorem preprocess_of_reducedOutput_eq_ok {text : Text} {report : Report}
    (h : (c.reducedOutput tools isSystem tree).2 = .ok (text, report)) :
    (c.preprocess tools isSystem tree).result = (c.overwriteSource text report tree).result ∧
      (c.preprocess tools isSystem tree).tree = (c.overwriteSource text report tree).tree := by
  unfold preprocess
  generalize c.reducedOutput tools isSystem tree = reduced at h ⊢
  obtain ⟨journal, outcome⟩ := reduced
  cases h
  exact ⟨rfl, rfl⟩

/-- How a task can end: it fails and leaves the tree alone, or it writes the reduced text to its
place, in whole or as far as the write gets. -/
inductive PreprocessEnd (tools : Toolchain) (isSystem : Text → Bool) (tree : FileTree)
    (c : CompileCommand) : Except PreprocessError Report → FileTree → Prop
  | failed (e : PreprocessError) : PreprocessEnd tools isSystem tree c (.error e) tree
  | written {text : Text} {report : Report} {l : Location}
      (hreduced : (c.reducedOutput tools isSystem tree).2 = .ok (text, report))
      (hwritable : tree.Writable c.sourcePath l)
      (hfits : tree.stored l (Utf8.encode text) = Utf8.encode text) :
      PreprocessEnd tools isSystem tree c (.ok report) (tree.set l (.file (Utf8.encode text)))
  | brokenOff {text : Text} {report : Report} {l : Location}
      (hreduced : (c.reducedOutput tools isSystem tree).2 = .ok (text, report))
      (hwritable : tree.Writable c.sourcePath l)
      (hbreaks : tree.stored l (Utf8.encode text) ≠ Utf8.encode text) :
      PreprocessEnd tools isSystem tree c (.error (.file .brokenOff))
        (tree.set l (.file (tree.stored l (Utf8.encode text))))

theorem preprocessEnd_preprocess (tools : Toolchain) (isSystem : Text → Bool) (tree : FileTree)
    (c : CompileCommand) :
    PreprocessEnd tools isSystem tree c (c.preprocess tools isSystem tree).result
      (c.preprocess tools isSystem tree).tree := by
  cases hreduced : (c.reducedOutput tools isSystem tree).2 with
  | error e =>
      obtain ⟨hresult, htree⟩ := preprocess_of_reducedOutput_eq_error hreduced
      rw [hresult, htree]
      exact .failed e
  | ok pair =>
      obtain ⟨text, report⟩ := pair
      obtain ⟨hresult, htree⟩ := preprocess_of_reducedOutput_eq_ok hreduced
      rw [hresult, htree, result_overwriteSource, tree_overwriteSource]
      have hend := tree.writeEnd_write c.sourcePath (Utf8.encode text)
      generalize tree.write c.sourcePath (Utf8.encode text) = done at hend ⊢
      cases hend with
      | refused => exact .failed _
      | done hwritable hfits => exact .written hreduced hwritable hfits
      | brokenOff hwritable hbreaks => exact .brokenOff hreduced hwritable hbreaks

end Steps

def echoCommand : CompileCommand :=
  ⟨Path.ofText "src".toList, Path.ofText "a.c".toList, some ["cat".toList, "-c".toList], none⟩

def echoTools : Toolchain :=
  ProgramTable.toolchain [("cat".toList, .copies (Path.ofText "a.c".toList) [] 0)]

def echoTree (source : Text) : FileTree :=
  ⟨[], [(["src".toList], .directory), (["src".toList, "a.c".toList], .file (Utf8.encode source)),
    (["src".toList, "b.c".toList], .file [])], .none⟩

/-- With room for three bytes only, the source file is lost. -/
example :
    let cramped : FileTree :=
      { echoTree "int a;\n".toList with
        limits := ⟨[], [], [(["src".toList, "a.c".toList], 3)]⟩ }
    let done := echoCommand.preprocess echoTools (Header.underRoots Header.defaultRoots) cramped
    done.result = .error (.file .brokenOff) ∧
      done.tree.read echoCommand.sourcePath = .ok (Utf8.encode "int".toList) := by
  decide +kernel

end CompileCommand

end UnitReducer
