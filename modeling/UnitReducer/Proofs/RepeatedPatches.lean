import UnitReducer.Proofs.PatchList
import UnitReducer.Proofs.PatchReports
import UnitReducer.Proofs.PathComponents
/-!
# Files that are patched more than once

The list of files to patch holds no path twice, but two of its paths may lead to one
file.  A file is then patched under each of them (`Pipeline.rewriteCount_of_textAt`), and
the include line stands in front of it as often as it is listed.  No file is rewritten
twice when all paths are spelled in one way (`Pipeline.PlainlySpelled`).
-/

namespace UnitReducer

open FileTree (AgreeOutside SameDirectories)

/-! ## The text of a file that is patched again and again -/

namespace Patch

/-- How many patches change a text when it is patched for one path after another. -/
def changesFor (header : Option Text) : List Path → Text → Nat
  | [], _ => 0
  | path :: paths, t =>
    (if patched header path.isSource t = t then 0 else 1) +
      changesFor header paths (patched header path.isSource t)

theorem patched_ne_of_include (name : Text) (isSource : Bool) (t : Text) :
    patched (some name) isSource t ≠ t := by
  have hfirst : steps isSource = .includeLine :: (steps isSource).tail := by
    cases isSource <;> rfl
  rw [← run_steps, run_ne_iff, hfirst]
  exact List.cons_ne_nil _ _

theorem changesFor_of_include (name : Text) (paths : List Path) (t : Text) :
    changesFor (some name) paths t = paths.length := by
  induction paths generalizing t with
  | nil => rfl
  | cons path paths ih =>
      rw [changesFor, if_neg (patched_ne_of_include name path.isSource t), ih, List.length_cons,
        Nat.add_comm]

end Patch

/-! ## Paths that lead to one file -/

namespace FileTree

/-- There is a file at the location that may be read and written, and it holds the text in
valid UTF-8. -/
structure TextAt (t : FileTree) (l : Location) (text : Text) : Prop where
  lookup_eq : t.lookup? l = some (.file (Utf8.encode text))
  readable : l ∉ t.limits.unreadable
  writable : l ∉ t.limits.unwritable

theorem TextAt.unique {t : FileTree} {l : Location} {text text' : Text} (h : t.TextAt l text)
    (h' : t.TextAt l text') : text' = text := by
  have heq := h'.lookup_eq
  rw [h.lookup_eq, Option.some.injEq, Entry.file.injEq] at heq
  exact (Utf8.encode_injective heq).symm

theorem textAt_congr {t t' : FileTree} {l : Location} (hlimits : t.limits = t'.limits)
    (hlookup : t.lookup? l = t'.lookup? l) {text : Text} :
    t.TextAt l text ↔ t'.TextAt l text := by
  constructor
  · intro h
    exact ⟨hlookup ▸ h.lookup_eq, hlimits ▸ h.readable, hlimits ▸ h.writable⟩
  · intro h
    exact ⟨hlookup.trans h.lookup_eq, hlimits ▸ h.readable, hlimits ▸ h.writable⟩

theorem textAt_iff {t : FileTree} {p : Path} {l : Location} {text : Text}
    (hnull : p.hasNull = false) (hlocate : t.locate p = .ok l) :
    t.TextAt l text ↔ t.readText p = .ok text ∧ t.MayWrite p := by
  rw [readText_eq_ok_iff_read, read_eq_ok_iff]
  unfold MayWrite
  constructor
  · intro h
    refine ⟨⟨hnull, l, hlocate, h.readable, h.lookup_eq⟩, ?_⟩
    intro l' hl'
    rw [hlocate, Except.ok.injEq] at hl'
    exact hl' ▸ h.writable
  · rintro ⟨⟨-, l', hl', hreadable, hlookup⟩, hwritable⟩
    rw [hlocate, Except.ok.injEq] at hl'
    subst hl'
    exact ⟨hlookup, hreadable, hwritable l hlocate⟩

/-- The paths of a list that are tried and lead to the location.  None is tried from
the first one with a null character on. -/
def spellings (t : FileTree) (paths : List Path) (l : Location) : List Path :=
  (paths.takeWhile fun p => !p.hasNull).filter fun p => t.locate p = .ok l

section Spellings

variable {t : FileTree} {p : Path} {l : Location}

theorem spellings_of_hasNull (hnull : p.hasNull = true) (paths : List Path) :
    t.spellings (p :: paths) l = [] := by
  simp [spellings, hnull]

theorem spellings_of_locate (hnull : p.hasNull = false) (hlocate : t.locate p = .ok l)
    (paths : List Path) : t.spellings (p :: paths) l = p :: t.spellings paths l := by
  simp [spellings, hnull, hlocate]

theorem spellings_of_locate_ne (hlocate : t.locate p ≠ .ok l) (paths : List Path)
    (hnull : p.hasNull = false) : t.spellings (p :: paths) l = t.spellings paths l := by
  simp [spellings, hnull, hlocate]

theorem SameDirectories.spellings_eq {t' : FileTree} (h : SameDirectories t t')
    (paths : List Path) (l : Location) : t.spellings paths l = t'.spellings paths l := by
  unfold spellings
  simp only [h.locate_eq_ok_iff]

theorem length_spellings_le_one {paths : List Path} (h : t.DifferentFiles paths)
    (l : Location) : (t.spellings paths l).length ≤ 1 := by
  have hpairs := (h.sublist (List.takeWhile_sublist fun p => !p.hasNull)).filter
    (fun p => t.locate p = .ok l)
  have hlead : ∀ p ∈ t.spellings paths l, t.locate p = .ok l := by
    intro p hp
    exact of_decide_eq_true (List.mem_filter.1 hp).2
  unfold spellings at hlead ⊢
  cases hlist : (paths.takeWhile fun p => !p.hasNull).filter fun p => t.locate p = .ok l with
  | nil => exact Nat.zero_le 1
  | cons p others =>
      cases others with
      | nil => exact Nat.le_refl 1
      | cons q others =>
          rw [hlist] at hpairs hlead
          have hpq := (List.pairwise_cons.1 hpairs).1 q List.mem_cons_self
          have hp := hlead p List.mem_cons_self
          have hq := hlead q (List.mem_cons_of_mem p List.mem_cons_self)
          exact absurd hq (hpq l hp)

end Spellings

theorem descend_of_plain {t : FileTree} {loc l : Location} {names : List Text}
    (hplain : Path.up ∉ names) (h : t.descend loc names = .ok l) : l = loc ++ names := by
  induction names generalizing loc with
  | nil =>
      cases h
      rw [List.append_nil]
  | cons name names ih =>
      rw [List.mem_cons, not_or] at hplain
      obtain ⟨hname, hnames⟩ := hplain
      rw [descend] at h
      split at h
      · split at h
        · cases h
        · rw [if_neg (Ne.symm hname)] at h
          rw [ih hnames h, List.append_assoc, List.singleton_append]
      · cases h
      · cases h

end FileTree

namespace Pipeline

/-- All paths start from the same root, or all from the working directory, and none
goes up again. -/
def PlainlySpelled (paths : List Path) : Prop :=
  ∃ root, ∀ p ∈ paths, p.root = root ∧ Path.up ∉ p.names

theorem PlainlySpelled.differentFiles {paths : List Path} (h : PlainlySpelled paths)
    (hnodup : paths.Nodup) (tree : FileTree) : tree.DifferentFiles paths := by
  obtain ⟨root, hroot⟩ := h
  have hend : ∀ p ∈ paths, ∀ l, tree.locate p = .ok l →
      l = (if root = .relative then tree.workdir else []) ++ p.names := by
    intro p hp l hl
    obtain ⟨hstart, hplain⟩ := hroot p hp
    unfold FileTree.locate at hl
    split at hl
    · cases hl
    · rw [FileTree.descend_of_plain hplain hl, Path.isAbsolute, hstart]
      cases root <;> rfl
  apply hnodup.imp_of_mem
  intro p q hp hq hne l hl hl'
  have hnames := (hend p hp l hl).symm.trans (hend q hq l hl')
  rw [List.append_cancel_left_eq] at hnames
  have hstart : p.root = q.root := (hroot p hp).1.trans (hroot q hq).1.symm
  exact hne (Path.eq_of_root_names hstart hnames)

/-! ## One patch -/

section OnePatch

variable {tree : FileTree} {path : Path} {l : Location}

theorem textAt_patchFile (header : Option Text) (hcomplete : tree.WritesComplete)
    (hnull : path.hasNull = false) (hlocate : tree.locate path = .ok l) {old : Text}
    (hold : tree.TextAt l old) :
    (tree.patchFile header path.isSource path).1.TextAt l
      (Patch.patched header path.isSource old) := by
  have hsame := (tree.frame_patchFile header path.isSource path).1
  obtain ⟨hread, hmay⟩ := (FileTree.textAt_iff hnull hlocate).1 hold
  refine (FileTree.textAt_iff hnull (hsame.locate_eq_ok_iff.2 hlocate)).2 ⟨?_, ?_⟩
  · have hpatched := (patchEffect_patchFile tree header path).patched old hread hmay
    exact hpatched.resolve_right fun hbroken => hbroken.limited hcomplete
  · exact hsame.mayWrite_iff.2 hmay

theorem lookup?_patchFile (header : Option Text) (hnull : path.hasNull = false)
    (h : ∀ old, tree.locate path = .ok l → ¬ tree.TextAt l old) :
    (tree.patchFile header path.isSource path).1.lookup? l = tree.lookup? l := by
  obtain ⟨hsame, hframe⟩ := tree.frame_patchFile header path.isSource path
  by_cases hlocate : tree.locate path = .ok l
  · have heffect := patchEffect_patchFile tree header path
    have hfind : (tree.patchFile header path.isSource path).1.find? path = tree.find? path := by
      cases hread : tree.readText path with
      | error e => exact (heffect.refused (by simp [hread])).1
      | ok old =>
          refine (heffect.denied old hread ?_).1
          intro hmay
          exact h old hlocate ((FileTree.textAt_iff hnull hlocate).2 ⟨hread, hmay⟩)
    unfold FileTree.find? at hfind
    rwa [hsame.locate_eq_ok_iff.2 hlocate, hlocate] at hfind
  · exact hframe.lookup_eq l hlocate

end OnePatch

/-! ## Many patches -/

/-- How many patches of the list change what is at the location. -/
def rewriteCount (header : Option Text) (tree : FileTree) (paths : List Path) (l : Location) :
    Nat :=
  (List.range paths.length).countP fun k =>
    (treeAfter header tree paths (k + 1)).lookup? l ≠ (treeAfter header tree paths k).lookup? l

variable {header : Option Text} {tree : FileTree} {path : Path} {paths : List Path}
  {l : Location}

theorem rewriteCount_cons (hnull : path.hasNull = false) :
    rewriteCount header tree (path :: paths) l =
      (if (tree.patchFile header path.isSource path).1.lookup? l = tree.lookup? l then 0 else 1) +
        rewriteCount header (tree.patchFile header path.isSource path).1 paths l := by
  have hnext := treeAfter_cons_succ hnull header tree paths
  generalize (tree.patchFile header path.isSource path).1 = t at hnext ⊢
  have hzero : treeAfter header tree (path :: paths) 0 = tree := rfl
  have hstart : treeAfter header t paths 0 = t := rfl
  have hrest : ((fun k => decide ((treeAfter header tree (path :: paths) (k + 1)).lookup? l ≠
      (treeAfter header tree (path :: paths) k).lookup? l)) ∘ Nat.succ) =
      fun k => decide ((treeAfter header t paths (k + 1)).lookup? l ≠
        (treeAfter header t paths k).lookup? l) := by
    funext k
    rw [Function.comp_apply, hnext, hnext]
  rw [rewriteCount, List.length_cons, List.range_succ_eq_map, List.countP_cons, List.countP_map,
    hrest, hnext, hzero, hstart, rewriteCount, Nat.add_comm]
  by_cases hsame : t.lookup? l = tree.lookup? l <;> simp [hsame]

theorem rewriteCount_of_hasNull (hnull : path.hasNull = true) :
    rewriteCount header tree (path :: paths) l = 0 := by
  have hstays : ∀ k, treeAfter header tree (path :: paths) k = tree := by
    intro k
    cases k with
    | zero => rfl
    | succ k =>
        rw [treeAfter, List.take_succ_cons, patchEach, FileTree.patchFile_of_hasNull hnull]
        rfl
  rw [rewriteCount, List.countP_eq_zero]
  intro k _
  rw [hstays, hstays]
  simp

/-- A file that holds a text is rewritten as often as the text changes when it is
patched for the paths that lead to the file, one after another. -/
theorem rewriteCount_of_textAt (hcomplete : tree.WritesComplete) {old : Text}
    (hold : tree.TextAt l old) :
    rewriteCount header tree paths l = Patch.changesFor header (tree.spellings paths l) old := by
  induction paths generalizing tree old with
  | nil => rfl
  | cons path paths ih =>
      cases hnull : path.hasNull with
      | true =>
          rw [rewriteCount_of_hasNull hnull, FileTree.spellings_of_hasNull hnull]
          rfl
      | false =>
          obtain ⟨hsame, hframe⟩ := tree.frame_patchFile header path.isSource path
          have hcomplete' := hcomplete.congr hsame.limits_eq
          rw [rewriteCount_cons hnull]
          by_cases hlocate : tree.locate path = .ok l
          · have hnew := textAt_patchFile header hcomplete hnull hlocate hold
            have hchanged : (tree.patchFile header path.isSource path).1.lookup? l =
                tree.lookup? l ↔ Patch.patched header path.isSource old = old := by
              rw [hnew.lookup_eq, hold.lookup_eq, Option.some.injEq, Entry.file.injEq]
              exact ⟨Utf8.encode_injective, congrArg _⟩
            rw [ih hcomplete' hnew, hsame.spellings_eq,
              FileTree.spellings_of_locate hnull hlocate, Patch.changesFor]
            simp only [hchanged]
          · have hkept := hframe.lookup_eq l hlocate
            have hstill := (FileTree.textAt_congr hsame.limits_eq hkept).2 hold
            rw [if_pos hkept, ih hcomplete' hstill, hsame.spellings_eq, Nat.zero_add,
              FileTree.spellings_of_locate_ne hlocate paths hnull]

theorem rewriteCount_of_not_textAt (hnone : ∀ old, ¬ tree.TextAt l old) :
    rewriteCount header tree paths l = 0 := by
  induction paths generalizing tree with
  | nil => rfl
  | cons path paths ih =>
      cases hnull : path.hasNull with
      | true => exact rewriteCount_of_hasNull hnull
      | false =>
          have hsame := (tree.frame_patchFile header path.isSource path).1
          have hkept := lookup?_patchFile header hnull fun old _ => hnone old
          rw [rewriteCount_cons hnull, if_pos hkept, ih]
          intro old hold
          exact hnone old ((FileTree.textAt_congr hsame.limits_eq hkept).1 hold)

theorem rewriteCount_le_length_spellings (header : Option Text) (tree : FileTree)
    (paths : List Path) (l : Location) :
    rewriteCount header tree paths l ≤ (tree.spellings paths l).length := by
  induction paths generalizing tree with
  | nil => exact Nat.le_refl 0
  | cons path paths ih =>
      cases hnull : path.hasNull with
      | true =>
          rw [rewriteCount_of_hasNull hnull]
          exact Nat.zero_le _
      | false =>
          obtain ⟨hsame, hframe⟩ := tree.frame_patchFile header path.isSource path
          have hrest := ih (tree.patchFile header path.isSource path).1
          rw [hsame.spellings_eq] at hrest
          rw [rewriteCount_cons hnull]
          by_cases hlocate : tree.locate path = .ok l
          · rw [FileTree.spellings_of_locate hnull hlocate, List.length_cons]
            split <;> omega
          · rw [if_pos (hframe.lookup_eq l hlocate), Nat.zero_add,
              FileTree.spellings_of_locate_ne hlocate paths hnull]
            exact hrest

/-- No file is rewritten by two patches of the list. -/
def RewritesOnce (header : Option Text) (tree : FileTree) (paths : List Path) : Prop :=
  ∀ l, rewriteCount header tree paths l ≤ 1

theorem rewritesOnce_iff (hcomplete : tree.WritesComplete) :
    RewritesOnce header tree paths ↔
      ∀ l old, tree.TextAt l old →
        Patch.changesFor header (tree.spellings paths l) old ≤ 1 := by
  constructor
  · intro h l old hold
    rw [← rewriteCount_of_textAt hcomplete hold]
    exact h l
  · intro h l
    by_cases hholds : ∃ old, tree.TextAt l old
    · obtain ⟨old, hold⟩ := hholds
      rw [rewriteCount_of_textAt hcomplete hold]
      exact h l old hold
    · rw [rewriteCount_of_not_textAt fun old hold => hholds ⟨old, hold⟩]
      exact Nat.zero_le 1

theorem rewritesOnce_of_differentFiles (h : tree.DifferentFiles paths) :
    RewritesOnce header tree paths := by
  intro l
  calc
    rewriteCount header tree paths l
      ≤ (tree.spellings paths l).length := rewriteCount_le_length_spellings header tree paths l
    _ ≤ 1 := FileTree.length_spellings_le_one h l

/-! ## A whole run -/

/-- A run that comes to the second stage rewrites a file there as often as its text
changes when it is patched for each path of the list that leads to it; with an include
line this is as often as the file is listed.  So no file is rewritten twice exactly when no
text is changed twice in this way.  No file is rewritten twice when all paths are plainly
spelled, even if writes break off. -/
theorem run_rewrites_once_iff (tools : Toolchain) (scheduler : Scheduler) {options : Options}
    {tree : FileTree} {parse : Bytes → Option Json} {loaded : List CompileCommand}
    {rows : List PreprocessRow}
    (hload : Database.load tree options.database parse = .ok loaded)
    (hrows : (preprocessStage tools options tree (Database.dedupe loaded).1 scheduler).result =
      .ok rows)
    (hok : ∀ row ∈ rows, row.failed = false) :
    let paths := filesToPatch (Database.dedupe loaded).1 options.files
    let found := (preprocessStage tools options tree (Database.dedupe loaded).1 scheduler).tree
    (run tools options tree parse scheduler).tree =
        treeAfter options.header found paths paths.length ∧
      (tree.WritesComplete →
        (∀ l old, found.TextAt l old → rewriteCount options.header found paths l =
          Patch.changesFor options.header (found.spellings paths l) old) ∧
        (∀ name l old, options.header = some name → found.TextAt l old →
          rewriteCount options.header found paths l = (found.spellings paths l).length) ∧
        (RewritesOnce options.header found paths ↔ ∀ l old, found.TextAt l old →
          Patch.changesFor options.header (found.spellings paths l) old ≤ 1)) ∧
      (PlainlySpelled paths → RewritesOnce options.header found paths) := by
  intro paths found
  have hpassed : rows.any Row.failed = false := any_failed_eq_false_iff.2 hok
  refine ⟨?_, ?_, ?_⟩
  · rw [tree_run_of_load_eq_ok tools scheduler hload, tree_runCommands hrows, hpassed,
      if_neg Bool.false_ne_true, tree_patchStage, treeAfter, List.take_length]
  · intro hcomplete
    have hfound : found.WritesComplete :=
      hcomplete.congr (sameDirectories_preprocessStage ..).limits_eq
    refine ⟨fun l old => rewriteCount_of_textAt hfound, ?_, rewritesOnce_iff hfound⟩
    intro name l old hheader hold
    rw [rewriteCount_of_textAt hfound hold, hheader, Patch.changesFor_of_include]
  · intro hplain
    exact rewritesOnce_of_differentFiles
      (hplain.differentFiles (listsFirsts_filesToPatch _ _).nodup found)

def absoluteDatabase : Text :=
  "[\x7b\"directory\":\"/w\",\"file\":\"a.c\",\"arguments\":[\"cc\"]\x7d]".toList

def absoluteCommands : List CompileCommand :=
  [⟨Path.ofText "/w".toList, Path.ofText "a.c".toList, some ["cc".toList], none⟩]

def absoluteTree : FileTree :=
  ⟨["w".toList], [(["w".toList], .directory),
    (["w".toList, "db.json".toList], .file (Utf8.encode absoluteDatabase)),
    (["w".toList, "a.c".toList], .file (Utf8.encode "int a;\n".toList))], .none⟩

def includeOptions (file : Path) : Options :=
  ⟨Path.ofText "db.json".toList, [file], false, some "t.h".toList, Header.defaultRoots, 1,
    Nat.zero_lt_one⟩

theorem load_absoluteTree (file : Path) :
    Database.load absoluteTree (includeOptions file).database = .ok absoluteCommands := by
  have hdatabase : (includeOptions file).database = Path.ofText "db.json".toList := rfl
  rw [hdatabase]
  decide +kernel

/-- Each file is named once and rewritten once when the further file has an absolute path
as well. -/
theorem run_rewrites_once_absolute :
    (run smallTools (includeOptions (Path.ofText "/w/a.c".toList)) absoluteTree).tree.read
        (Path.ofText "a.c".toList) = .ok (Utf8.encode "#include <t.h>\nint a;\n".toList) ∧
      RewritesOnce (some "t.h".toList) absoluteTree
        (filesToPatch absoluteCommands [Path.ofText "/w/a.c".toList]) := by
  have hdedupe : (Database.dedupe absoluteCommands).1 = absoluteCommands := by decide +kernel
  obtain ⟨htree, -, hplain⟩ := run_rewrites_once_iff smallTools .inOrder
    (load_absoluteTree (Path.ofText "/w/a.c".toList)) rfl (List.forall_mem_nil _)
  rw [hdedupe] at htree hplain
  rw [htree]
  refine ⟨by decide +kernel, hplain ⟨.single, by decide +kernel⟩⟩

/-- A file that is given by a relative path besides is listed under two names, and gets
the include line twice. -/
theorem patches_relative_name_again :
    (run smallTools (includeOptions (Path.ofText "a.c".toList)) absoluteTree).tree.read
        (Path.ofText "a.c".toList) =
        .ok (Utf8.encode "#include <t.h>\n#include <t.h>\nint a;\n".toList) ∧
      ¬ RewritesOnce (some "t.h".toList) absoluteTree
        (filesToPatch absoluteCommands [Path.ofText "a.c".toList]) := by
  refine ⟨by decide +kernel, ?_⟩
  intro honce
  have htwice : rewriteCount (some "t.h".toList) absoluteTree
      (filesToPatch absoluteCommands [Path.ofText "a.c".toList])
      ["w".toList, "a.c".toList] = 2 := by
    decide +kernel
  have hle := honce ["w".toList, "a.c".toList]
  omega

end Pipeline

end UnitReducer
