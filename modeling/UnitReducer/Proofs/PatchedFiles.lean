import UnitReducer.Proofs.FailureIsolation
import UnitReducer.Proofs.TaskIndependence
/-!
# Files after patching

What the patch steps make of a text (`Patch.patched`), what the patch of one file can do
to a tree (`FileTree.PatchEnd`), and what the patches of different files do to it
when they are made one after another (`Pipeline.patchesFiles_patchEach`).
-/

namespace UnitReducer

/-! ## The text of a file -/

namespace Patch

/-- The text after all steps.  A step that does not apply is passed over. -/
def patched (header : Option Text) (isSource : Bool) (t : Text) : Text :=
  let included := (header.map fun header => prependInclude header t).getD t
  let wrapped := (wrapNull included).getD included
  let functions := (stripConstexprFunctions wrapped).getD wrapped
  let objects :=
    if isSource then (stripStaticConstexprObjects functions).getD functions else functions
  (escapeQuotes objects).getD objects

theorem run_cons (header : Option Text) (step : PatchStep) (steps : List PatchStep) (t : Text) :
    (run header (step :: steps) t).1 =
      (run header steps ((attempt? header step t).getD t)).1 := by
  rw [run]
  cases attempt? header step t with
  | none => rfl
  | some patched => rfl

theorem run_steps (header : Option Text) (isSource : Bool) (t : Text) :
    (run header (steps isSource) t).1 = patched header isSource t := by
  cases isSource with
  | false =>
      have hsteps : steps false =
          [.includeLine, .wrapNull, .stripConstexprFunctions, .escapeQuotes] := rfl
      rw [hsteps, run_cons, run_cons, run_cons, run_cons]
      rfl
  | true =>
      have hsteps : steps true = [.includeLine, .wrapNull, .stripConstexprFunctions,
          .stripStaticConstexprObjects, .escapeQuotes] := rfl
      rw [hsteps, run_cons, run_cons, run_cons, run_cons, run_cons]
      rfl

end Patch

namespace FileTree

theorem readText_eq_ok_iff_read {t : FileTree} {p : Path} {text : Text} :
    t.readText p = .ok text ↔ t.read p = .ok (Utf8.encode text) := by
  rw [readText_eq_ok_iff]
  constructor
  · rintro ⟨content, hread, hdecode⟩
    rw [Utf8.encode_of_decode hdecode]
    exact hread
  · intro h
    exact ⟨_, h, Utf8.decode_encode text⟩

theorem SameDirectories.readText_eq_ok_iff {t t' : FileTree} (h : SameDirectories t t') {p : Path}
    (hfind : t.find? p = t'.find? p) {text : Text} :
    t.readText p = .ok text ↔ t'.readText p = .ok text := by
  rw [readText_eq_ok_iff_read, readText_eq_ok_iff_read, h.read_eq_ok_iff hfind]

theorem mayRead_of_readText {t : FileTree} {p : Path} {text : Text}
    (h : t.readText p = .ok text) : t.MayRead p :=
  (read_eq_ok_iff_find?.1 (readText_eq_ok_iff_read.1 h)).2.1

theorem not_mayWrite_of_target_eq_error {t : FileTree} {p : Path} {text : Text}
    (hread : t.readText p = .ok text) {e : FileError} (htarget : t.target p = .error e) :
    ¬ t.MayWrite p := by
  intro hmay
  obtain ⟨l, hl⟩ := writable_of_read (readText_eq_ok_iff_read.1 hread) hmay
  rw [target_eq_ok_iff.2 hl] at htarget
  cases htarget

theorem Writable.readText_set {t : FileTree} {p : Path} {l : Location} (h : t.Writable p l)
    (hmay : t.MayRead p) (text : Text) :
    (t.set l (.file (Utf8.encode text))).readText p = .ok text := by
  rw [readText_eq_ok_iff_read, read_eq_ok_iff_find?, (h.sameDirectories_set _).mayRead_iff]
  exact ⟨h.noNull, hmay, h.find?_set _⟩

theorem SameDirectories.differentFiles {t t' : FileTree} (h : SameDirectories t t')
    {paths : List Path} (hpaths : t'.DifferentFiles paths) : t.DifferentFiles paths := by
  refine hpaths.imp ?_
  intro p q hpq l hp hq
  exact hpq l (h.locate_eq_ok_iff.1 hp) (h.locate_eq_ok_iff.1 hq)

/-! ## Patching one file -/

variable {t : FileTree} {p : Path}

/-- How the patch of a file that holds the text `old` can end.  It leaves the tree alone if the
text stays as it is or if the file cannot be opened; or it writes the new text, in whole or as
far as the write gets. -/
inductive PatchEnd (t : FileTree) (header : Option Text) (isSource : Bool) (p : Path)
    (old : Text) : FileTree × Except PatchError (List PatchStep) → Prop
  | unchanged (hsame : Patch.patched header isSource old = old) :
      PatchEnd t header isSource p old (t, .ok (Patch.run header (Patch.steps isSource) old).2)
  | refused {e : FileError} (hne : Patch.patched header isSource old ≠ old)
      (htarget : t.target p = .error e) :
      PatchEnd t header isSource p old (t, .error (.file e))
  | written {l : Location} (hwritable : t.Writable p l)
      (hfits : t.stored l (Utf8.encode (Patch.patched header isSource old)) =
        Utf8.encode (Patch.patched header isSource old)) :
      PatchEnd t header isSource p old
        (t.set l (.file (Utf8.encode (Patch.patched header isSource old))),
          .ok (Patch.run header (Patch.steps isSource) old).2)
  | brokenOff {l : Location} (hne : Patch.patched header isSource old ≠ old)
      (hwritable : t.Writable p l)
      (hbreaks : t.stored l (Utf8.encode (Patch.patched header isSource old)) ≠
        Utf8.encode (Patch.patched header isSource old)) :
      PatchEnd t header isSource p old
        (t.set l (.file (t.stored l (Utf8.encode (Patch.patched header isSource old)))),
          .error (.file .brokenOff))

theorem patchEnd_patchFile {old : Text} (hold : t.readText p = .ok old) (header : Option Text)
    (isSource : Bool) : PatchEnd t header isSource p old (t.patchFile header isSource p) := by
  rw [patchFile_of_readText_eq_ok hold, Patch.run_steps]
  by_cases hsame : Patch.patched header isSource old = old
  · rw [if_pos hsame]
    exact .unchanged hsame
  · rw [if_neg hsame]
    have hend := t.writeEnd_write p (Utf8.encode (Patch.patched header isSource old))
    generalize t.write p (Utf8.encode (Patch.patched header isSource old)) = done at hend ⊢
    cases hend with
    | refused htarget => exact .refused hsame htarget
    | done hwritable hfits => exact .written hwritable hfits
    | brokenOff hwritable hbreaks => exact .brokenOff hsame hwritable hbreaks

theorem frame_patchFile (t : FileTree) (header : Option Text) (isSource : Bool) (p : Path) :
    SameDirectories (t.patchFile header isSource p).1 t ∧
      AgreeOutside {l | t.locate p = .ok l} (t.patchFile header isSource p).1 t := by
  have hset : ∀ {l content}, t.Writable p l →
      SameDirectories (t.set l (.file content)) t ∧
        AgreeOutside {l | t.locate p = .ok l} (t.set l (.file content)) t := by
    intro l content hwritable
    refine ⟨hwritable.sameDirectories_set content, (hwritable.agreeOutside_set content).mono ?_⟩
    rintro l' rfl
    exact hwritable.locate_eq
  cases hread : t.readText p with
  | error e =>
      rw [patchFile_of_readText_eq_error hread]
      exact ⟨.refl t, .refl _ t⟩
  | ok old =>
      have hend := patchEnd_patchFile hread header isSource
      generalize t.patchFile header isSource p = done at hend ⊢
      cases hend with
      | unchanged => exact ⟨.refl t, .refl _ t⟩
      | refused => exact ⟨.refl t, .refl _ t⟩
      | written hwritable => exact hset hwritable
      | brokenOff _ hwritable => exact hset hwritable

end FileTree

namespace Pipeline

open FileTree (SameDirectories)

/-! ## One patch after another -/

section OneAfterAnother

variable {header : Option Text} {tree : FileTree} {path : Path} {paths : List Path}
  {rows : List PatchRow}

/-- The tree after the first `k` files of the list have been patched. -/
def treeAfter (header : Option Text) (tree : FileTree) (paths : List Path) (k : Nat) : FileTree :=
  (patchEach header tree (paths.take k)).tree

theorem treeAfter_cons_succ (hnull : path.hasNull = false) (header : Option Text)
    (tree : FileTree) (paths : List Path) (k : Nat) :
    treeAfter header tree (path :: paths) (k + 1) =
      treeAfter header (tree.patchFile header path.isSource path).1 paths k := by
  rw [treeAfter, List.take_succ_cons, patchEach_cons_of_noNull hnull, treeAfter]

theorem map_file_patchEach (h : (patchEach header tree paths).result = .ok rows) :
    rows.map Row.file = paths := by
  induction paths generalizing tree rows with
  | nil =>
      cases h
      rfl
  | cons path paths ih =>
      have hnull := (patchEach_ok_iff header tree _).1 ⟨rows, h⟩ path List.mem_cons_self
      rw [patchEach_cons_of_noNull hnull] at h
      obtain ⟨others, hothers, rfl⟩ := map_eq_ok_iff.1 h
      rw [List.map_cons, ih hothers]

theorem getElem?_patchEach (h : (patchEach header tree paths).result = .ok rows) {k : Nat}
    (hpath : paths[k]? = some path) :
    let patched := (treeAfter header tree paths k).patchFile header path.isSource path
    rows[k]? = some ⟨path, patched.2⟩ ∧ treeAfter header tree paths (k + 1) = patched.1 := by
  induction paths generalizing tree rows k with
  | nil => cases hpath
  | cons first paths ih =>
      have hnull := (patchEach_ok_iff header tree _).1 ⟨rows, h⟩ first List.mem_cons_self
      rw [patchEach_cons_of_noNull hnull] at h
      obtain ⟨others, hothers, rfl⟩ := map_eq_ok_iff.1 h
      rw [treeAfter_cons_succ hnull]
      cases k with
      | zero =>
          cases hpath
          exact ⟨rfl, rfl⟩
      | succ k =>
          rw [treeAfter_cons_succ hnull, List.getElem?_cons_succ]
          exact ih hothers hpath

end OneAfterAnother

/-! ## Different files -/

/-- The write of the content to the file broke off, and the row says so. -/
structure BrokeOff (tree : FileTree) (path : Path) (content : Bytes) (final : FileTree)
    (outcome : Except PatchError (List PatchStep)) : Prop where
  limited : ¬ tree.WritesComplete
  reported : outcome = .error (.file .brokenOff)
  left : final.HoldsFront path content

theorem BrokeOff.congr {tree tree' final final' : FileTree} {path : Path} {content : Bytes}
    {outcome : Except PatchError (List PatchStep)} (h : BrokeOff tree path content final outcome)
    (hlimits : tree.limits = tree'.limits) (hfind : final'.find? path = final.find? path) :
    BrokeOff tree' path content final' outcome := by
  refine ⟨fun hcomplete => h.limited (hcomplete.congr hlimits), h.reported, ?_⟩
  rw [FileTree.HoldsFront, hfind]
  exact h.left

/-- What has become of one file that was to be patched: a text that may be written has been
patched, unless the write broke off, and all else has been left alone.  What is no text has
a failed row, and so has a text that would have to be written and must not. -/
structure PatchEffect (header : Option Text) (tree : FileTree) (path : Path) (final : FileTree)
    (outcome : Except PatchError (List PatchStep)) : Prop where
  patched : ∀ old, tree.readText path = .ok old → tree.MayWrite path →
    final.readText path = .ok (Patch.patched header path.isSource old) ∨
      BrokeOff tree path (Utf8.encode (Patch.patched header path.isSource old)) final outcome
  denied : ∀ old, tree.readText path = .ok old → ¬ tree.MayWrite path →
    final.find? path = tree.find? path ∧
      (Patch.patched header path.isSource old ≠ old → ∃ e, outcome = .error e)
  refused : (∀ old, tree.readText path ≠ .ok old) →
    final.find? path = tree.find? path ∧ ∃ e, outcome = .error e

theorem PatchEffect.of_readText {header : Option Text} {tree final : FileTree} {path : Path}
    {outcome : Except PatchError (List PatchStep)} {old : Text}
    (hold : tree.readText path = .ok old)
    (hpatched : tree.MayWrite path →
      final.readText path = .ok (Patch.patched header path.isSource old) ∨
        BrokeOff tree path (Utf8.encode (Patch.patched header path.isSource old)) final outcome)
    (hdenied : ¬ tree.MayWrite path → final.find? path = tree.find? path ∧
      (Patch.patched header path.isSource old ≠ old → ∃ e, outcome = .error e)) :
    PatchEffect header tree path final outcome := by
  have hunique : ∀ {text}, tree.readText path = .ok text → text = old := by
    intro text htext
    rw [hold, Except.ok.injEq] at htext
    exact htext.symm
  constructor
  · intro text htext
    rwa [hunique htext]
  · intro text htext
    rwa [hunique htext]
  · intro hnone
    exact absurd hold (hnone old)

theorem patchEffect_patchFile (tree : FileTree) (header : Option Text) (path : Path) :
    PatchEffect header tree path (tree.patchFile header path.isSource path).1
      (tree.patchFile header path.isSource path).2 := by
  cases hread : tree.readText path with
  | error e =>
      rw [FileTree.patchFile_of_readText_eq_error hread]
      exact ⟨by simp [hread], by simp [hread], fun _ => ⟨rfl, e, rfl⟩⟩
  | ok old =>
      have hend := FileTree.patchEnd_patchFile hread header path.isSource
      generalize tree.patchFile header path.isSource path = done at hend ⊢
      cases hend with
      | unchanged hsame =>
          refine .of_readText hread ?_ ?_
          · intro _
            rw [hsame]
            exact Or.inl hread
          · intro _
            exact ⟨rfl, fun hne => absurd hsame hne⟩
      | refused hne htarget =>
          have hdenied := FileTree.not_mayWrite_of_target_eq_error hread htarget
          exact .of_readText hread (fun hmay => absurd hmay hdenied)
            fun _ => ⟨rfl, fun _ => ⟨_, rfl⟩⟩
      | written hwritable hfits =>
          refine .of_readText hread ?_ fun hdenied => absurd hwritable.mayWrite hdenied
          intro _
          exact Or.inl (hwritable.readText_set (FileTree.mayRead_of_readText hread) _)
      | brokenOff hne hwritable hbreaks =>
          refine .of_readText hread ?_ fun hdenied => absurd hwritable.mayWrite hdenied
          intro _
          exact Or.inr
            ⟨fun hcomplete => hbreaks (hcomplete _ _), rfl, hwritable.holdsFront_set hbreaks⟩

theorem PatchEffect.congr {header : Option Text} {tree tree' final final' : FileTree}
    {path : Path} {outcome : Except PatchError (List PatchStep)}
    (h : PatchEffect header tree path final outcome) (htree : SameDirectories tree' tree)
    (hfinal : SameDirectories final' final) (hfind : tree'.find? path = tree.find? path)
    (hfind' : final'.find? path = final.find? path) :
    PatchEffect header tree' path final' outcome := by
  constructor
  · intro old hold hmay
    rw [hfinal.readText_eq_ok_iff hfind']
    have hpatched :=
      h.patched old ((htree.readText_eq_ok_iff hfind).1 hold) (htree.mayWrite_iff.1 hmay)
    exact hpatched.imp_right fun hbroken => hbroken.congr htree.limits_eq.symm hfind'
  · intro old hold hdenied
    rw [hfind', hfind]
    refine h.denied old ((htree.readText_eq_ok_iff hfind).1 hold) ?_
    rwa [← htree.mayWrite_iff]
  · intro hnone
    rw [hfind', hfind]
    refine h.refused ?_
    intro old hold
    exact hnone old ((htree.readText_eq_ok_iff hfind).2 hold)

/-- Every file of the list has its row, and what is not on the list has been left alone. -/
structure PatchesFiles (header : Option Text) (tree : FileTree) (paths : List Path)
    (final : FileTree) (rows : List PatchRow) : Prop where
  sameDirectories : SameDirectories final tree
  patched : ∀ path ∈ paths, ∃ outcome, ⟨path, outcome⟩ ∈ rows ∧
    PatchEffect header tree path final outcome
  untouched : ∀ l, (∀ path ∈ paths, tree.locate path ≠ .ok l) →
    final.lookup? l = tree.lookup? l

variable {header : Option Text} {tree : FileTree} {path : Path} {paths : List Path}
  {final : FileTree} {rows : List PatchRow}

theorem PatchesFiles.cons
    (h : PatchesFiles header (tree.patchFile header path.isSource path).1 paths final rows)
    (hpath : ∀ q ∈ paths, ∀ l, tree.locate path = .ok l → tree.locate q ≠ .ok l) :
    PatchesFiles header tree (path :: paths) final
      (⟨path, (tree.patchFile header path.isSource path).2⟩ :: rows) := by
  have hone := patchEffect_patchFile tree header path
  obtain ⟨hsame, hframe⟩ := tree.frame_patchFile header path.isSource path
  generalize tree.patchFile header path.isSource path = left at h hone hsame hframe ⊢
  obtain ⟨t, outcome⟩ := left
  refine ⟨h.sameDirectories.trans hsame, ?_, ?_⟩
  · intro q hq
    rcases List.mem_cons.1 hq with rfl | hq
    · -- the other patches leave the first file as its own patch left it
      refine ⟨outcome, List.mem_cons_self, hone.congr (.refl tree) h.sameDirectories rfl ?_⟩
      apply h.sameDirectories.find?_eq
      intro l hl
      apply h.untouched l
      intro q' hq' hl'
      exact hpath q' hq' l (hsame.locate_eq_ok_iff.1 hl) (hsame.locate_eq_ok_iff.1 hl')
    · obtain ⟨outcome', hrow, heffect⟩ := h.patched q hq
      refine ⟨outcome', List.mem_cons_of_mem _ hrow, heffect.congr hsame.symm (.refl final) ?_ rfl⟩
      apply hsame.symm.find?_eq
      intro l hl
      refine (hframe.lookup_eq l ?_).symm
      intro hl'
      exact hpath q hq l hl' (hsame.locate_eq_ok_iff.1 hl)
  · intro l hl
    refine (h.untouched l ?_).trans (hframe.lookup_eq l (hl path List.mem_cons_self))
    intro q hq hlocate
    exact hl q (List.mem_cons_of_mem path hq) (hsame.locate_eq_ok_iff.1 hlocate)

end Pipeline

end UnitReducer
