import UnitReducer.FileTree
import UnitReducer.Proofs.Results
import Mathlib.Data.Set.Insert
/-!
# What paths see of a file tree

Trees are compared by what they hold at every location (`AgreeOutside`).  Where a
path leads depends on the locations it passes (`way`), and of these only on which
of them are directories.  A file that is written neither makes nor removes a
directory, so all paths lead to the same places before and after
(`SameDirectories.locate_eq_ok_iff`).  A write that is not refused changes its target
alone, and its target holds all that was written unless the limits of the tree break the
write off (`WritesComplete`).
-/

namespace UnitReducer.FileTree

/-! ## Trees that hold the same -/

/-- The trees have one working directory and the same limits, and hold the same outside of
`changed`. -/
structure AgreeOutside (changed : Set Location) (t t' : FileTree) : Prop where
  workdir_eq : t.workdir = t'.workdir
  limits_eq : t.limits = t'.limits
  lookup_eq : ∀ l, l ∉ changed → t.lookup? l = t'.lookup? l

namespace AgreeOutside

variable {changed changed' : Set Location} {t t' u : FileTree}

theorem refl (changed : Set Location) (t : FileTree) : AgreeOutside changed t t :=
  ⟨rfl, rfl, fun _ _ => rfl⟩

theorem trans (h : AgreeOutside changed t t') (h' : AgreeOutside changed t' u) :
    AgreeOutside changed t u :=
  ⟨h.workdir_eq.trans h'.workdir_eq, h.limits_eq.trans h'.limits_eq,
    fun l hl => (h.lookup_eq l hl).trans (h'.lookup_eq l hl)⟩

theorem mono (h : AgreeOutside changed t t') (hsub : changed ⊆ changed') :
    AgreeOutside changed' t t' :=
  ⟨h.workdir_eq, h.limits_eq, fun l hl => h.lookup_eq l fun hmem => hl (hsub hmem)⟩

end AgreeOutside

theorem agreeOutside_set (t : FileTree) {l : Location} (hl : l ≠ []) (e : Entry) :
    AgreeOutside {l} (t.set l e) t := by
  refine ⟨rfl, rfl, ?_⟩
  intro l' hl'
  have hne : l' ≠ l := hl'
  rw [lookup?_set t e hl, if_neg hne]

/-! ## Where a path leads -/

/-- The locations that names lead through, up to the one before the last. -/
def wayFrom (loc : Location) : List Text → List Location
  | [] => []
  | name :: names =>
    loc :: wayFrom (if name = Path.up then loc.dropLast else loc ++ [name]) names

/-- The locations that a path passes before it comes to its end. -/
def way (t : FileTree) (p : Path) : List Location :=
  wayFrom (if p.isAbsolute then [] else t.workdir) p.names

theorem descend_congr {t t' : FileTree} {loc : Location} {names : List Text}
    (h : ∀ l ∈ wayFrom loc names, t.lookup? l = t'.lookup? l) :
    t.descend loc names = t'.descend loc names := by
  induction names generalizing loc with
  | nil => rfl
  | cons name names ih =>
      have hloc := h loc List.mem_cons_self
      have hnext := ih fun l hl => h l (List.mem_cons_of_mem loc hl)
      rw [descend, descend, hloc, hnext]

theorem AgreeOutside.locate_congr {changed : Set Location} {t t' : FileTree}
    (h : AgreeOutside changed t t') {p : Path} (hway : ∀ l ∈ t'.way p, l ∉ changed) :
    t.locate p = t'.locate p := by
  unfold locate
  rw [h.workdir_eq, descend_congr fun l hl => h.lookup_eq l (hway l hl)]

/-- The trees have one working directory, the same limits and the same directories. -/
structure SameDirectories (t t' : FileTree) : Prop where
  workdir_eq : t.workdir = t'.workdir
  limits_eq : t.limits = t'.limits
  directory_iff : ∀ l, t.lookup? l = some .directory ↔ t'.lookup? l = some .directory

namespace SameDirectories

variable {t t' u : FileTree}

theorem refl (t : FileTree) : SameDirectories t t :=
  ⟨rfl, rfl, fun _ => Iff.rfl⟩

theorem symm (h : SameDirectories t t') : SameDirectories t' t :=
  ⟨h.workdir_eq.symm, h.limits_eq.symm, fun l => (h.directory_iff l).symm⟩

theorem trans (h : SameDirectories t t') (h' : SameDirectories t' u) : SameDirectories t u :=
  ⟨h.workdir_eq.trans h'.workdir_eq, h.limits_eq.trans h'.limits_eq,
    fun l => (h.directory_iff l).trans (h'.directory_iff l)⟩

theorem descend_eq_ok (h : SameDirectories t t') {loc l : Location} {names : List Text}
    (hdescend : t.descend loc names = .ok l) : t'.descend loc names = .ok l := by
  induction names generalizing loc with
  | nil => exact hdescend
  | cons name names ih =>
      rw [descend] at hdescend ⊢
      split at hdescend
      next hdirectory =>
        rw [(h.directory_iff loc).1 hdirectory]
        dsimp only
        split at hdescend
        · cases hdescend
        next hlimit =>
          rw [if_neg hlimit]
          exact ih hdescend
      next => cases hdescend
      next => cases hdescend

theorem locate_eq_ok_iff (h : SameDirectories t t') {p : Path} {l : Location} :
    t.locate p = .ok l ↔ t'.locate p = .ok l := by
  unfold locate
  rw [h.workdir_eq]
  split
  · exact Iff.rfl
  · exact ⟨h.descend_eq_ok, h.symm.descend_eq_ok⟩

end SameDirectories

/-! ## Reading and opening -/

theorem read_eq_ok_iff {t : FileTree} {p : Path} {content : Bytes} :
    t.read p = .ok content ↔
      p.hasNull = false ∧ ∃ l, t.locate p = .ok l ∧ l ∉ t.limits.unreadable ∧
        t.lookup? l = some (.file content) := by
  unfold read
  cases p.hasNull with
  | true => simp
  | false =>
      cases t.locate p with
      | error fault => simp
      | ok l =>
          cases hl : t.lookup? l with
          | none => simp [hl]
          | some e =>
              by_cases hdenied : l ∈ t.limits.unreadable
              · simp [hl, hdenied]
              · cases e <;> simp [hl, hdenied]

/-- The limits of the tree let the file at the path be read. -/
def MayRead (t : FileTree) (p : Path) : Prop :=
  ∀ l, t.locate p = .ok l → l ∉ t.limits.unreadable

def MayWrite (t : FileTree) (p : Path) : Prop :=
  ∀ l, t.locate p = .ok l → l ∉ t.limits.unwritable

theorem read_eq_ok_iff_find? {t : FileTree} {p : Path} {content : Bytes} :
    t.read p = .ok content ↔
      p.hasNull = false ∧ t.MayRead p ∧ t.find? p = some (.file content) := by
  rw [read_eq_ok_iff]
  unfold MayRead find?
  cases t.locate p with
  | error fault => simp
  | ok l => simp

/-- A file can be written at the path, and its place is `l`: no null character, a
way over directories, no directory at its end, and leave to write there. -/
structure Writable (t : FileTree) (p : Path) (l : Location) : Prop where
  noNull : p.hasNull = false
  locate_eq : t.locate p = .ok l
  notDirectory : t.lookup? l ≠ some .directory
  permitted : l ∉ t.limits.unwritable

theorem Writable.ne_nil {t : FileTree} {p : Path} {l : Location} (h : t.Writable p l) :
    l ≠ [] := by
  rintro rfl
  exact h.notDirectory rfl

theorem Writable.unique {t : FileTree} {p : Path} {l l' : Location} (h : t.Writable p l)
    (h' : t.locate p = .ok l') : l' = l := by
  rw [h.locate_eq, Except.ok.injEq] at h'
  exact h'.symm

theorem Writable.mayWrite {t : FileTree} {p : Path} {l : Location} (h : t.Writable p l) :
    t.MayWrite p := by
  intro l' hl'
  rw [h.unique hl']
  exact h.permitted

theorem writable_of_read {t : FileTree} {p : Path} {content : Bytes}
    (hread : t.read p = .ok content) (hmay : t.MayWrite p) : ∃ l, t.Writable p l := by
  obtain ⟨hnull, l, hlocate, -, hl⟩ := read_eq_ok_iff.1 hread
  exact ⟨l, hnull, hlocate, by simp [hl], hmay l hlocate⟩

theorem target_eq_ok_iff {t : FileTree} {p : Path} {l : Location} :
    t.target p = .ok l ↔ t.Writable p l := by
  unfold target
  constructor
  · intro h
    split at h
    · cases h
    next hnull =>
      split at h
      · cases h
      next l' hlocate =>
        split at h
        · cases h
        next hdirectory =>
          split at h
          · cases h
          next hpermitted =>
            cases h
            exact ⟨by simpa using hnull, hlocate, hdirectory, hpermitted⟩
  · intro h
    rw [if_neg (by simp [h.noNull]), h.locate_eq]
    dsimp only
    rw [if_neg h.notDirectory, if_neg h.permitted]

namespace SameDirectories

variable {t t' : FileTree} {p : Path}

theorem mayRead_iff (h : SameDirectories t t') : t.MayRead p ↔ t'.MayRead p := by
  unfold MayRead
  simp only [h.locate_eq_ok_iff, h.limits_eq]

theorem mayWrite_iff (h : SameDirectories t t') : t.MayWrite p ↔ t'.MayWrite p := by
  unfold MayWrite
  simp only [h.locate_eq_ok_iff, h.limits_eq]

theorem find?_eq (h : SameDirectories t t')
    (hplace : ∀ l, t'.locate p = .ok l → t.lookup? l = t'.lookup? l) : t.find? p = t'.find? p := by
  unfold find?
  cases hlocate : t'.locate p with
  | ok l =>
      rw [h.locate_eq_ok_iff.2 hlocate]
      exact hplace l hlocate
  | error fault =>
      cases hlocate' : t.locate p with
      | error fault' => rfl
      | ok l =>
          rw [h.locate_eq_ok_iff.1 hlocate'] at hlocate
          cases hlocate

theorem read_eq_ok_iff (h : SameDirectories t t') (hfind : t.find? p = t'.find? p)
    {content : Bytes} : t.read p = .ok content ↔ t'.read p = .ok content := by
  rw [read_eq_ok_iff_find?, read_eq_ok_iff_find?, h.mayRead_iff, hfind]

end SameDirectories

theorem SameDirectories.writable_iff {t t' : FileTree} (h : SameDirectories t t') {p : Path}
    {l : Location} : t.Writable p l ↔ t'.Writable p l := by
  have htransfer : ∀ {u u' : FileTree}, SameDirectories u u' → u.Writable p l →
      u'.Writable p l := by
    intro u u' hu hwritable
    refine ⟨hwritable.noNull, hu.locate_eq_ok_iff.1 hwritable.locate_eq, ?_, ?_⟩
    · intro hdirectory
      exact hwritable.notDirectory ((hu.directory_iff l).2 hdirectory)
    · rw [← hu.limits_eq]
      exact hwritable.permitted
  exact ⟨htransfer h, htransfer h.symm⟩

theorem SameDirectories.target_eq_ok_iff {t t' : FileTree} (h : SameDirectories t t') {p : Path}
    {l : Location} : t.target p = .ok l ↔ t'.target p = .ok l := by
  rw [FileTree.target_eq_ok_iff, FileTree.target_eq_ok_iff, h.writable_iff]

theorem AgreeOutside.target_congr {changed : Set Location} {t t' : FileTree}
    (h : AgreeOutside changed t t') {p : Path} (hway : ∀ l ∈ t'.way p, l ∉ changed)
    (hplace : ∀ l, t'.locate p = .ok l → l ∉ changed) : t.target p = t'.target p := by
  unfold target
  rw [h.locate_congr hway, h.limits_eq]
  cases hlocate : t'.locate p with
  | error fault => rfl
  | ok l =>
      dsimp only
      rw [h.lookup_eq l (hplace l hlocate)]

/-! ## Writing -/

/-- No write to the tree breaks off. -/
def WritesComplete (t : FileTree) : Prop :=
  ∀ l content, t.stored l content = content

theorem stored_congr {t t' : FileTree} (h : t.limits = t'.limits) (l : Location)
    (content : Bytes) : t.stored l content = t'.stored l content := by
  unfold stored
  rw [h]

theorem WritesComplete.congr {t t' : FileTree} (h : t'.WritesComplete)
    (hlimits : t.limits = t'.limits) : t.WritesComplete := by
  intro l content
  rw [stored_congr hlimits, h l content]

theorem writesComplete_of_room {t : FileTree} (h : t.limits.room = []) : t.WritesComplete := by
  intro l content
  rw [stored, h]
  rfl

theorem stored_prefix (t : FileTree) (l : Location) (content : Bytes) :
    t.stored l content <+: content := by
  unfold stored
  split
  · exact List.prefix_refl content
  · exact List.take_prefix _ content

/-- The file at the path holds a front of the content and no more. -/
def HoldsFront (t : FileTree) (p : Path) (content : Bytes) : Prop :=
  ∃ kept, kept <+: content ∧ kept ≠ content ∧ t.find? p = some (.file kept)

theorem write_of_target_eq_error {t : FileTree} {p : Path} {e : FileError}
    (h : t.target p = .error e) (content : Bytes) : t.write p content = (t, .error e) := by
  rw [write, h]

namespace Writable

variable {t : FileTree} {p : Path} {l : Location}

theorem write_eq (h : t.Writable p l) (content : Bytes) :
    t.write p content = (t.set l (.file (t.stored l content)),
      if t.stored l content = content then .ok () else .error .brokenOff) := by
  rw [write, target_eq_ok_iff.2 h]

theorem agreeOutside_set (h : t.Writable p l) (content : Bytes) :
    AgreeOutside {l} (t.set l (.file content)) t :=
  FileTree.agreeOutside_set t h.ne_nil _

theorem sameDirectories_set (h : t.Writable p l) (content : Bytes) :
    SameDirectories (t.set l (.file content)) t := by
  refine ⟨rfl, rfl, ?_⟩
  intro l'
  rw [lookup?_set t _ h.ne_nil]
  split
  next heq => simp [heq, h.notDirectory]
  next => exact Iff.rfl

theorem lookup?_set_of_locate_ne (h : t.Writable p l) (content : Bytes) {l' : Location}
    (hl' : t.locate p ≠ .ok l') : (t.set l (.file content)).lookup? l' = t.lookup? l' := by
  apply (h.agreeOutside_set content).lookup_eq
  rintro rfl
  exact hl' h.locate_eq

theorem lookup?_set_self (h : t.Writable p l) (content : Bytes) :
    (t.set l (.file content)).lookup? l = some (.file content) := by
  rw [lookup?_set t _ h.ne_nil, if_pos rfl]

theorem find?_set (h : t.Writable p l) (content : Bytes) :
    (t.set l (.file content)).find? p = some (.file content) := by
  rw [find?, (h.sameDirectories_set content).locate_eq_ok_iff.2 h.locate_eq]
  exact h.lookup?_set_self content

theorem holdsFront_set (h : t.Writable p l) {content : Bytes}
    (hbreaks : t.stored l content ≠ content) :
    (t.set l (.file (t.stored l content))).HoldsFront p content :=
  ⟨_, t.stored_prefix l content, hbreaks, h.find?_set _⟩

end Writable

/-- How a write can end: it is refused and changes nothing, is done, or breaks off and leaves
the front of its content behind. -/
inductive WriteEnd (t : FileTree) (p : Path) (content : Bytes) :
    FileTree × Except FileError Unit → Prop
  | refused {e : FileError} (htarget : t.target p = .error e) :
      WriteEnd t p content (t, .error e)
  | done {l : Location} (hwritable : t.Writable p l) (hfits : t.stored l content = content) :
      WriteEnd t p content (t.set l (.file content), .ok ())
  | brokenOff {l : Location} (hwritable : t.Writable p l)
      (hbreaks : t.stored l content ≠ content) :
      WriteEnd t p content (t.set l (.file (t.stored l content)), .error .brokenOff)

theorem writeEnd_write (t : FileTree) (p : Path) (content : Bytes) :
    WriteEnd t p content (t.write p content) := by
  cases htarget : t.target p with
  | error e =>
      rw [write_of_target_eq_error htarget]
      exact .refused htarget
  | ok l =>
      have hwritable := target_eq_ok_iff.1 htarget
      rw [hwritable.write_eq]
      by_cases hfits : t.stored l content = content
      · rw [if_pos hfits, hfits]
        exact .done hwritable hfits
      · rw [if_neg hfits]
        exact .brokenOff hwritable hfits

end UnitReducer.FileTree
