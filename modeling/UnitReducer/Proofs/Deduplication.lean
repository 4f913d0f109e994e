import UnitReducer.Database
import UnitReducer.Proofs.PathComponents
import Mathlib.Data.List.Nodup
/-!
# Which commands a database keeps

`firstsBy` picks the first command of every key.  Deduplication does so for the
file as it is written in the database, and not for the place that the file has
when it is seen from its directory.  `dedupe_keepsFirsts_iff` says on which
databases the two come to the same.
-/

namespace UnitReducer

/-! ## First commands -/

namespace Database

/-- The command `c` stands at position `i`, and none before it has its key. -/
def IsFirst (key : CompileCommand → Path) (commands : List CompileCommand) (i : Nat)
    (c : CompileCommand) : Prop :=
  commands[i]? = some c ∧ key c ∉ (commands.take i).map key

def firstsBy (key : CompileCommand → Path) (commands : List CompileCommand) :
    List CompileCommand :=
  (commands.zipIdx.filter fun x => key x.1 ∉ (commands.take x.2).map key).map Prod.fst

/-- Of the commands of a list, `kept` are the first ones of every key.  So no key
is lost, and none is kept twice. -/
structure KeepsFirsts (key : CompileCommand → Path) (commands kept : List CompileCommand) :
    Prop where
  firsts : kept = firstsBy key commands
  covers : ∀ c ∈ commands, ∃ d ∈ kept, key d = key c
  apart : (kept.map key).Nodup

section

variable {key key' : CompileCommand → Path} {commands : List CompileCommand}

theorem IsFirst.le {i j : Nat} {c d : CompileCommand} (hc : IsFirst key commands i c)
    (hd : commands[j]? = some d) (hkey : key d = key c) : i ≤ j := by
  by_contra hlt
  have hmem : d ∈ commands.take i := by
    apply List.mem_of_getElem? (i := j)
    rw [List.getElem?_take_of_lt (by omega), hd]
  apply hc.2
  rw [← hkey]
  exact List.mem_map_of_mem hmem

theorem mem_zipIdx_filter_iff {x : CompileCommand × Nat} :
    x ∈ commands.zipIdx.filter (fun x => key x.1 ∉ (commands.take x.2).map key) ↔
      IsFirst key commands x.2 x.1 := by
  rw [List.mem_filter, List.mem_zipIdx_iff_getElem?, decide_eq_true_eq, IsFirst]

theorem mem_firstsBy {c : CompileCommand} :
    c ∈ firstsBy key commands ↔ ∃ i, IsFirst key commands i c := by
  rw [firstsBy, List.mem_map]
  constructor
  · rintro ⟨x, hx, rfl⟩
    exact ⟨x.2, mem_zipIdx_filter_iff.1 hx⟩
  · rintro ⟨i, hc⟩
    exact ⟨(c, i), mem_zipIdx_filter_iff.2 hc, rfl⟩

theorem exists_isFirst (key : CompileCommand → Path) {i : Nat} {c : CompileCommand}
    (hc : commands[i]? = some c) :
    ∃ j d, IsFirst key commands j d ∧ key d = key c := by
  induction i using Nat.strongRecOn generalizing c with
  | ind i ih =>
      -- a command that is not the first of its key has one of that key in front
      by_cases hkey : key c ∈ (commands.take i).map key
      · obtain ⟨d, hd, hdc⟩ := List.mem_map.1 hkey
        obtain ⟨j, hj⟩ := List.mem_iff_getElem?.1 hd
        rw [List.getElem?_take] at hj
        split at hj
        next hlt =>
          obtain ⟨k, e, he, hed⟩ := ih j hlt hj
          exact ⟨k, e, he, hed.trans hdc⟩
        next => cases hj
      · exact ⟨i, c, ⟨hc, hkey⟩, rfl⟩

theorem firstsBy_covers {c : CompileCommand} (hc : c ∈ commands) :
    ∃ d ∈ firstsBy key commands, key d = key c := by
  obtain ⟨i, hi⟩ := List.mem_iff_getElem?.1 hc
  obtain ⟨j, d, hd, hkey⟩ := exists_isFirst key hi
  exact ⟨d, mem_firstsBy.2 ⟨j, hd⟩, hkey⟩

theorem nodup_map_firstsBy : ((firstsBy key commands).map key).Nodup := by
  have hpositions : (commands.zipIdx.map Prod.snd).Nodup := by
    rw [List.zipIdx_map_snd]
    exact List.nodup_range'
  rw [firstsBy, List.map_map]
  apply List.Nodup.map_on
  · intro x hx y hy hkey
    have hfirst := mem_zipIdx_filter_iff.1 hx
    have hfirst' := mem_zipIdx_filter_iff.1 hy
    have hposition : x.2 = y.2 :=
      Nat.le_antisymm (hfirst.le hfirst'.1 hkey.symm) (hfirst'.le hfirst.1 hkey)
    have hcommand : some x.1 = some y.1 := by
      rw [← hfirst.1, ← hfirst'.1, hposition]
    exact Prod.ext (Option.some.inj hcommand) hposition
  · exact (List.Nodup.of_map _ hpositions).filter _

theorem keepsFirsts_iff {kept : List CompileCommand} :
    KeepsFirsts key commands kept ↔ kept = firstsBy key commands := by
  constructor
  · exact KeepsFirsts.firsts
  · rintro rfl
    exact ⟨rfl, fun c hc => firstsBy_covers hc, nodup_map_firstsBy⟩

theorem IsFirst.of_mem_firstsBy {i : Nat} {c : CompileCommand}
    (hc : IsFirst key commands i c) (hmem : c ∈ firstsBy key' commands) :
    IsFirst key' commands i c := by
  obtain ⟨j, hc'⟩ := mem_firstsBy.1 hmem
  have hposition : i = j := Nat.le_antisymm (hc.le hc'.1 rfl) (hc'.le hc.1 rfl)
  rwa [hposition]

theorem firstsBy_eq_iff :
    firstsBy key commands = firstsBy key' commands ↔
      ∀ i c, IsFirst key commands i c ↔ IsFirst key' commands i c := by
  constructor
  · intro h i c
    constructor
    · intro hc
      have hmem : c ∈ firstsBy key commands := mem_firstsBy.2 ⟨i, hc⟩
      exact hc.of_mem_firstsBy (h ▸ hmem)
    · intro hc
      have hmem : c ∈ firstsBy key' commands := mem_firstsBy.2 ⟨i, hc⟩
      exact hc.of_mem_firstsBy (h ▸ hmem)
  · intro h
    unfold firstsBy
    apply congrArg
    apply List.filter_congr
    intro x hx
    have hget := List.mem_zipIdx_iff_getElem?.1 hx
    rw [decide_eq_decide]
    constructor
    · intro hkey
      exact ((h x.2 x.1).1 ⟨hget, hkey⟩).2
    · intro hkey
      exact ((h x.2 x.1).2 ⟨hget, hkey⟩).2

theorem isFirst_congr
    (h : ∀ c ∈ commands, ∀ d ∈ commands, key c = key d ↔ key' c = key' d) (i : Nat)
    (c : CompileCommand) : IsFirst key commands i c ↔ IsFirst key' commands i c := by
  unfold IsFirst
  apply and_congr_right
  intro hc
  have hmem := List.mem_of_getElem? hc
  apply not_congr
  simp only [List.mem_map]
  apply exists_congr
  intro d
  apply and_congr_right
  intro hd
  exact h d (List.mem_of_mem_take hd) c hmem

end

/-! ## The commands that are kept -/

theorem partByFile_eq {before : List CompileCommand} {seen : List Path}
    (hseen : ∀ path, path ∈ seen ↔ path ∈ before.map CompileCommand.file)
    (commands : List CompileCommand) :
    (partByFile seen commands).1 =
      ((commands.zipIdx before.length).filter fun x =>
        x.1.file ∉ ((before ++ commands).take x.2).map CompileCommand.file).map Prod.fst := by
  induction commands generalizing before seen with
  | nil => rfl
  | cons c commands ih =>
      have hbehind : before ++ c :: commands = (before ++ [c]) ++ commands := by simp
      have hlength : before.length + 1 = (before ++ [c]).length := by simp
      have htake : ((before ++ [c]) ++ commands).take before.length = before := by simp
      rw [partByFile, List.zipIdx_cons, List.filter_cons, hbehind, hlength]
      dsimp only
      rw [htake]
      by_cases hc : c.file ∈ seen
      · have hc' := (hseen c.file).1 hc
        have hseen' : ∀ path, path ∈ seen ↔
            path ∈ (before ++ [c]).map CompileCommand.file := by
          intro path
          rw [List.map_append, List.mem_append, ← hseen]
          constructor
          · exact Or.inl
          · rintro (hpath | hpath)
            · exact hpath
            · rw [List.map_singleton, List.mem_singleton] at hpath
              rwa [hpath]
        rw [if_pos hc, if_neg (by simpa using hc')]
        exact ih hseen'
      · have hc' := mt (hseen c.file).2 hc
        have hseen' : ∀ path, path ∈ c.file :: seen ↔
            path ∈ (before ++ [c]).map CompileCommand.file := by
          intro path
          rw [List.map_append, List.mem_append, ← hseen, List.mem_cons, List.map_singleton,
            List.mem_singleton, or_comm]
        rw [if_neg hc, if_pos (by simpa using hc'), List.map_cons, ← ih hseen']

theorem dedupe_eq_firstsBy (commands : List CompileCommand) :
    (dedupe commands).1 = firstsBy CompileCommand.file commands := by
  have hnone : ∀ path, path ∈ ([] : List Path) ↔
      path ∈ ([] : List CompileCommand).map CompileCommand.file := by simp
  exact partByFile_eq hnone commands

end Database

/-! ## Files and source paths -/

namespace CompileCommand

theorem sourcePath_of_isAbsolute {c : CompileCommand} (h : c.file.isAbsolute = true) :
    c.sourcePath = c.file := by
  rw [sourcePath, Path.join, if_pos h]

theorem file_eq_iff_of_directory_eq {c d : CompileCommand}
    (hdirectory : c.directory = d.directory) (hc : c.file.isAbsolute = false)
    (hd : d.file.isAbsolute = false) : c.file = d.file ↔ c.sourcePath = d.sourcePath := by
  constructor
  · intro h
    rw [sourcePath, sourcePath, hdirectory, h]
  · intro h
    have hnames : c.file.names = d.file.names := by
      simpa [sourcePath, Path.join, hc, hd, hdirectory] using h
    have hroot : c.file.root = d.file.root := by
      rw [Path.isAbsolute_eq_false_iff.1 hc, Path.isAbsolute_eq_false_iff.1 hd]
    exact Path.eq_of_root_names hroot hnames

end CompileCommand

namespace Database

/-- All files are given by absolute paths, or all by relative ones that are seen
from one directory. -/
def UniformFiles (commands : List CompileCommand) : Prop :=
  (∀ c ∈ commands, c.file.isAbsolute = true) ∨
    ∃ directory, ∀ c ∈ commands, c.directory = directory ∧ c.file.isAbsolute = false

theorem UniformFiles.file_eq_iff {commands : List CompileCommand} (h : UniformFiles commands)
    {c d : CompileCommand} (hc : c ∈ commands) (hd : d ∈ commands) :
    c.file = d.file ↔ c.sourcePath = d.sourcePath := by
  rcases h with habsolute | ⟨directory, hrelative⟩
  · rw [CompileCommand.sourcePath_of_isAbsolute (habsolute c hc),
      CompileCommand.sourcePath_of_isAbsolute (habsolute d hd)]
  · have hdirectory : c.directory = d.directory :=
      (hrelative c hc).1.trans (hrelative d hd).1.symm
    exact CompileCommand.file_eq_iff_of_directory_eq hdirectory (hrelative c hc).2
      (hrelative d hd).2

/-- Deduplication keeps the first command of every file as it is written.  These
are the first commands of all source paths exactly when the same commands are
first for either, as they are in a database with files of one kind. -/
theorem dedupe_keepsFirsts_iff (commands : List CompileCommand) :
    KeepsFirsts CompileCommand.file commands (dedupe commands).1 ∧
      (KeepsFirsts CompileCommand.sourcePath commands (dedupe commands).1 ↔
        ∀ i c, IsFirst CompileCommand.file commands i c ↔
          IsFirst CompileCommand.sourcePath commands i c) ∧
      (UniformFiles commands →
        KeepsFirsts CompileCommand.sourcePath commands (dedupe commands).1) := by
  have hfirsts : KeepsFirsts CompileCommand.sourcePath commands (dedupe commands).1 ↔
      ∀ i c, IsFirst CompileCommand.file commands i c ↔
        IsFirst CompileCommand.sourcePath commands i c := by
    rw [keepsFirsts_iff, dedupe_eq_firstsBy, firstsBy_eq_iff]
  refine ⟨keepsFirsts_iff.2 (dedupe_eq_firstsBy commands), hfirsts, ?_⟩
  intro huniform
  apply hfirsts.2
  exact isFirst_congr fun c hc d hd => huniform.file_eq_iff hc hd

def clashingCommands : List CompileCommand :=
  [⟨Path.ofText "/a".toList, Path.ofText "x.c".toList, some ["cc".toList], none⟩,
    ⟨Path.ofText "/b".toList, Path.ofText "x.c".toList, some ["cc".toList], none⟩,
    ⟨Path.ofText "/a".toList, Path.ofText "/a/x.c".toList, some ["cc".toList], none⟩]

/-- The file `/b/x.c` is lost, and `/a/x.c` is kept twice. -/
theorem dedupe_loses_and_doubles :
    ¬ (∀ c ∈ clashingCommands,
        ∃ d ∈ (dedupe clashingCommands).1, d.sourcePath = c.sourcePath) ∧
      ¬ ((dedupe clashingCommands).1.map CompileCommand.sourcePath).Nodup := by
  decide +kernel

end Database

end UnitReducer
