import UnitReducer.Proofs.RunEffect
import Mathlib.Data.List.Nodup
/-!
# The list of files to patch

Which paths the second stage of a run goes through, in which order
(`Pipeline.listsFirsts_filesToPatch`).  A source file that the first stage preprocesses is
named once in that list and is patched as a source
(`Pipeline.stages_agree_on_sources`).
-/

namespace UnitReducer

/-! ## First occurrences -/

/-- The members of `all`, each once, in the order in which they first occur there. -/
structure ListsFirsts (all listed : List Path) : Prop where
  nodup : listed.Nodup
  mem_iff : ∀ p, p ∈ listed ↔ p ∈ all
  ordered : listed.Pairwise fun p q => all.idxOf p < all.idxOf q

theorem pairwise_idxOf_distinct (all : List Path) :
    (distinct all).Pairwise fun p q => all.idxOf p < all.idxOf q := by
  induction all with
  | nil => exact List.Pairwise.nil
  | cons p all ih =>
      have hrest : ∀ q ∈ (distinct all).filter fun q => q ≠ p, p ≠ q := by
        intro q hq
        have hne := (List.mem_filter.1 hq).2
        rw [decide_eq_true_eq] at hne
        exact hne.symm
      rw [distinct, List.pairwise_cons]
      constructor
      · intro q hq
        rw [List.idxOf_cons_self, List.idxOf_cons_ne all (hrest q hq)]
        exact Nat.succ_pos _
      · apply (ih.filter _).imp_of_mem
        intro q r hq hr hlt
        rw [List.idxOf_cons_ne all (hrest q hq), List.idxOf_cons_ne all (hrest r hr)]
        exact Nat.succ_lt_succ hlt

theorem listsFirsts_distinct (all : List Path) : ListsFirsts all (distinct all) :=
  ⟨nodup_distinct all, fun _ => mem_distinct, pairwise_idxOf_distinct all⟩

namespace Pipeline

variable {header : Option Text} {tree : FileTree} {path : Path} {paths : List Path}
  {rows : List PatchRow}

/-! ## Source files -/

theorem listsFirsts_filesToPatch (commands : List CompileCommand) (extra : List Path) :
    ListsFirsts
      ((commands.filter fun c => c.file.isPatched).map CompileCommand.sourcePath ++ extra)
      (filesToPatch commands extra) :=
  listsFirsts_distinct _

/-- One patch of the list, and no other, is that of the file at the path.  Its row holds
the outcome, and what it leaves is what the next patch finds. -/
def PatchedOnce (header : Option Text) (tree : FileTree) (paths : List Path)
    (rows : List PatchRow) (path : Path) (isSource : Bool) : Prop :=
  ∃ k, (∀ (j : Nat) (row : PatchRow), rows[j]? = some row → row.file = path → j = k) ∧
    rows[k]? = some ⟨path, ((treeAfter header tree paths k).patchFile header isSource path).2⟩ ∧
    treeAfter header tree paths (k + 1) =
      ((treeAfter header tree paths k).patchFile header isSource path).1

theorem patchedOnce_of_mem (hnodup : paths.Nodup) (hpath : path ∈ paths)
    (h : (patchEach header tree paths).result = .ok rows) :
    PatchedOnce header tree paths rows path path.isSource := by
  obtain ⟨k, hk⟩ := List.getElem?_of_mem hpath
  refine ⟨k, ?_, getElem?_patchEach h hk⟩
  intro j row hj hfile
  have hpath' : paths[j]? = some path := by
    rw [← map_file_patchEach h, List.getElem?_map, hj, Option.map_some, hfile]
  exact (List.getElem?_inj (List.getElem?_eq_some_iff.1 hpath').1 hnodup).1 (hpath'.trans hk.symm)

/-- What both stages do with the source file of a command. -/
structure PatchedAsSource (commands : List CompileCommand) (extra : List Path)
    (c : CompileCommand) : Prop where
  /-- The first stage writes the file at the source path. -/
  overwritten : ∀ tools isSystem tree report,
    (c.preprocess tools isSystem tree).result = .ok report →
      ∃ text l, tree.Writable c.sourcePath l ∧
        (c.preprocess tools isSystem tree).tree = tree.set l (.file (Utf8.encode text))
  isSource : c.sourcePath.isSource = true
  listed : (filesToPatch commands extra).count c.sourcePath = 1
  /-- The second stage patches the file as a source file. -/
  patched : ∀ options tree rows, options.files = extra →
    (patchStage options tree commands).result = .ok rows →
      PatchedOnce options.header tree (filesToPatch commands extra) rows c.sourcePath true

/-- The files to patch are the source paths of the headers and sources of the
database and then the paths given besides, each once and in the order of first
occurrence.  The file that the first stage overwrites for a command is named once
among them, and is patched as a source file. -/
theorem stages_agree_on_sources (commands : List CompileCommand) (extra : List Path) :
    ListsFirsts
      ((commands.filter fun c => c.file.isPatched).map CompileCommand.sourcePath ++ extra)
      (filesToPatch commands extra) ∧
    ∀ c ∈ sources commands, PatchedAsSource commands extra c := by
  have hlists := listsFirsts_filesToPatch commands extra
  refine ⟨hlists, ?_⟩
  intro c hc
  have hmem := mem_filesToPatch_of_mem_sources hc extra
  have hsource := CompileCommand.isSource_sourcePath (List.mem_filter.1 hc).2
  refine ⟨?_, hsource, List.count_eq_one_of_mem hlists.nodup hmem, ?_⟩
  · intro tools isSystem tree report hreport
    have hend := c.preprocessEnd_preprocess tools isSystem tree
    generalize (c.preprocess tools isSystem tree).tree = left at hend ⊢
    rw [hreport] at hend
    cases hend with
    | written hreduced hwritable hfits => exact ⟨_, _, hwritable, rfl⟩
  · rintro options tree rows rfl hrows
    have honce := patchedOnce_of_mem hlists.nodup hmem (patchStage_eq_ok_iff.1 hrows)
    rwa [hsource] at honce

end Pipeline

end UnitReducer
