import UnitReducer.Proofs.RetentionRule
/-!
# Collections of expanded headers

The second pass of a reduction takes any collection of expanded headers.  It looks at
those outside the system only, and as a set.  More of them make more include
directives redundant and change nothing else (`reconstruct_antitone`).
-/

namespace UnitReducer.Reduction

theorem fates_congr {headers headers' : List Text}
    (hverdicts : ∀ path, redundant headers path = redundant headers' path)
    (isSystem : Text → Bool) (inSystem : Bool) (lines : List Line) :
    fates isSystem headers inSystem lines = fates isSystem headers' inSystem lines := by
  induction lines generalizing inSystem with
  | nil => rfl
  | cons line lines ih =>
      have hfate : fate headers inSystem line = fate headers' inSystem line := by
        cases line with
        | marker number path text => rfl
        | other text => rfl
        | included path text => rw [fate, fate, hverdicts path]
      rw [fates, fates, hfate, ih]

/-! ## The same headers outside the system -/

section

variable {isSystem : Text → Bool} {expanded expanded' : List Text}

theorem redundant_localHeaders_congr
    (hsame : ∀ header, isSystem header = false → (header ∈ expanded ↔ header ∈ expanded'))
    (path : Text) :
    redundant (localHeaders isSystem expanded) path =
      redundant (localHeaders isSystem expanded') path := by
  rw [Bool.eq_iff_iff, ← not_iff_not, Bool.not_eq_true, Bool.not_eq_true,
    redundant_localHeaders_iff, redundant_localHeaders_iff]
  apply forall_congr'
  intro header
  constructor
  · intro h hmem hlocal
    exact h ((hsame header hlocal).2 hmem) hlocal
  · intro h hmem hlocal
    exact h ((hsame header hlocal).1 hmem) hlocal

theorem judge_localHeaders_congr
    (hsame : ∀ header, isSystem header = false → (header ∈ expanded ↔ header ∈ expanded'))
    (lines : List Line) :
    judge isSystem (localHeaders isSystem expanded) .start lines =
      judge isSystem (localHeaders isSystem expanded') .start lines := by
  rw [judge_eq_fates, judge_eq_fates]
  exact fates_congr (redundant_localHeaders_congr hsame) isSystem false lines

theorem reconstruct_congr
    (hsame : ∀ header, isSystem header = false → (header ∈ expanded ↔ header ∈ expanded'))
    (lines : List Line) :
    reconstruct isSystem expanded lines = reconstruct isSystem expanded' lines := by
  unfold reconstruct
  rw [judge_localHeaders_congr hsame]

theorem report_congr
    (hsame : ∀ header, isSystem header = false → (header ∈ expanded ↔ header ∈ expanded'))
    (lines : List Line) :
    report isSystem expanded lines =
      { report isSystem expanded' lines with expandedHeaders := (distinct expanded).length } := by
  unfold report
  rw [judge_localHeaders_congr hsame]

end

/-! ## More headers outside the system -/

/-- An include directive of which a header outside the system is in `expanded'`, and
none is in `expanded`. -/
def BecomesRedundant (isSystem : Text → Bool) (expanded expanded' : List Text) : Line → Prop
  | .included path _ =>
    (∃ header ∈ expanded', isSystem header = false ∧ Header.same header path = true) ∧
      ∀ header ∈ expanded, isSystem header = false → Header.same header path = false
  | .marker .. => False
  | .other _ => False

instance (isSystem : Text → Bool) (expanded expanded' : List Text) :
    (line : Line) → Decidable (BecomesRedundant isSystem expanded expanded' line)
  | .included path _ => inferInstanceAs (Decidable
      ((∃ header ∈ expanded', isSystem header = false ∧ Header.same header path = true) ∧
        ∀ header ∈ expanded, isSystem header = false → Header.same header path = false))
  | .marker .. => isFalse id
  | .other _ => isFalse id

section

variable {isSystem : Text → Bool} {expanded expanded' : List Text}

theorem keeps_iff_of_subset
    (hsub : ∀ header ∈ expanded, isSystem header = false → header ∈ expanded')
    (lines : List Line) (i : Nat) (line : Line) :
    Keeps isSystem expanded' lines i line ↔
      Keeps isSystem expanded lines i line ∧
        ¬ BecomesRedundant isSystem expanded expanded' line := by
  cases line with
  | marker number path text => simp [Keeps, BecomesRedundant]
  | other text => simp [Keeps, BecomesRedundant]
  | included path text =>
      constructor
      · rintro ⟨houtside, hnone⟩
        refine ⟨⟨houtside, ?_⟩, ?_⟩
        · intro header hmem hlocal
          exact hnone header (hsub header hmem hlocal) hlocal
        · rintro ⟨⟨header, hmem, hlocal, hsame⟩, -⟩
          rw [hnone header hmem hlocal] at hsame
          cases hsame
      · rintro ⟨⟨houtside, hnone⟩, hstays⟩
        refine ⟨houtside, ?_⟩
        intro header hmem hlocal
        cases hsame : Header.same header path with
        | false => rfl
        | true => exact absurd ⟨⟨header, hmem, hlocal, hsame⟩, hnone⟩ hstays

theorem keptLines_eq_filter
    (hsub : ∀ header ∈ expanded, isSystem header = false → header ∈ expanded')
    (lines : List Line) :
    keptLines isSystem expanded' lines =
      (keptLines isSystem expanded lines).filter fun line =>
        ¬ BecomesRedundant isSystem expanded expanded' line := by
  rw [keptLines, keptLines, List.filter_map, List.filter_filter]
  apply congrArg
  apply List.filter_congr
  intro x _
  simp only [keeps_iff_of_subset hsub, Function.comp_def, Bool.decide_and, Bool.and_comm]

theorem keptLines_sublist_of_subset
    (hsub : ∀ header ∈ expanded, isSystem header = false → header ∈ expanded')
    (lines : List Line) :
    (keptLines isSystem expanded' lines).Sublist
      (keptLines isSystem expanded lines) := by
  rw [keptLines_eq_filter hsub]
  exact List.filter_sublist

end

/-- The second pass is antitone in the headers outside the system: with more of them
the lines that stay lose just the include directives that become redundant.  With the
same ones its text is the same, whatever their order and number and whatever the
system headers beside them. -/
theorem reconstruct_antitone (isSystem : Text → Bool) (lines : List Line)
    (expanded expanded' : List Text) :
    (∀ headers, reconstruct isSystem headers lines =
      Text.unlines ((keptLines isSystem headers lines).map Line.render)) ∧
    ((∀ header ∈ expanded, isSystem header = false → header ∈ expanded') →
      (keptLines isSystem expanded' lines).Sublist
          (keptLines isSystem expanded lines) ∧
        keptLines isSystem expanded' lines =
          (keptLines isSystem expanded lines).filter fun line =>
            ¬ BecomesRedundant isSystem expanded expanded' line) ∧
    ((∀ header, isSystem header = false → (header ∈ expanded ↔ header ∈ expanded')) →
      reconstruct isSystem expanded lines = reconstruct isSystem expanded' lines) := by
  refine ⟨fun headers => reconstruct_eq_unlines isSystem headers lines, ?_, ?_⟩
  · intro hsub
    exact ⟨keptLines_sublist_of_subset hsub lines, keptLines_eq_filter hsub lines⟩
  · intro hsame
    exact reconstruct_congr hsame lines

def threeIncludes : List Line :=
  [.included "a.h".toList [], .included "b.h".toList [], .included "c.h".toList [],
    .other "int a;".toList]

/-- One more header outside the system takes one more include directive away.  The order
of the headers, a repetition and a system header beside them do not matter. -/
theorem reconstruct_antitone_three_includes :
    let isSystem := Header.underRoots Header.defaultRoots
    let few := ["/x/c.h".toList]
    let more := ["/usr/b.h".toList, "/x/a.h".toList, "/x/c.h".toList]
    let same := ["/x/c.h".toList, "/x/a.h".toList, "/x/c.h".toList]
    (∀ header ∈ few, isSystem header = false → header ∈ more) ∧
      (keptLines isSystem more threeIncludes).Sublist
        (keptLines isSystem few threeIncludes) ∧
      (keptLines isSystem more threeIncludes =
        (keptLines isSystem few threeIncludes).filter fun line =>
          ¬ BecomesRedundant isSystem few more line) ∧
      (keptLines isSystem few threeIncludes).length = 3 ∧
      (keptLines isSystem more threeIncludes).length = 2 ∧
      (∀ header, isSystem header = false → (header ∈ more ↔ header ∈ same)) ∧
      reconstruct isSystem more threeIncludes = reconstruct isSystem same threeIncludes := by
  intro isSystem few more same
  have hsub : ∀ header ∈ few, isSystem header = false → header ∈ more := by
    decide +kernel
  have hlocal : ∀ header, isSystem header = false → (header ∈ more ↔ header ∈ same) := by
    intro header hheader
    have hsystem : isSystem "/usr/b.h".toList = true := by decide +kernel
    have hne : header ≠ "/usr/b.h".toList := by
      rintro rfl
      rw [hsystem] at hheader
      cases hheader
    simp only [more, same, List.mem_cons, List.not_mem_nil, hne, false_or, or_false]
    grind
  obtain ⟨-, hmore, -⟩ := reconstruct_antitone isSystem threeIncludes few more
  obtain ⟨-, -, hsame⟩ := reconstruct_antitone isSystem threeIncludes more same
  exact ⟨hsub, (hmore hsub).1, (hmore hsub).2, by decide +kernel, by decide +kernel, hlocal,
    hsame hlocal⟩

end UnitReducer.Reduction
