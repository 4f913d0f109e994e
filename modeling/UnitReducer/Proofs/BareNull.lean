import UnitReducer.Patch.Null
import UnitReducer.Proofs.Substitutions
/-!
# Bare `NULL` after wrapping

A match takes the neighbours of a `NULL` along with it, so two that stand on both
sides of one character cannot both be matched.  One pass leaves a bare `NULL`
exactly where the text has such a pair, and a second pass wraps what was left
(`wrapNull_leaves_none_bare_iff`).
-/

namespace UnitReducer.Patch

/-! ## Places -/

def NullAhead (t : Text) : Prop :=
  ∃ b rest, t = null ++ b :: rest ∧ nullCloser b = true

def BareHere (t : Text) : Prop :=
  ∃ a rest, t = a :: rest ∧ nullOpener a = true ∧ NullAhead rest

def SharedHere (t : Text) : Prop :=
  ∃ a b rest, t = a :: (null ++ b :: rest) ∧ nullOpener a = true ∧ nullCloser b = true ∧
    BareHere (b :: rest)

/-- A `NULL` between two characters that neither extend it nor enclose it. -/
def HasBareNull (t : Text) : Prop :=
  ∃ before a b after, t = before ++ a :: (null ++ b :: after) ∧
    nullOpener a = true ∧ nullCloser b = true

/-- Two bare `NULL`s with a single character between them. -/
def SharesNeighbour (t : Text) : Prop :=
  ∃ before a b c after, t = before ++ a :: (null ++ b :: (null ++ c :: after)) ∧
    nullOpener a = true ∧ nullCloser b = true ∧ nullOpener b = true ∧ nullCloser c = true

theorem nullOpener_of_mem_null {c : Char} (hc : c ∈ null) : nullOpener c = false := by
  have hletters : (null.all fun c => !nullOpener c) = true := by decide +kernel
  simpa using List.all_eq_true.1 hletters c hc

theorem not_nullAhead_cons {c : Char} (hc : c ≠ 'N') (cs : Text) : ¬ NullAhead (c :: cs) := by
  rintro ⟨b, rest, h, -⟩
  exact hc (List.cons.inj h).1

theorem ne_of_nullCloser {b : Char} (hb : nullCloser b = true) : b ≠ 'N' := by
  rintro rfl
  have hword : nullCloser 'N' = false := by decide +kernel
  rw [hword] at hb
  cases hb

theorem bareHere_cons_iff {c : Char} {cs : Text} :
    BareHere (c :: cs) ↔ nullOpener c = true ∧ NullAhead cs := by
  constructor
  · rintro ⟨a, rest, h, hopener, hahead⟩
    obtain ⟨rfl, rfl⟩ := List.cons.inj h
    exact ⟨hopener, hahead⟩
  · rintro ⟨hopener, hahead⟩
    exact ⟨c, cs, rfl, hopener, hahead⟩

theorem bareHere_of_sharedHere {t : Text} (h : SharedHere t) : BareHere t := by
  obtain ⟨a, b, rest, rfl, hopener, hcloser, -⟩ := h
  exact ⟨a, _, rfl, hopener, b, rest, rfl, hcloser⟩

theorem sharedHere_append_iff {a b : Char} (ha : nullOpener a = true)
    (hb : nullCloser b = true) {rest : Text} :
    SharedHere (a :: (null ++ b :: rest)) ↔ BareHere (b :: rest) := by
  constructor
  · rintro ⟨a', b', rest', h, -, -, hbare⟩
    have hrest := List.append_cancel_left (List.cons.inj h).2
    rwa [hrest]
  · intro hbare
    exact ⟨a, b, rest, rfl, ha, hb, hbare⟩

theorem hasBareNull_iff_suffix {t : Text} :
    HasBareNull t ↔ ∃ s, s <:+ t ∧ BareHere s := by
  constructor
  · rintro ⟨before, a, b, after, rfl, ha, hb⟩
    exact ⟨_, ⟨before, rfl⟩, a, _, rfl, ha, b, after, rfl, hb⟩
  · rintro ⟨s, ⟨before, rfl⟩, a, rest, rfl, ha, b, after, rfl, hb⟩
    exact ⟨before, a, b, after, rfl, ha, hb⟩

theorem sharesNeighbour_iff_suffix {t : Text} :
    SharesNeighbour t ↔ ∃ s, s <:+ t ∧ SharedHere s := by
  constructor
  · rintro ⟨before, a, b, c, after, rfl, ha, hb, hb', hc⟩
    exact ⟨_, ⟨before, rfl⟩, a, b, _, rfl, ha, hb, b, _, rfl, hb', c, after, rfl, hc⟩
  · rintro ⟨s, ⟨before, rfl⟩, a, b, rest, rfl, ha, hb, hbare⟩
    obtain ⟨hb', c, after, rfl, hc⟩ := bareHere_cons_iff.1 hbare
    exact ⟨before, a, b, c, after, rfl, ha, hb, hb', hc⟩

theorem exists_suffix_cons_iff {P : Text → Prop} {c : Char} {cs : Text} :
    (∃ s, s <:+ c :: cs ∧ P s) ↔ P (c :: cs) ∨ ∃ s, s <:+ cs ∧ P s := by
  simp only [List.suffix_cons_iff, or_and_right, exists_or, exists_eq_left]

theorem exists_suffix_null_append_iff {P : Text → Prop} (hP : ∀ s, P s → BareHere s)
    {t : Text} : (∃ s, s <:+ null ++ t ∧ P s) ↔ ∃ s, s <:+ t ∧ P s := by
  have hletter : ∀ c ∈ null, ∀ cs, ¬ P (c :: cs) := by
    intro c hc cs h
    have hopener := (bareHere_cons_iff.1 (hP _ h)).1
    rw [nullOpener_of_mem_null hc] at hopener
    cases hopener
  simp only [null, String.reduceToList, List.forall_mem_cons] at hletter ⊢
  obtain ⟨hN, hU, hL, hL', -⟩ := hletter
  simp only [List.cons_append, List.nil_append, exists_suffix_cons_iff, hN, hU, hL, false_or]

theorem exists_suffix_wrapped_iff {P : Text → Prop} (hP : ∀ s, P s → BareHere s) {a b : Char}
    (hb : nullCloser b = true) {u : Text} :
    (∃ s, s <:+ a :: '(' :: (null ++ ')' :: b :: u) ∧ P s) ↔
      P (b :: u) ∨ ∃ s, s <:+ u ∧ P s := by
  have ha : ¬ P (a :: '(' :: (null ++ ')' :: b :: u)) := fun h =>
    not_nullAhead_cons (by decide) _ (bareHere_cons_iff.1 (hP _ h)).2
  have hopen : ¬ P ('(' :: (null ++ ')' :: b :: u)) := fun h =>
    absurd (bareHere_cons_iff.1 (hP _ h)).1 (by decide +kernel)
  have hclose : ¬ P (')' :: b :: u) := fun h =>
    not_nullAhead_cons (ne_of_nullCloser hb) _ (bareHere_cons_iff.1 (hP _ h)).2
  rw [exists_suffix_cons_iff, or_iff_right ha, exists_suffix_cons_iff, or_iff_right hopen,
    exists_suffix_null_append_iff hP, exists_suffix_cons_iff, or_iff_right hclose,
    exists_suffix_cons_iff]

theorem hasBareNull_cons_iff {c : Char} {cs : Text} :
    HasBareNull (c :: cs) ↔ BareHere (c :: cs) ∨ HasBareNull cs := by
  rw [hasBareNull_iff_suffix, exists_suffix_cons_iff, ← hasBareNull_iff_suffix]

theorem sharesNeighbour_cons_iff {c : Char} {cs : Text} :
    SharesNeighbour (c :: cs) ↔ SharedHere (c :: cs) ∨ SharesNeighbour cs := by
  rw [sharesNeighbour_iff_suffix, exists_suffix_cons_iff, ← sharesNeighbour_iff_suffix]

/-! ## Where the rule matches -/

theorem nullRule_eq_some_iff {t : Text} {m : Match} :
    nullRule t = some m ↔
      ∃ a b rest, t = a :: (null ++ b :: rest) ∧ nullOpener a = true ∧
        nullCloser b = true ∧ m = ⟨6, a :: '(' :: null ++ [')', b]⟩ := by
  constructor
  · intro h
    unfold nullRule at h
    split at h
    next a b rest =>
      split at h
      next hneighbours =>
        rw [Bool.and_eq_true] at hneighbours
        exact ⟨a, b, rest, rfl, hneighbours.1, hneighbours.2, (Option.some.inj h).symm⟩
      next => cases h
    next => cases h
  · rintro ⟨a, b, rest, rfl, ha, hb, rfl⟩
    simp [nullRule, null, ha, hb]

theorem nullRule_ne_none_iff {t : Text} : nullRule t ≠ none ↔ BareHere t := by
  rw [Option.ne_none_iff_exists']
  constructor
  · rintro ⟨m, hm⟩
    obtain ⟨a, b, rest, rfl, ha, hb, -⟩ := nullRule_eq_some_iff.1 hm
    exact ⟨a, _, rfl, ha, b, rest, rfl, hb⟩
  · rintro ⟨a, rest, rfl, ha, b, rest', rfl, hb⟩
    exact ⟨_, nullRule_eq_some_iff.2 ⟨a, b, rest', rfl, ha, hb, rfl⟩⟩

theorem nullRule_eq_none_iff {t : Text} : nullRule t = none ↔ ¬ BareHere t := by
  rw [← nullRule_ne_none_iff, not_not]

theorem wrapNull_eq_none_iff {t : Text} : wrapNull t = none ↔ ¬ HasBareNull t := by
  rw [wrapNull, substitute?, Option.map_eq_none_iff, first?_eq_none_iff, hasBareNull_iff_suffix]
  constructor
  · rintro h ⟨s, hsuffix, hbare⟩
    obtain ⟨a, rest, rfl, -⟩ := id hbare
    exact nullRule_ne_none_iff.2 hbare (h _ (List.cons_ne_nil a rest) hsuffix)
  · intro h s _ hsuffix
    rw [nullRule_eq_none_iff]
    exact fun hbare => h ⟨s, hsuffix, hbare⟩

theorem wrapNull_eq_some_iff {t u : Text} :
    wrapNull t = some u ↔ HasBareNull t ∧ u = substitute nullRule t := by
  have hnone := wrapNull_eq_none_iff (t := t)
  unfold wrapNull substitute? at hnone ⊢
  cases hfirst : first? nullRule t with
  | none =>
      rw [hfirst, Option.map_none] at hnone
      simp [hnone.1 rfl]
  | some m =>
      rw [hfirst, Option.map_some] at hnone
      have hbare : HasBareNull t := by simpa using hnone
      simp [hbare, eq_comm]

/-! ## What a pass leaves -/

theorem substitute_of_bareHere {a b : Char} (ha : nullOpener a = true)
    (hb : nullCloser b = true) (rest : Text) :
    substitute nullRule (a :: (null ++ b :: rest)) =
      a :: '(' :: (null ++ ')' :: b :: substitute nullRule rest) := by
  have hmatch := nullRule_eq_some_iff.2 ⟨a, b, rest, rfl, ha, hb, rfl⟩
  rw [substitute_cons, hmatch]
  rfl

theorem substitute_of_not_bareHere {c : Char} {cs : Text} (h : ¬ BareHere (c :: cs)) :
    substitute nullRule (c :: cs) = c :: substitute nullRule cs :=
  substitute_of_none (nullRule_eq_none_iff.2 h)

theorem substitute_of_not_opener {c : Char} (hc : nullOpener c = false) (cs : Text) :
    substitute nullRule (c :: cs) = c :: substitute nullRule cs := by
  apply substitute_of_not_bareHere
  rw [bareHere_cons_iff, hc]
  simp

@[elab_as_elim]
theorem wrap_induction {motive : Text → Prop} (nil : motive [])
    (keep : ∀ c cs, ¬ BareHere (c :: cs) → motive cs → motive (c :: cs))
    (wrap : ∀ a b rest, nullOpener a = true → nullCloser b = true → motive rest →
      motive (a :: (null ++ b :: rest)))
    (t : Text) : motive t := by
  induction t using match_induction nullRule Match.size with
  | nil => exact nil
  | keep c cs hmatch ih => exact keep c cs (nullRule_eq_none_iff.1 hmatch) ih
  | take c cs m hmatch ih =>
      obtain ⟨a, b, rest, h, ha, hb, rfl⟩ := nullRule_eq_some_iff.1 hmatch
      obtain ⟨rfl, rfl⟩ := List.cons.inj h
      exact wrap c b rest ha hb ih

theorem head?_substitute_nullRule (t : Text) :
    (substitute nullRule t).head? = t.head? := by
  cases t with
  | nil => rfl
  | cons c cs =>
      rw [substitute_cons]
      cases hmatch : nullRule (c :: cs) with
      | none => rfl
      | some m =>
          obtain ⟨a, b, rest, h, -, -, rfl⟩ := nullRule_eq_some_iff.1 hmatch
          rw [(List.cons.inj h).1]
          rfl

theorem substitute_eq_append_iff {w t u : Text} (hw : ∀ c ∈ w, nullOpener c = false) :
    substitute nullRule t = w ++ u ↔ ∃ rest, t = w ++ rest ∧ substitute nullRule rest = u := by
  induction w generalizing t with
  | nil => simp
  | cons c w ih =>
      obtain ⟨hc, hw⟩ := List.forall_mem_cons.1 hw
      constructor
      · intro h
        have hhead := head?_substitute_nullRule t
        rw [h, List.cons_append, List.head?_cons, eq_comm, List.head?_eq_some_iff] at hhead
        obtain ⟨t, rfl⟩ := hhead
        rw [substitute_of_not_opener hc, List.cons_append, List.cons.injEq, ih hw] at h
        obtain ⟨-, rest, rfl, hrest⟩ := h
        exact ⟨rest, rfl, hrest⟩
      · rintro ⟨rest, rfl, hrest⟩
        rw [List.cons_append, substitute_of_not_opener hc, (ih hw).2 ⟨rest, rfl, hrest⟩,
          List.cons_append]

theorem substitute_eq_null_append_iff {t u : Text} :
    substitute nullRule t = null ++ u ↔
      ∃ rest, t = null ++ rest ∧ substitute nullRule rest = u :=
  substitute_eq_append_iff fun _ => nullOpener_of_mem_null

theorem nullAhead_substitute_iff {t : Text} :
    NullAhead (substitute nullRule t) ↔ NullAhead t := by
  constructor
  · rintro ⟨b, rest, h, hb⟩
    obtain ⟨t', rfl, hrest⟩ := substitute_eq_null_append_iff.1 h
    have hhead := head?_substitute_nullRule t'
    rw [hrest, List.head?_cons, eq_comm, List.head?_eq_some_iff] at hhead
    obtain ⟨after, rfl⟩ := hhead
    exact ⟨b, after, rfl, hb⟩
  · rintro ⟨b, rest, rfl, hb⟩
    have hhead := head?_substitute_nullRule (b :: rest)
    rw [List.head?_cons, List.head?_eq_some_iff] at hhead
    obtain ⟨after, hafter⟩ := hhead
    exact ⟨b, after, substitute_eq_null_append_iff.2 ⟨_, rfl, hafter⟩, hb⟩

theorem bareHere_cons_substitute_iff {c : Char} {cs : Text} :
    BareHere (c :: substitute nullRule cs) ↔ BareHere (c :: cs) := by
  rw [bareHere_cons_iff, bareHere_cons_iff, nullAhead_substitute_iff]

theorem not_bareHere_substitute (t : Text) : ¬ BareHere (substitute nullRule t) := by
  cases t with
  | nil =>
      rintro ⟨a, rest, h, -⟩
      cases h
  | cons c cs =>
      rw [substitute_cons]
      cases hmatch : nullRule (c :: cs) with
      | none => exact fun h => nullRule_eq_none_iff.1 hmatch (bareHere_cons_substitute_iff.1 h)
      | some m =>
          obtain ⟨a, b, rest, -, -, -, rfl⟩ := nullRule_eq_some_iff.1 hmatch
          intro h
          exact not_nullAhead_cons (by decide) _ (bareHere_cons_iff.1 h).2

theorem not_sharedHere_cons_substitute (c : Char) (t : Text) :
    ¬ SharedHere (c :: substitute nullRule t) := by
  -- the second `NULL` would have been a match of its own
  rintro ⟨a, b, rest, h, -, -, hbare⟩
  obtain ⟨t', -, hrest⟩ := substitute_eq_null_append_iff.1 (List.cons.inj h).2
  rw [← hrest] at hbare
  exact not_bareHere_substitute t' hbare

/-- A pass leaves a bare `NULL` exactly where two of them share a neighbour. -/
theorem hasBareNull_substitute_iff (t : Text) :
    HasBareNull (substitute nullRule t) ↔ SharesNeighbour t := by
  induction t using wrap_induction with
  | nil => simp [substitute_nil, HasBareNull, SharesNeighbour]
  | keep c cs hbare ih =>
      have hshared : ¬ SharedHere (c :: cs) := fun h => hbare (bareHere_of_sharedHere h)
      rw [substitute_of_not_bareHere hbare, hasBareNull_cons_iff, bareHere_cons_substitute_iff,
        or_iff_right hbare, ih, sharesNeighbour_cons_iff, or_iff_right hshared]
  | wrap a b rest ha hb ih =>
      -- on both sides all depends on what stands behind `b`, and on the rest
      have hleft : HasBareNull (substitute nullRule (a :: (null ++ b :: rest))) ↔
          BareHere (b :: rest) ∨ SharesNeighbour rest := by
        rw [substitute_of_bareHere ha hb, hasBareNull_iff_suffix,
          exists_suffix_wrapped_iff (fun _ => id) hb, ← hasBareNull_iff_suffix, ih,
          bareHere_cons_substitute_iff]
      have hright : SharesNeighbour (a :: (null ++ b :: rest)) ↔
          BareHere (b :: rest) ∨ SharesNeighbour rest := by
        rw [sharesNeighbour_cons_iff, sharedHere_append_iff ha hb, sharesNeighbour_iff_suffix,
          exists_suffix_null_append_iff fun _ => bareHere_of_sharedHere,
          ← sharesNeighbour_iff_suffix, sharesNeighbour_cons_iff, ← or_assoc,
          or_iff_left_of_imp bareHere_of_sharedHere]
      rw [hleft, hright]

theorem not_sharesNeighbour_substitute (t : Text) :
    ¬ SharesNeighbour (substitute nullRule t) := by
  induction t using wrap_induction with
  | nil => simp [substitute_nil, SharesNeighbour]
  | keep c cs hbare ih =>
      rw [substitute_of_not_bareHere hbare, sharesNeighbour_cons_iff]
      exact not_or.2 ⟨not_sharedHere_cons_substitute c cs, ih⟩
  | wrap a b rest ha hb ih =>
      rw [substitute_of_bareHere ha hb, sharesNeighbour_iff_suffix,
        exists_suffix_wrapped_iff (fun _ => bareHere_of_sharedHere) hb,
        ← sharesNeighbour_iff_suffix]
      exact not_or.2 ⟨not_sharedHere_cons_substitute b rest, ih⟩

/-! ## One pass and two -/

/-- One pass wraps every bare `NULL` of a text exactly when no two of them share a
neighbour.  The patch is refused where there is none, so after two passes a third is
refused. -/
theorem wrapNull_leaves_none_bare_iff (t : Text) :
    ((∀ u, wrapNull t = some u → ¬ HasBareNull u) ↔ ¬ SharesNeighbour t) ∧
      (wrapNull t = none ↔ ¬ HasBareNull t) ∧
      ((wrapNull t).bind wrapNull).bind wrapNull = none := by
  refine ⟨?_, wrapNull_eq_none_iff, ?_⟩
  · simp only [wrapNull_eq_some_iff, and_imp]
    constructor
    · intro h hshared
      obtain ⟨before, a, b, c, after, ht, ha, hb, -⟩ := id hshared
      have hbare : HasBareNull t := ⟨before, a, b, _, ht, ha, hb⟩
      exact h _ hbare rfl ((hasBareNull_substitute_iff t).2 hshared)
    · rintro hshared u - rfl
      rwa [hasBareNull_substitute_iff]
  · simp only [Option.bind_eq_none_iff, wrapNull_eq_none_iff, Option.bind_eq_some_iff,
      wrapNull_eq_some_iff]
    rintro v ⟨u, ⟨-, rfl⟩, -, rfl⟩
    rw [hasBareNull_substitute_iff]
    exact not_sharesNeighbour_substitute t

/-- Of two `NULL`s in an initializer the second stays as it was. -/
theorem wrapNull_skips_shared_neighbour :
    ∃ t u : Text, t = "T a[] = \x7b NULL,NULL \x7d;".toList ∧
      u = "T a[] = \x7b (NULL),NULL \x7d;".toList ∧
      wrapNull t = some u ∧ HasBareNull u ∧ wrapNull u ≠ none := by
  have hu : wrapNull "T a[] = \x7b NULL,NULL \x7d;".toList =
      some "T a[] = \x7b (NULL),NULL \x7d;".toList := by
    decide +kernel
  have hbare : HasBareNull "T a[] = \x7b (NULL),NULL \x7d;".toList :=
    ⟨"T a[] = \x7b (NULL)".toList, ',', ' ', "\x7d;".toList, by decide +kernel,
      by decide +kernel, by decide +kernel⟩
  refine ⟨_, _, rfl, rfl, hu, hbare, ?_⟩
  rw [Ne, wrapNull_eq_none_iff, not_not]
  exact hbare

end UnitReducer.Patch
