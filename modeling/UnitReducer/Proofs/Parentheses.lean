import UnitReducer.Proofs.BareNull
import UnitReducer.Proofs.MatchPlaces
/-!
# Inserted parentheses

Wrapping changes nothing but that it inserts parentheses around bare `NULL`s: without
them the text is as it was (`wrapNull_inserts_parentheses`).  One that is not wrapped
follows one that is, with a single character between the two.
-/

namespace UnitReducer.Patch

/-! ## Places of `NULL` -/

/-- At the place `i` stands a `NULL` between two characters that neither extend it
nor enclose it. -/
def BareNullAt (t : Text) (i : Nat) : Prop :=
  ∃ before a b after, t = before ++ a :: (null ++ b :: after) ∧ before.length + 1 = i ∧
    nullOpener a = true ∧ nullCloser b = true

theorem hasBareNull_iff_exists_place {t : Text} : HasBareNull t ↔ ∃ i, BareNullAt t i := by
  constructor
  · rintro ⟨before, a, b, after, ht, ha, hb⟩
    exact ⟨_, before, a, b, after, ht, rfl, ha, hb⟩
  · rintro ⟨i, before, a, b, after, ht, -, ha, hb⟩
    exact ⟨before, a, b, after, ht, ha, hb⟩

theorem bareNullAt_iff {t : Text} {i : Nat} :
    BareNullAt t i ↔ ∃ s, s < t.length ∧ i = s + 1 ∧ BareHere (t.drop s) := by
  constructor
  · rintro ⟨before, a, b, after, rfl, rfl, ha, hb⟩
    refine ⟨before.length, by simp, rfl, ?_⟩
    rw [List.drop_left]
    exact ⟨a, _, rfl, ha, b, after, rfl, hb⟩
  · rintro ⟨s, hs, rfl, a, rest, hdrop, ha, b, after, rfl, hb⟩
    refine ⟨t.take s, a, b, after, ?_, ?_, ha, hb⟩
    · rw [← hdrop, List.take_append_drop]
    · rw [List.length_take, Nat.min_eq_left (Nat.le_of_lt hs)]

theorem add_five_of_bareHere {t : Text} {s i : Nat} (hs : BareHere (t.drop s))
    (hi : BareHere (t.drop i)) (hlt : s < i) (hnear : i < s + 6) : i = s + 5 := by
  obtain ⟨d, rfl⟩ := Nat.exists_eq_add_of_lt hlt
  obtain ⟨a, rest, hdrop, -, b, after, rfl, -⟩ := hs
  obtain ⟨a', rest', hdrop', ha', -⟩ := hi
  rw [Nat.add_assoc, ← List.drop_drop, hdrop, List.drop_succ_cons] at hdrop'
  by_contra hne
  have hd : d < null.length := by
    have hlength : null.length = 4 := rfl
    omega
  obtain ⟨c, hc, cs, hletter⟩ := exists_drop_append hd (b :: after)
  rw [hletter] at hdrop'
  obtain ⟨rfl, -⟩ := List.cons.inj hdrop'
  rw [nullOpener_of_mem_null hc] at ha'
  cases ha'

/-! ## Wrapped texts -/

/-- A character of an edited text: it was there before, or it was inserted. -/
inductive Edited where
  | old (c : Char)
  | inserted (c : Char)
deriving DecidableEq, Repr

namespace Edited

def char : Edited → Char
  | old c => c
  | inserted c => c

def old? : Edited → Option Char
  | old c => some c
  | inserted _ => none

end Edited

/-- What becomes of the character at a place, when parentheses stand around the four
characters from each of `places` on. -/
def parenthesize (places : List Nat) (i : Nat) (c : Char) : List Edited :=
  (if i ∈ places then [.inserted '('] else []) ++
    .old c :: (if i ∈ places.map (· + 3) then [.inserted ')'] else [])

def parenthesized (places : List Nat) (t : Text) : List Edited :=
  editAt (parenthesize places) t

theorem filterMap_old?_parenthesize (places : List Nat) (i : Nat) (c : Char) :
    (parenthesize places i c).filterMap Edited.old? = [c] := by
  unfold parenthesize
  split
  · split <;> rfl
  · split <;> rfl

theorem filterMap_old?_parenthesized (places : List Nat) (t : Text) :
    (parenthesized places t).filterMap Edited.old? = t := by
  rw [parenthesized, editAt, List.filterMap_flatMap]
  simp only [filterMap_old?_parenthesize]
  exact editAt_keep t

section

variable {near : List Nat} {k i : Nat}

theorem parenthesize_of_lt (h : i < k) (far : List Nat) (c : Char) :
    parenthesize (near ++ far.map (· + k)) i c = parenthesize near i c := by
  have hopen : i ∈ near ++ far.map (· + k) ↔ i ∈ near := by
    rw [List.mem_append, List.mem_map]
    exact or_iff_left (by rintro ⟨p, -, rfl⟩; omega)
  have hclose : i ∈ (near ++ far.map (· + k)).map (· + 3) ↔ i ∈ near.map (· + 3) := by
    rw [List.map_append, List.mem_append, List.map_map, List.mem_map (l := far)]
    exact or_iff_left (by rintro ⟨p, -, rfl⟩; simp only [Function.comp_apply] at h; omega)
  simp only [parenthesize, hopen, hclose]

theorem parenthesize_add (hnear : ∀ p ∈ near, p + 3 < k) (far : List Nat) (c : Char) :
    parenthesize (near ++ far.map (· + k)) (k + i) c = parenthesize far i c := by
  have hopen : k + i ∈ near ++ far.map (· + k) ↔ i ∈ far := by
    rw [List.mem_append, or_iff_right fun hmem => by have := hnear _ hmem; omega]
    simp [Nat.add_comm k]
  have hclose : k + i ∈ (near ++ far.map (· + k)).map (· + 3) ↔ i ∈ far.map (· + 3) := by
    rw [List.map_append, List.mem_append, or_iff_right]
    · rw [List.map_map, List.mem_map, List.mem_map]
      refine exists_congr fun p => and_congr_right fun _ => ?_
      rw [Function.comp_apply]
      omega
    · rw [List.mem_map]
      rintro ⟨p, hp, hpi⟩
      have hlt := hnear p hp
      omega
  simp only [parenthesize, hopen, hclose]

end

theorem parenthesized_append (near far : List Nat) (front t : Text)
    (hnear : ∀ p ∈ near, p + 3 < front.length) :
    parenthesized (near ++ far.map (· + front.length)) (front ++ t) =
      parenthesized near front ++ parenthesized far t := by
  apply editAt_append_of_places parenthesize
  · intro i hi c
    exact parenthesize_of_lt hi far c
  · intro i c
    exact parenthesize_add hnear far c

/-! ## The patch -/

/-- The places of the `NULL`s that a pass wraps. -/
def wrappedPlaces (t : Text) : List Nat :=
  (matchPlaces nullRule t).map (· + 1)

theorem mem_wrappedPlaces_iff {t : Text} {i : Nat} :
    i ∈ wrappedPlaces t ↔ ∃ s ∈ matchPlaces nullRule t, i = s + 1 := by
  simp only [wrappedPlaces, List.mem_map, eq_comm]

theorem wrappedPlaces_of_not_bareHere {c : Char} {cs : Text} (h : ¬ BareHere (c :: cs)) :
    wrappedPlaces (c :: cs) = (wrappedPlaces cs).map (· + 1) := by
  rw [wrappedPlaces, matchPlaces_of_none (nullRule_eq_none_iff.2 h)]
  rfl

theorem wrappedPlaces_of_bareHere {a b : Char} (ha : nullOpener a = true)
    (hb : nullCloser b = true) (rest : Text) :
    wrappedPlaces (a :: (null ++ b :: rest)) = 1 :: (wrappedPlaces rest).map (· + 6) := by
  have hmatch := nullRule_eq_some_iff.2 ⟨a, b, rest, rfl, ha, hb, rfl⟩
  rw [wrappedPlaces, matchPlaces_of_some hmatch, wrappedPlaces, List.map_cons, List.map_map,
    List.map_map]
  rfl

theorem substitute_eq_parenthesized (t : Text) :
    substitute nullRule t = (parenthesized (wrappedPlaces t) t).map Edited.char := by
  induction t using wrap_induction with
  | nil => rfl
  | keep c cs hbare ih =>
      have happend := parenthesized_append [] (wrappedPlaces cs) [c] cs (by simp)
      rw [substitute_of_not_bareHere hbare, wrappedPlaces_of_not_bareHere hbare, ih]
      exact (congrArg (List.map Edited.char) happend).symm
  | wrap a b rest ha hb ih =>
      have happend := parenthesized_append [1] (wrappedPlaces rest) (a :: (null ++ [b])) rest
        (by simp [null])
      rw [substitute_of_bareHere ha hb, wrappedPlaces_of_bareHere ha hb, ih]
      exact (congrArg (List.map Edited.char) happend).symm

theorem bareNullAt_of_mem_wrappedPlaces {t : Text} {i : Nat} (h : i ∈ wrappedPlaces t) :
    BareNullAt t i := by
  obtain ⟨s, hs, rfl⟩ := mem_wrappedPlaces_iff.1 h
  obtain ⟨m, hmatch⟩ := rule_of_mem_matchPlaces hs
  obtain ⟨a, b, rest, hdrop, ha, hb, -⟩ := nullRule_eq_some_iff.1 hmatch
  refine bareNullAt_iff.2 ⟨s, ?_, rfl, a, _, hdrop, ha, b, rest, rfl, hb⟩
  by_contra hle
  rw [List.drop_eq_nil_of_le (Nat.le_of_not_lt hle)] at hdrop
  cases hdrop

theorem exists_mem_wrappedPlaces {t : Text} {i : Nat} (h : BareNullAt t i)
    (hi : i ∉ wrappedPlaces t) : ∃ p ∈ wrappedPlaces t, i = p + 5 := by
  obtain ⟨s, hs, rfl, hbare⟩ := bareNullAt_iff.1 h
  obtain ⟨m, hmatch⟩ := Option.ne_none_iff_exists'.1 (nullRule_ne_none_iff.2 hbare)
  rcases mem_matchPlaces_or_inside hs hmatch with hmem | ⟨s', hs', m', hmatch', hlt, hend⟩
  · exact absurd (mem_wrappedPlaces_iff.2 ⟨s, hmem, rfl⟩) hi
  · have hbare' := nullRule_ne_none_iff.1 (Option.ne_none_iff_exists'.2 ⟨m', hmatch'⟩)
    obtain ⟨a, b, rest, -, -, -, rfl⟩ := nullRule_eq_some_iff.1 hmatch'
    have hfive := add_five_of_bareHere hbare' hbare hlt hend
    exact ⟨s' + 1, mem_wrappedPlaces_iff.2 ⟨s', hs', rfl⟩, by omega⟩

theorem pairwise_wrappedPlaces (t : Text) : (wrappedPlaces t).Pairwise (· < ·) := by
  rw [wrappedPlaces, List.pairwise_map]
  refine pairwise_matchPlaces.imp_of_mem ?_
  intro i j hi _ hij
  obtain ⟨m, hmatch⟩ := rule_of_mem_matchPlaces hi
  have hend := hij m hmatch
  obtain ⟨a, b, rest, -, -, -, rfl⟩ := nullRule_eq_some_iff.1 hmatch
  dsimp only at hend
  omega

/-- The patch is refused where there is no bare `NULL`.  Elsewhere it inserts one
parenthesis before and one behind some of them, and does nothing else. -/
theorem wrapNull_inserts_parentheses (t : Text) :
    (wrapNull t = none ↔ ∀ i, ¬ BareNullAt t i) ∧
      ∀ u, wrapNull t = some u →
        ∃ places, places ≠ [] ∧ places.Pairwise (· < ·) ∧ (∀ i ∈ places, BareNullAt t i) ∧
          (∀ i, BareNullAt t i → i ∉ places → ∃ p ∈ places, i = p + 5) ∧
          (parenthesized places t).map Edited.char = u ∧
          (parenthesized places t).filterMap Edited.old? = t := by
  refine ⟨?_, ?_⟩
  · rw [wrapNull_eq_none_iff, hasBareNull_iff_exists_place, not_exists]
  · intro u hu
    obtain ⟨hbare, rfl⟩ := wrapNull_eq_some_iff.1 hu
    refine ⟨wrappedPlaces t, ?_, pairwise_wrappedPlaces t, fun i => bareNullAt_of_mem_wrappedPlaces,
      fun i => exists_mem_wrappedPlaces, (substitute_eq_parenthesized t).symm,
      filterMap_old?_parenthesized _ t⟩
    intro hnil
    obtain ⟨i, hi⟩ := hasBareNull_iff_exists_place.1 hbare
    have hplace := exists_mem_wrappedPlaces hi
    simp [hnil] at hplace

/-- Of two that share a neighbour the first is wrapped; one in parentheses and one that ends
a word are left alone. -/
theorem wrapNull_inserts_parentheses_arguments :
    ∃ t u : Text, t = "f(a, NULL,NULL, (NULL), xNULL);".toList ∧
      u = "f(a, (NULL),NULL, (NULL), xNULL);".toList ∧ wrapNull t = some u ∧
      ∃ places, places ≠ [] ∧ places.Pairwise (· < ·) ∧ (∀ i ∈ places, BareNullAt t i) ∧
        (∀ i, BareNullAt t i → i ∉ places → ∃ p ∈ places, i = p + 5) ∧
        (parenthesized places t).map Edited.char = u ∧
        (parenthesized places t).filterMap Edited.old? = t := by
  have hu : wrapNull "f(a, NULL,NULL, (NULL), xNULL);".toList =
      some "f(a, (NULL),NULL, (NULL), xNULL);".toList := by
    decide +kernel
  exact ⟨_, _, rfl, rfl, hu, (wrapNull_inserts_parentheses _).2 _ hu⟩

end UnitReducer.Patch
