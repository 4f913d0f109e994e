import UnitReducer.Patch.Substitution
import Mathlib.Data.List.Basic
/-!
# The parts of a substituted text

A substitution cuts a text into characters that stay and matches that are
replaced.  `parts` gives them with what was found at each match; their sources make
up the text, and what is written for them makes up the result
(`substitute_eq_parts`).  `match_induction` follows the same course.
-/

namespace UnitReducer.Patch

/-! ## Induction along the matches -/

@[elab_as_elim]
theorem match_induction {α : Type} (find? : Text → Option α) (size : α → Nat)
    {motive : Text → Prop} (nil : motive [])
    (keep : ∀ c cs, find? (c :: cs) = none → motive cs → motive (c :: cs))
    (take : ∀ c cs a, find? (c :: cs) = some a → motive (cs.drop (size a - 1)) →
      motive (c :: cs))
    (t : Text) : motive t := by
  induction hlength : t.length using Nat.strongRecOn generalizing t with
  | _ n ih =>
      cases t with
      | nil => exact nil
      | cons c cs =>
          rw [List.length_cons] at hlength
          cases hfind : find? (c :: cs) with
          | none => exact keep c cs hfind (ih cs.length (by omega) cs rfl)
          | some a =>
              have hrest : (cs.drop (size a - 1)).length < n := by
                rw [List.length_drop]
                omega
              exact take c cs a hfind (ih _ hrest _ rfl)

theorem substitute_of_none {rule : Rule} {c : Char} {cs : Text} (h : rule (c :: cs) = none) :
    substitute rule (c :: cs) = c :: substitute rule cs := by
  rw [substitute_cons, h]

theorem first?_map {α β : Type} (find? : Text → Option α) (f : α → β) (t : Text) :
    first? (fun t => (find? t).map f) t = (first? find? t).map f := by
  induction t with
  | nil => rfl
  | cons c cs ih =>
      rw [first?, first?]
      cases find? (c :: cs) with
      | none => exact ih
      | some a => rfl

/-! ## Parts -/

/-- A character that stays, or the text of a match with what was found there. -/
inductive Part (α : Type) where
  | kept (c : Char)
  | matched (taken : Text) (found : α)
deriving DecidableEq, Repr

namespace Part

variable {α : Type}

def source : Part α → Text
  | kept c => [c]
  | matched taken _ => taken

def written (toMatch : α → Match) : Part α → Text
  | kept c => [c]
  | matched _ found => (toMatch found).replacement

def found? : Part α → Option α
  | kept _ => none
  | matched _ found => some found

end Part

section

variable {α : Type} (find? : Text → Option α) (toMatch : α → Match)

def partsFrom : Nat → Text → List (Part α)
  | _, [] => []
  | skip + 1, _ :: cs => partsFrom skip cs
  | 0, c :: cs =>
    match find? (c :: cs) with
    | some a => .matched (c :: cs.take ((toMatch a).size - 1)) a ::
        partsFrom ((toMatch a).size - 1) cs
    | none => .kept c :: partsFrom 0 cs

/-- The parts of a text: matches from left to right, and what lies between them. -/
def parts (t : Text) : List (Part α) :=
  partsFrom find? toMatch 0 t

theorem partsFrom_eq (skip : Nat) (t : Text) :
    partsFrom find? toMatch skip t = parts find? toMatch (t.drop skip) := by
  induction t generalizing skip with
  | nil => simp [parts, partsFrom]
  | cons c cs ih =>
      cases skip with
      | zero => rfl
      | succ skip => rw [partsFrom, ih, List.drop_succ_cons]

theorem parts_nil : parts find? toMatch [] = [] := rfl

variable {find?}

theorem parts_of_none {c : Char} {cs : Text} (h : find? (c :: cs) = none) :
    parts find? toMatch (c :: cs) = .kept c :: parts find? toMatch cs := by
  rw [parts, partsFrom, h]
  rfl

theorem parts_of_some {c : Char} {cs : Text} {a : α} (h : find? (c :: cs) = some a) :
    parts find? toMatch (c :: cs) =
      .matched (c :: cs.take ((toMatch a).size - 1)) a ::
        parts find? toMatch (cs.drop ((toMatch a).size - 1)) := by
  rw [parts, partsFrom, h]
  dsimp only
  rw [partsFrom_eq]

variable (find?)

theorem flatMap_source_parts (t : Text) :
    (parts find? toMatch t).flatMap Part.source = t := by
  induction t using match_induction find? (fun a => (toMatch a).size) with
  | nil => rfl
  | keep c cs hfind ih =>
      rw [parts_of_none toMatch hfind, List.flatMap_cons, ih]
      rfl
  | take c cs a hfind ih =>
      rw [parts_of_some toMatch hfind, List.flatMap_cons, ih, Part.source,
        List.cons_append, List.take_append_drop]

theorem substitute_eq_parts (t : Text) :
    substitute (fun t => (find? t).map toMatch) t =
      (parts find? toMatch t).flatMap (Part.written toMatch) := by
  induction t using match_induction find? (fun a => (toMatch a).size) with
  | nil => rfl
  | keep c cs hfind ih =>
      rw [substitute_cons, hfind, parts_of_none toMatch hfind, List.flatMap_cons, ← ih]
      rfl
  | take c cs a hfind ih =>
      rw [substitute_cons, hfind, parts_of_some toMatch hfind, List.flatMap_cons, ← ih]
      rfl

theorem head?_found_parts (t : Text) :
    ((parts find? toMatch t).filterMap Part.found?).head? = first? find? t := by
  induction t using match_induction find? (fun a => (toMatch a).size) with
  | nil => rfl
  | keep c cs hfind ih =>
      rw [parts_of_none toMatch hfind, first?, hfind]
      exact ih
  | take c cs a hfind _ =>
      rw [parts_of_some toMatch hfind, first?, hfind]
      rfl

variable {find? toMatch}

theorem find?_of_mem_parts {t taken : Text} {a : α}
    (h : .matched taken a ∈ parts find? toMatch t) :
    ∃ c cs, find? (c :: cs) = some a ∧ taken = c :: cs.take ((toMatch a).size - 1) := by
  induction t using match_induction find? (fun a => (toMatch a).size) with
  | nil => cases h
  | keep c cs hfind ih =>
      rw [parts_of_none toMatch hfind, List.mem_cons] at h
      exact ih (h.resolve_left (by simp))
  | take c cs b hfind ih =>
      rw [parts_of_some toMatch hfind, List.mem_cons] at h
      rcases h with h | h
      · obtain ⟨rfl, rfl⟩ := Part.matched.inj h
        exact ⟨c, cs, hfind, rfl⟩
      · exact ih h

end

/-! ## Separators -/

/-- What is found before a separator neither depends on what follows nor reaches it. -/
structure StopsAt {α : Type} (sep : Char) (find? : Text → Option α) (toMatch : α → Match) :
    Prop where
  find?_append : ∀ s w, find? (s ++ sep :: w) = find? s
  size_pos : ∀ a, 0 < (toMatch a).size
  size_le : ∀ s a, find? s = some a → (toMatch a).size ≤ s.length

namespace StopsAt

variable {α : Type} {sep : Char} {find? : Text → Option α} {toMatch : α → Match}

theorem find?_cons (h : StopsAt sep find? toMatch) (w : Text) : find? (sep :: w) = none := by
  rw [← List.nil_append (sep :: w), h.find?_append]
  by_contra hsome
  obtain ⟨a, ha⟩ := Option.ne_none_iff_exists'.1 hsome
  have hsize := h.size_le [] a ha
  exact absurd (h.size_pos a) (Nat.not_lt.2 hsize)

theorem parts_append (h : StopsAt sep find? toMatch) (s w : Text) :
    parts find? toMatch (s ++ sep :: w) =
      parts find? toMatch s ++ .kept sep :: parts find? toMatch w := by
  induction s using match_induction find? (fun a => (toMatch a).size) with
  | nil => exact parts_of_none toMatch (h.find?_cons w)
  | keep c cs hfind ih =>
      have hfind' : find? (c :: (cs ++ sep :: w)) = none :=
        (h.find?_append (c :: cs) w).trans hfind
      rw [List.cons_append, parts_of_none toMatch hfind', parts_of_none toMatch hfind, ih]
      rfl
  | take c cs a hfind ih =>
      have hfind' : find? (c :: (cs ++ sep :: w)) = some a :=
        (h.find?_append (c :: cs) w).trans hfind
      have hsize : (toMatch a).size - 1 ≤ cs.length := by
        have hsize := h.size_le (c :: cs) a hfind
        rw [List.length_cons] at hsize
        omega
      rw [List.cons_append, parts_of_some toMatch hfind', parts_of_some toMatch hfind,
        List.take_append_of_le_length hsize, List.drop_append_of_le_length hsize, ih]
      rfl

theorem first?_append (h : StopsAt sep find? toMatch) (s w : Text) :
    first? find? (s ++ sep :: w) = (first? find? s).or (first? find? w) := by
  rw [← head?_found_parts find? toMatch, h.parts_append, List.filterMap_append,
    List.head?_append, head?_found_parts, ← head?_found_parts find? toMatch w]
  rfl

theorem substitute_append (h : StopsAt sep find? toMatch) (s w : Text) :
    substitute (fun t => (find? t).map toMatch) (s ++ sep :: w) =
      substitute (fun t => (find? t).map toMatch) s ++
        sep :: substitute (fun t => (find? t).map toMatch) w := by
  simp only [substitute_eq_parts, h.parts_append, List.flatMap_append, List.flatMap_cons]
  rfl

end StopsAt

end UnitReducer.Patch
