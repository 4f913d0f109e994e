import UnitReducer.Proofs.Substitutions
/-!
# Places of matches

A place is counted in characters from the front of the text.  `matchPlaces` lists where
a substitution matches: no two matches overlap, and where the rule would match besides
lies inside of a match (`mem_matchPlaces_or_inside`).  `editAt` changes a text
character by character, with a look at the place of each.
-/

namespace UnitReducer.Patch

/-! ## Editing by place -/

section

variable {β : Type}

/-- What `edit` makes of every character, given its place. -/
def editAt (edit : Nat → Char → List β) (t : Text) : List β :=
  t.zipIdx.flatMap fun entry => edit entry.2 entry.1

theorem editAt_append (edit : Nat → Char → List β) (s t : Text) :
    editAt edit (s ++ t) = editAt edit s ++ editAt (fun i => edit (s.length + i)) t := by
  rw [editAt, List.zipIdx_append, List.flatMap_append, List.zipIdx_eq_map_add (l := t),
    List.flatMap_map, Nat.zero_add]
  rfl

theorem editAt_congr {edit edit' : Nat → Char → List β} {t : Text}
    (h : ∀ i < t.length, ∀ c, edit i c = edit' i c) : editAt edit t = editAt edit' t := by
  apply List.flatMap_congr
  rintro ⟨c, i⟩ hentry
  have hi := List.snd_lt_of_mem_zipIdx hentry
  exact h i hi c

theorem editAt_append_of_places (edit : List Nat → Nat → Char → List β) {near far : List Nat}
    {front : Text}
    (hnear : ∀ i < front.length, ∀ c,
      edit (near ++ far.map (· + front.length)) i c = edit near i c)
    (hfar : ∀ i c,
      edit (near ++ far.map (· + front.length)) (front.length + i) c = edit far i c)
    (t : Text) :
    editAt (edit (near ++ far.map (· + front.length))) (front ++ t) =
      editAt (edit near) front ++ editAt (edit far) t := by
  rw [editAt_append, editAt_congr hnear]
  exact congrArg _ (editAt_congr fun i _ c => hfar i c)

end

theorem editAt_keep (t : Text) : editAt (fun _ c => [c]) t = t := by
  have hmap : (t.zipIdx.map Prod.fst).flatMap (fun c => [c]) = t := by
    rw [List.zipIdx_map_fst, List.flatMap_singleton']
  rwa [List.flatMap_map] at hmap

theorem editAt_drop (t : Text) : editAt (fun _ _ => ([] : Text)) t = [] := by
  simp [editAt]

theorem exists_drop_append {w : Text} {k : Nat} (h : k < w.length) (t : Text) :
    ∃ c ∈ w, ∃ cs, (w ++ t).drop k = c :: cs := by
  rw [List.drop_append_of_le_length (Nat.le_of_lt h), List.drop_eq_getElem_cons h]
  exact ⟨_, List.getElem_mem h, _, rfl⟩

theorem take_drop_of_cons_eq_append {c : Char} {cs front after : Text}
    (h : c :: cs = front ++ after) (hfront : front ≠ []) :
    c :: cs.take (front.length - 1) = front ∧ cs.drop (front.length - 1) = after := by
  cases front with
  | nil => exact absurd rfl hfront
  | cons a front =>
      obtain ⟨rfl, rfl⟩ := List.cons.inj h
      exact ⟨congrArg _ List.take_left, List.drop_left⟩

/-! ## Where a rule matches -/

def matchPlacesFrom (rule : Rule) : Nat → Text → List Nat
  | _, [] => []
  | skip + 1, _ :: cs => (matchPlacesFrom rule skip cs).map (· + 1)
  | 0, c :: cs =>
    match rule (c :: cs) with
    | some m => 0 :: (matchPlacesFrom rule (m.size - 1) cs).map (· + 1)
    | none => (matchPlacesFrom rule 0 cs).map (· + 1)

/-- The places of the matches that a substitution replaces. -/
def matchPlaces (rule : Rule) (t : Text) : List Nat :=
  matchPlacesFrom rule 0 t

theorem matchPlacesFrom_eq (rule : Rule) (skip : Nat) (t : Text) :
    matchPlacesFrom rule skip t = (matchPlaces rule (t.drop skip)).map (· + skip) := by
  induction t generalizing skip with
  | nil => simp [matchPlaces, matchPlacesFrom]
  | cons c cs ih =>
      cases skip with
      | zero => simp [matchPlaces]
      | succ skip =>
          rw [matchPlacesFrom, ih, List.map_map, List.drop_succ_cons]
          rfl

variable {rule : Rule} {t : Text}

theorem matchPlaces_nil : matchPlaces rule [] = [] := rfl

theorem matchPlaces_of_none {c : Char} {cs : Text} (h : rule (c :: cs) = none) :
    matchPlaces rule (c :: cs) = (matchPlaces rule cs).map (· + 1) := by
  rw [matchPlaces, matchPlacesFrom, h]
  rfl

theorem matchPlaces_of_some {c : Char} {cs : Text} {m : Match} (h : rule (c :: cs) = some m) :
    matchPlaces rule (c :: cs) =
      0 :: (matchPlaces rule (cs.drop (m.size - 1))).map (· + (m.size - 1 + 1)) := by
  rw [matchPlaces, matchPlacesFrom, h]
  dsimp only
  rw [matchPlacesFrom_eq, List.map_map]
  rfl

theorem matchPlaces_eq_nil_iff : matchPlaces rule t = [] ↔ first? rule t = none := by
  induction t with
  | nil => simp [matchPlaces_nil, first?]
  | cons c cs ih =>
      rw [first?]
      cases hmatch : rule (c :: cs) with
      | none => rw [matchPlaces_of_none hmatch, List.map_eq_nil_iff, ih]
      | some m => simp [matchPlaces_of_some hmatch]

theorem rule_of_mem_matchPlaces {i : Nat} (h : i ∈ matchPlaces rule t) :
    ∃ m, rule (t.drop i) = some m := by
  induction t using match_induction rule Match.size generalizing i with
  | nil => cases h
  | keep c cs hmatch ih =>
      rw [matchPlaces_of_none hmatch, List.mem_map] at h
      obtain ⟨j, hj, rfl⟩ := h
      exact ih hj
  | take c cs m hmatch ih =>
      rw [matchPlaces_of_some hmatch, List.mem_cons, List.mem_map] at h
      rcases h with rfl | ⟨j, hj, rfl⟩
      · exact ⟨m, hmatch⟩
      · obtain ⟨m', hm'⟩ := ih hj
        rw [List.drop_drop, Nat.add_comm] at hm'
        exact ⟨m', hm'⟩

theorem pairwise_matchPlaces :
    (matchPlaces rule t).Pairwise fun i j => ∀ m, rule (t.drop i) = some m → i + m.size ≤ j := by
  induction t using match_induction rule Match.size with
  | nil => exact List.Pairwise.nil
  | keep c cs hmatch ih =>
      rw [matchPlaces_of_none hmatch, List.pairwise_map]
      refine ih.imp ?_
      intro i j hij m hm
      have hsize := hij m hm
      omega
  | take c cs m hmatch ih =>
      rw [matchPlaces_of_some hmatch, List.pairwise_cons, List.pairwise_map]
      constructor
      · intro j hj m' hm'
        obtain ⟨k, -, rfl⟩ := List.mem_map.1 hj
        rw [List.drop_zero, hmatch, Option.some.injEq] at hm'
        subst hm'
        omega
      · refine ih.imp ?_
        intro i j hij m' hm'
        rw [Nat.add_comm i, Nat.add_right_comm, List.drop_succ_cons, ← List.drop_drop] at hm'
        have hsize := hij m' hm'
        omega

/-- The leftmost matches leave out only what begins inside of one of them. -/
theorem mem_matchPlaces_or_inside {i : Nat} (hi : i < t.length) {m : Match}
    (h : rule (t.drop i) = some m) :
    i ∈ matchPlaces rule t ∨
      ∃ s ∈ matchPlaces rule t, ∃ m', rule (t.drop s) = some m' ∧ s < i ∧ i < s + m'.size := by
  induction t using match_induction rule Match.size generalizing i with
  | nil => cases hi
  | keep c cs hmatch ih =>
      cases i with
      | zero =>
          rw [List.drop_zero, hmatch] at h
          cases h
      | succ i =>
          rw [matchPlaces_of_none hmatch]
          rcases ih (Nat.lt_of_succ_lt_succ hi) h with hmem | ⟨s, hs, m', hm', hsi, hend⟩
          · exact Or.inl (List.mem_map.2 ⟨i, hmem, rfl⟩)
          · exact Or.inr ⟨s + 1, List.mem_map.2 ⟨s, hs, rfl⟩, m', hm', by omega, by omega⟩
  | take c cs m₀ hmatch ih =>
      rw [matchPlaces_of_some hmatch]
      rcases Nat.lt_or_ge i (m₀.size - 1 + 1) with hinside | hbehind
      · cases i with
        | zero => exact Or.inl List.mem_cons_self
        | succ i => exact Or.inr ⟨0, List.mem_cons_self, m₀, hmatch, by omega, by omega⟩
      · obtain ⟨j, rfl⟩ := Nat.exists_eq_add_of_le hbehind
        rw [Nat.add_right_comm, List.drop_succ_cons, ← List.drop_drop] at h
        have hj : j < (cs.drop (m₀.size - 1)).length := by
          rw [List.length_drop]
          rw [List.length_cons] at hi
          omega
        rcases ih hj h with hmem | ⟨s, hs, m', hm', hsi, hend⟩
        · exact Or.inl (List.mem_cons_of_mem _ (List.mem_map.2 ⟨j, hmem, by omega⟩))
        · rw [List.drop_drop, Nat.add_comm] at hm'
          exact Or.inr ⟨s + (m₀.size - 1 + 1),
            List.mem_cons_of_mem _ (List.mem_map.2 ⟨s, hs, rfl⟩), m', hm', by omega, by omega⟩

end UnitReducer.Patch
