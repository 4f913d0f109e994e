import UnitReducer.Proofs.FurthestMarks
import UnitReducer.Proofs.MatchPlaces
/-!
# Deleted keywords

A match loses its keyword with the whitespace character behind it, and nothing else.
What is deleted of a text is thus a number of segments of one size.  A keyword that
stays although it could have gone lies between a segment and the furthest mark that the segment
reaches (`strips_delete_keyword_segments`).
-/

namespace UnitReducer.Patch

/-! ## Segments -/

/-- At the place `i` stand the words and a whitespace character, and what follows has
the form and ends at the place `mark`. -/
def SegmentAt (words : Text) (Form : Text → Prop) (t : Text) (i mark : Nat) : Prop :=
  ∃ before c body after, t = before ++ (words ++ c :: (body ++ after)) ∧ before.length = i ∧
    CharClass.space c = true ∧ Form body ∧ mark = i + words.length + body.length

/-- No mark further on is reached from the place. -/
def FurthestMark (Segment : Nat → Nat → Prop) (i mark : Nat) : Prop :=
  Segment i mark ∧ ∀ mark', Segment i mark' → mark' ≤ mark

/-- The place lies in one of the segments that begin at `starts`. -/
def InSegments (size : Nat) (starts : List Nat) (i : Nat) : Prop :=
  ∃ s ∈ starts, s ≤ i ∧ i < s + size

instance (size : Nat) (starts : List Nat) (i : Nat) : Decidable (InSegments size starts i) :=
  inferInstanceAs (Decidable (∃ s ∈ starts, s ≤ i ∧ i < s + size))

def deleteSegments (size : Nat) (starts : List Nat) (t : Text) : Text :=
  editAt (fun i c => if InSegments size starts i then [] else [c]) t

/-- The segments at `starts` are deleted, and any other one lies between one of them
and the furthest mark of that one. -/
structure DeletesSegments (size : Nat) (Segment : Nat → Nat → Prop) (t u : Text)
    (starts : List Nat) : Prop where
  nonempty : starts ≠ []
  segments : ∀ i ∈ starts, ∃ mark, Segment i mark
  disjoint : starts.Pairwise fun i j => i + size ≤ j
  deleted : u = deleteSegments size starts t
  between : ∀ i mark, Segment i mark → i ∉ starts →
    ∃ s ∈ starts, ∃ furthest, FurthestMark Segment s furthest ∧ s + size ≤ i ∧
      i + size ≤ furthest

theorem segmentAt_iff {words : Text} {Form : Text → Prop} {t : Text} {i mark : Nat} :
    SegmentAt words Form t i mark ↔
      ∃ c body after, t.drop i = words ++ c :: (body ++ after) ∧ CharClass.space c = true ∧
        Form body ∧ mark = i + words.length + body.length := by
  constructor
  · rintro ⟨before, c, body, after, rfl, rfl, hc, hform, hmark⟩
    exact ⟨c, body, after, List.drop_left, hc, hform, hmark⟩
  · rintro ⟨c, body, after, hdrop, hc, hform, hmark⟩
    have hi : i ≤ t.length := by
      by_contra hlt
      rw [List.drop_eq_nil_of_le (by omega)] at hdrop
      simp at hdrop
    refine ⟨t.take i, c, body, after, ?_, ?_, hc, hform, hmark⟩
    · rw [← hdrop, List.take_append_drop]
    · rw [List.length_take]
      omega

/-! ## Deleting along the text -/

section

variable {size k i : Nat} {near far : List Nat}

theorem inSegments_iff_of_lt (h : i < k) :
    InSegments size (near ++ far.map (· + k)) i ↔ InSegments size near i := by
  constructor
  · rintro ⟨s, hs, hle, hlt⟩
    rcases List.mem_append.1 hs with hs | hs
    · exact ⟨s, hs, hle, hlt⟩
    · obtain ⟨s', -, rfl⟩ := List.mem_map.1 hs
      omega
  · rintro ⟨s, hs, hle, hlt⟩
    exact ⟨s, List.mem_append_left _ hs, hle, hlt⟩

theorem inSegments_add_iff (hnear : ∀ s ∈ near, s + size ≤ k) :
    InSegments size (near ++ far.map (· + k)) (k + i) ↔ InSegments size far i := by
  constructor
  · rintro ⟨s, hs, hle, hlt⟩
    rcases List.mem_append.1 hs with hs | hs
    · have hend := hnear s hs
      omega
    · obtain ⟨s', hs', rfl⟩ := List.mem_map.1 hs
      exact ⟨s', hs', by omega, by omega⟩
  · rintro ⟨s, hs, hle, hlt⟩
    exact ⟨s + k, List.mem_append_right _ (List.mem_map.2 ⟨s, hs, rfl⟩), by omega, by omega⟩

end

theorem deleteSegments_append (size : Nat) (near far : List Nat) (front t : Text)
    (hnear : ∀ s ∈ near, s + size ≤ front.length) :
    deleteSegments size (near ++ far.map (· + front.length)) (front ++ t) =
      deleteSegments size near front ++ deleteSegments size far t := by
  apply editAt_append_of_places fun starts i c => if InSegments size starts i then [] else [c]
  · intro i hi c
    simp only [inSegments_iff_of_lt hi]
  · intro i c
    simp only [inSegments_add_iff hnear]

theorem deleteSegments_front {size : Nat} {segment : Text} (hsize : segment.length = size)
    (body : Text) : deleteSegments size [0] (segment ++ body) = body := by
  have hsegment : deleteSegments size [0] segment = [] := by
    rw [deleteSegments, editAt_congr fun i hi c => if_pos ⟨0, by simp, by omega, by omega⟩,
      editAt_drop]
  have hbody : deleteSegments size [] body = body := by
    rw [deleteSegments, editAt_congr fun i hi c => if_neg (by simp [InSegments]), editAt_keep]
  have happend := deleteSegments_append size [0] [] segment body (by simp [hsize])
  rw [hsegment, hbody] at happend
  exact happend

/-! ## The rule -/

theorem afterWords?_eq_some_iff {words t rest : Text} :
    afterWords? words t = some rest ↔
      ∃ c, t = words ++ c :: rest ∧ CharClass.space c = true := by
  constructor
  · intro h
    unfold afterWords? at h
    split at h
    next c rest' hafter =>
      split at h
      next hc =>
        cases h
        exact ⟨c, Text.after?_eq_some_iff.1 hafter, hc⟩
      next => cases h
    next => cases h
  · rintro ⟨c, ht, hc⟩
    rw [afterWords?, Text.after?_eq_some_iff.2 ht]
    exact if_pos hc

theorem stripRule_eq_some_iff {words : Text} {body? : Text → Option Text} {t : Text} {m : Match} :
    stripRule words body? t = some m ↔
      ∃ c rest body, t = words ++ c :: rest ∧ CharClass.space c = true ∧ body? rest = some body ∧
        m = ⟨words.length + 1 + body.length, body⟩ := by
  simp only [stripRule, Option.bind_eq_bind, Option.bind_eq_some_iff, afterWords?_eq_some_iff,
    Option.pure_def, Option.some.injEq]
  constructor
  · rintro ⟨rest, ⟨c, ht, hc⟩, body, hbody, hm⟩
    exact ⟨c, rest, body, ht, hc, hbody, hm.symm⟩
  · rintro ⟨c, rest, body, ht, hc, hbody, hm⟩
    exact ⟨rest, ⟨c, ht, hc⟩, body, hbody, hm.symm⟩

/-- What the two keywords and their marks have in common. -/
structure Keyword (words : Text) (mark : Char) (Form : Text → Prop)
    (body? : Text → Option Text) : Prop where
  head : words.head?.any CharClass.space = false
  unbordered : ∀ d < words.length, 0 < d → ¬ words.drop d <+: words
  mark_not_mem : mark ∉ words
  mark_not_space : CharClass.space mark = false
  form_mark : ∀ body, Form body → ∃ front, body = front ++ [mark]
  found : ∀ t body, body? t = some body → LongestFront Form t body
  complete : ∀ t body, body <+: t → Form body → body? t ≠ none

namespace Keyword

variable {words : Text} {mark : Char} {Form : Text → Prop} {body? : Text → Option Text}
  {t : Text} {i j : Nat}

theorem exists_cut_of_match (h : Keyword words mark Form body?) {m : Match}
    (hmatch : stripRule words body? t = some m) :
    ∃ c body after, t = (words ++ [c] ++ body) ++ after ∧ CharClass.space c = true ∧
      m = ⟨(words ++ [c] ++ body).length, body⟩ := by
  obtain ⟨c, rest, body, ht, hc, hbody, rfl⟩ := stripRule_eq_some_iff.1 hmatch
  obtain ⟨after, rfl⟩ := (h.found rest body hbody).front
  have hsize : words.length + 1 + body.length = (words ++ [c] ++ body).length := by
    simp only [List.length_append, List.length_singleton]
  exact ⟨c, body, after, by simp [ht], hc, by rw [hsize]⟩

theorem furthestMark_of_match (h : Keyword words mark Form body?) {m : Match}
    (hmatch : stripRule words body? (t.drop i) = some m) :
    ∃ last, FurthestMark (SegmentAt words Form t) i last ∧ i + m.size = last + 1 := by
  obtain ⟨c, rest, body, hdrop, hc, hbody, rfl⟩ := stripRule_eq_some_iff.1 hmatch
  have hlongest := h.found rest body hbody
  obtain ⟨after, hrest⟩ := hlongest.front
  refine ⟨i + words.length + body.length, ⟨?_, ?_⟩, by dsimp only; omega⟩
  · exact segmentAt_iff.2 ⟨c, body, after, by rw [hrest, hdrop], hc, hlongest.form, rfl⟩
  · intro last hsegment
    obtain ⟨c', body', after', hdrop', -, hform', rfl⟩ := segmentAt_iff.1 hsegment
    rw [hdrop] at hdrop'
    have hrest' := (List.cons.inj (List.append_cancel_left hdrop')).2
    have hlength := hlongest.longest body' ⟨after', hrest'.symm⟩ hform'
    omega

theorem exists_match_of_segmentAt (h : Keyword words mark Form body?) {last : Nat}
    (hsegment : SegmentAt words Form t i last) :
    i < t.length ∧ ∃ m, stripRule words body? (t.drop i) = some m := by
  obtain ⟨c, body, after, hdrop, hc, hform, -⟩ := segmentAt_iff.1 hsegment
  constructor
  · by_contra hlt
    rw [List.drop_eq_nil_of_le (by omega)] at hdrop
    simp at hdrop
  · obtain ⟨body', hbody'⟩ := Option.ne_none_iff_exists'.1
      (h.complete (body ++ after) body (List.prefix_append _ _) hform)
    exact ⟨_, stripRule_eq_some_iff.2 ⟨c, body ++ after, body', hdrop, hc, hbody', rfl⟩⟩

theorem add_le_of_lt (h : Keyword words mark Form body?) {last last' : Nat}
    (hi : SegmentAt words Form t i last) (hj : SegmentAt words Form t j last') (hij : i < j) :
    i + (words.length + 1) ≤ j := by
  obtain ⟨c, body, after, hdrop, hc, -, -⟩ := segmentAt_iff.1 hi
  obtain ⟨c', body', after', hdrop', -, -, -⟩ := segmentAt_iff.1 hj
  obtain ⟨d, rfl⟩ := Nat.exists_eq_add_of_lt hij
  rw [Nat.add_assoc, ← List.drop_drop, hdrop] at hdrop'
  by_contra hlt
  rw [List.drop_append_of_le_length (by omega)] at hdrop'
  have hprefix : words.drop (d + 1) <+: words ++ c' :: (body' ++ after') := ⟨_, hdrop'⟩
  rcases Nat.lt_or_ge (d + 1) words.length with hd | hd
  · -- the second keyword would begin inside of the first
    have hshort : words.drop (d + 1) <+: words := by
      apply List.prefix_of_prefix_length_le hprefix (List.prefix_append _ _)
      rw [List.length_drop]
      omega
    exact h.unbordered (d + 1) hd (Nat.succ_pos d) hshort
  · -- it would begin with the whitespace character
    rw [List.drop_eq_nil_of_le hd, List.nil_append] at hdrop'
    cases words with
    | nil => simp at hlt
    | cons a words =>
        obtain ⟨rfl, -⟩ := List.cons.inj hdrop'
        have hhead : CharClass.space c = false := h.head
        rw [hhead] at hc
        cases hc

theorem drop_mark (h : Keyword words mark Form body?) {last : Nat}
    (hsegment : SegmentAt words Form t i last) : ∃ after, t.drop last = mark :: after := by
  obtain ⟨before, c, body, after, rfl, rfl, -, hform, rfl⟩ := hsegment
  obtain ⟨front, rfl⟩ := h.form_mark body hform
  refine ⟨after, ?_⟩
  have hcut : before ++ (words ++ c :: (front ++ [mark] ++ after)) =
      (before ++ (words ++ c :: front)) ++ mark :: after := by simp
  rw [hcut]
  apply List.drop_left'
  simp only [List.length_append, List.length_cons, List.length_nil]
  omega

theorem add_le_mark (h : Keyword words mark Form body?) {last last' : Nat}
    (hi : SegmentAt words Form t i last) (hj : SegmentAt words Form t j last') (hle : j ≤ last) :
    j + (words.length + 1) ≤ last := by
  obtain ⟨rest, hlast⟩ := h.drop_mark hi
  obtain ⟨c, body, after, hdrop, hc, -, -⟩ := segmentAt_iff.1 hj
  obtain ⟨d, rfl⟩ := Nat.exists_eq_add_of_le hle
  rw [← List.drop_drop, hdrop] at hlast
  by_contra hlt
  rcases Nat.lt_or_ge d words.length with hd | hd
  · obtain ⟨a, ha, others, hword⟩ := exists_drop_append hd (c :: (body ++ after))
    rw [hword] at hlast
    obtain ⟨rfl, -⟩ := List.cons.inj hlast
    exact h.mark_not_mem ha
  · obtain rfl : d = words.length := by omega
    rw [List.drop_left] at hlast
    obtain ⟨rfl, -⟩ := List.cons.inj hlast
    rw [h.mark_not_space] at hc
    cases hc

/-! ## The whole text -/

theorem substitute_eq_deleteSegments (h : Keyword words mark Form body?) (t : Text) :
    substitute (stripRule words body?) t =
      deleteSegments (words.length + 1) (matchPlaces (stripRule words body?) t) t := by
  induction t using match_induction (stripRule words body?) Match.size with
  | nil => rfl
  | keep c cs hmatch ih =>
      rw [substitute_of_none hmatch, matchPlaces_of_none hmatch, ih]
      exact (deleteSegments_append _ [] _ [c] cs (by simp)).symm
  | take c cs m hmatch ih =>
      obtain ⟨c', body, after, hcut, -, rfl⟩ := h.exists_cut_of_match hmatch
      have hdrop := (take_drop_of_cons_eq_append hcut (by simp)).2
      have hsize : (words ++ [c'] ++ body).length - 1 + 1 = (words ++ [c'] ++ body).length :=
        Nat.sub_add_cancel (List.length_pos_of_ne_nil (by simp))
      have hfront : deleteSegments (words.length + 1) [0] (words ++ [c'] ++ body) = body :=
        deleteSegments_front (by simp) body
      have happend := deleteSegments_append (words.length + 1) [0]
        (matchPlaces (stripRule words body?) after) (words ++ [c'] ++ body) after (by simp)
      rw [hdrop] at ih
      rw [substitute_cons, hmatch, matchPlaces_of_some hmatch]
      dsimp only
      rw [hdrop, ih, hsize, hcut]
      rw [hfront] at happend
      exact happend.symm

theorem substitute?_eq_none_iff (h : Keyword words mark Form body?) :
    substitute? (stripRule words body?) t = none ↔ ∀ i last, ¬ SegmentAt words Form t i last := by
  rw [substitute?, Option.map_eq_none_iff, ← matchPlaces_eq_nil_iff]
  constructor
  · intro hnil i last hsegment
    obtain ⟨hi, m, hmatch⟩ := h.exists_match_of_segmentAt hsegment
    have hplaces := mem_matchPlaces_or_inside hi hmatch
    simp [hnil] at hplaces
  · intro hnone
    apply List.eq_nil_iff_forall_not_mem.2
    intro i hi
    obtain ⟨m, hmatch⟩ := rule_of_mem_matchPlaces hi
    obtain ⟨last, hfurthest, -⟩ := h.furthestMark_of_match hmatch
    exact hnone i last hfurthest.1

theorem deletesSegments (h : Keyword words mark Form body?) {u : Text}
    (hu : substitute? (stripRule words body?) t = some u) :
    DeletesSegments (words.length + 1) (SegmentAt words Form t) t u
      (matchPlaces (stripRule words body?) t) := by
  obtain ⟨m, hfirst, rfl⟩ := Option.map_eq_some_iff.1 hu
  refine ⟨?_, ?_, ?_, h.substitute_eq_deleteSegments t, ?_⟩
  · rw [Ne, matchPlaces_eq_nil_iff, hfirst]
    simp
  · intro i hi
    obtain ⟨m', hmatch⟩ := rule_of_mem_matchPlaces hi
    obtain ⟨last, hfurthest, -⟩ := h.furthestMark_of_match hmatch
    exact ⟨last, hfurthest.1⟩
  · refine pairwise_matchPlaces.imp_of_mem ?_
    intro i j hi _ hij
    obtain ⟨m', hmatch⟩ := rule_of_mem_matchPlaces hi
    have hend := hij m' hmatch
    obtain ⟨c, rest, body, -, -, -, rfl⟩ := stripRule_eq_some_iff.1 hmatch
    dsimp only at hend
    omega
  · intro j last' hsegment hj
    obtain ⟨hlt, m', hmatch⟩ := h.exists_match_of_segmentAt hsegment
    obtain ⟨s, hs, m₀, hmatch₀, hsj, hend⟩ :=
      (mem_matchPlaces_or_inside hlt hmatch).resolve_left hj
    obtain ⟨last, hfurthest, hsize⟩ := h.furthestMark_of_match hmatch₀
    exact ⟨s, hs, last, hfurthest, h.add_le_of_lt hfurthest.1 hsegment hsj,
      h.add_le_mark hfurthest.1 hsegment (by omega)⟩

end Keyword

/-! ## The two patches -/

theorem keyword_function : Keyword constexprWord '{' UpToBrace functionHead? where
  head := by decide +kernel
  unbordered := by decide +kernel
  mark_not_mem := by decide +kernel
  mark_not_space := by decide +kernel
  form_mark := by
    rintro _ ⟨line, blanks, rfl, -⟩
    exact ⟨line ++ blanks, rfl⟩
  found := fun _ _ => functionHead?_eq_some
  complete := fun _ _ => functionHead?_ne_none

theorem keyword_object : Keyword staticConstexprWords ';' UpToSemicolon objectDefinition? where
  head := by decide +kernel
  unbordered := by decide +kernel
  mark_not_mem := by decide +kernel
  mark_not_space := by decide +kernel
  form_mark := by
    rintro _ ⟨line, rfl, -⟩
    exact ⟨line, rfl⟩
  found := fun _ _ => objectDefinition?_eq_some
  complete := fun _ _ => objectDefinition?_ne_none

/-- Each of the two patches is refused where its keyword leads to no mark.  Elsewhere it
deletes keywords with a whitespace character, ten and seventeen characters long, and
changes nothing else. -/
theorem strips_delete_keyword_segments (t : Text) :
    (stripConstexprFunctions t = none ↔
      ∀ i mark, ¬ SegmentAt constexprWord UpToBrace t i mark) ∧
    (∀ u, stripConstexprFunctions t = some u →
      ∃ starts, DeletesSegments 10 (SegmentAt constexprWord UpToBrace t) t u starts) ∧
    (stripStaticConstexprObjects t = none ↔
      ∀ i mark, ¬ SegmentAt staticConstexprWords UpToSemicolon t i mark) ∧
    (∀ u, stripStaticConstexprObjects t = some u →
      ∃ starts,
        DeletesSegments 17 (SegmentAt staticConstexprWords UpToSemicolon t) t u starts) := by
  refine ⟨keyword_function.substitute?_eq_none_iff, ?_, keyword_object.substitute?_eq_none_iff, ?_⟩
  · intro u hu
    exact ⟨_, keyword_function.deletesSegments hu⟩
  · intro u hu
    exact ⟨_, keyword_object.deletesSegments hu⟩

/-- A function whose brace stands on the next line, with the keyword in its parameters,
and two objects on one line. -/
theorem strips_delete_keyword_segments_nested :
    ∃ t u v : Text,
      t = ("constexpr int f(constexpr int n)\n\x7b\n" ++
        "static constexpr int a = 1; static constexpr int b; c").toList ∧
      u = ("int f(constexpr int n)\n\x7b\n" ++
        "static constexpr int a = 1; static constexpr int b; c").toList ∧
      v = ("constexpr int f(constexpr int n)\n\x7b\n" ++
        "int a = 1; static constexpr int b; c").toList ∧
      stripConstexprFunctions t = some u ∧ stripStaticConstexprObjects t = some v ∧
      (∃ starts, DeletesSegments 10 (SegmentAt constexprWord UpToBrace t) t u starts) ∧
      ∃ starts, DeletesSegments 17 (SegmentAt staticConstexprWords UpToSemicolon t) t v starts := by
  refine ⟨_, _, _, rfl, rfl, rfl, ?_⟩
  have hfunction : stripConstexprFunctions ("constexpr int f(constexpr int n)\n\x7b\n" ++
      "static constexpr int a = 1; static constexpr int b; c").toList =
      some ("int f(constexpr int n)\n\x7b\n" ++
        "static constexpr int a = 1; static constexpr int b; c").toList := by
    decide +kernel
  have hobject : stripStaticConstexprObjects ("constexpr int f(constexpr int n)\n\x7b\n" ++
      "static constexpr int a = 1; static constexpr int b; c").toList =
      some ("constexpr int f(constexpr int n)\n\x7b\n" ++
        "int a = 1; static constexpr int b; c").toList := by
    decide +kernel
  obtain ⟨-, hfunctions, -, hobjects⟩ := strips_delete_keyword_segments
    ("constexpr int f(constexpr int n)\n\x7b\n" ++
      "static constexpr int a = 1; static constexpr int b; c").toList
  exact ⟨hfunction, hobject, hfunctions _ hfunction, hobjects _ hobject⟩

end UnitReducer.Patch
