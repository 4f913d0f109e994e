import UnitReducer.Patch.Quotes
import UnitReducer.Proofs.LineBreaks
/-!
# Where a quoted pair is found

`QuotedPair.Spans` spells out the text between the two double quotes of a match.
On a stretch without double quotes a pair is found exactly when two single quotes
stand far enough apart (`exists_pair?_append`, `pair?_append_of_not_wide`).
-/

namespace UnitReducer.Patch

/-! ## What is found -/

/-- A single quote, with or without a backslash. -/
def IsQuote (q : Text) : Prop :=
  q = ['\''] ∨ q = ['\\', '\'']

/-- The text `s` between two double quotes is spelled as `p` says. -/
structure QuotedPair.Spans (p : QuotedPair) (s : Text) : Prop where
  spelled : ∃ q q', IsQuote q ∧ IsQuote q' ∧
    s = p.lead ++ (q ++ (p.inner ++ (q' ++ p.tail)))
  lead : '\n' ∉ p.lead
  inner : ∀ c ∈ p.inner, innerChar c = true
  tail : ∀ c ∈ p.tail, innerChar c = true
  wide : 2 ≤ p.inner.length
  size : p.size = s.length + 1

theorem innerChar_iff {c : Char} : innerChar c = true ↔ c ≠ '"' ∧ c ≠ '\n' := by
  simp [innerChar]

theorem quote_not_mem {s : Text} (hs : ∀ c ∈ s, innerChar c = true) : '"' ∉ s :=
  fun h => (innerChar_iff.1 (hs _ h)).1 rfl

theorem newline_not_mem {s : Text} (hs : ∀ c ∈ s, innerChar c = true) : '\n' ∉ s :=
  fun h => (innerChar_iff.1 (hs _ h)).2 rfl

theorem innerChar_of_mem_isQuote {q : Text} (hq : IsQuote q) {c : Char} (hc : c ∈ q) :
    innerChar c = true := by
  have hall : q.all innerChar = true := by
    rcases hq with rfl | rfl
    · rfl
    · rfl
  exact List.all_eq_true.1 hall c hc

theorem toQuote?_eq_some {t passed rest : Text} (h : toQuote? t = some (passed, rest)) :
    ∃ q, IsQuote q ∧ t = passed ++ (q ++ rest) ∧ ∀ c ∈ passed, innerChar c = true := by
  fun_induction toQuote? t generalizing passed with
  | case1 => cases h
  | case2 t =>
      cases h
      exact ⟨_, Or.inl rfl, rfl, by simp⟩
  | case3 t =>
      cases h
      exact ⟨_, Or.inr rfl, rfl, by simp⟩
  | case4 c t _ _ hc ih =>
      obtain ⟨⟨passed', rest'⟩, hpassed, heq⟩ := Option.map_eq_some_iff.1 h
      obtain ⟨rfl, rfl⟩ := Prod.mk.inj heq
      obtain ⟨q, hq, rfl, hinner⟩ := ih hpassed
      exact ⟨q, hq, rfl, List.forall_mem_cons.2 ⟨hc, hinner⟩⟩
  | case5 c t _ _ hc => cases h

theorem inside?_eq_some {t inner rest : Text} (h : inside? t = some (inner, rest)) :
    ∃ q, IsQuote q ∧ t = inner ++ (q ++ rest) ∧ (∀ c ∈ inner, innerChar c = true) ∧
      2 ≤ inner.length := by
  unfold inside? at h
  split at h
  next a b t =>
    split at h
    next hab =>
      rw [Bool.and_eq_true] at hab
      obtain ⟨⟨passed, rest'⟩, hpassed, heq⟩ := Option.map_eq_some_iff.1 h
      obtain ⟨rfl, rfl⟩ := Prod.mk.inj heq
      obtain ⟨q, hq, rfl, hinner⟩ := toQuote?_eq_some hpassed
      refine ⟨q, hq, rfl, ?_, by simp⟩
      exact List.forall_mem_cons.2 ⟨hab.1, List.forall_mem_cons.2 ⟨hab.2, hinner⟩⟩
    next => cases h
  next => cases h

theorem afterQuote?_eq_some {t rest : Text} (h : afterQuote? t = some rest) :
    ∃ q, IsQuote q ∧ t = q ++ rest := by
  unfold afterQuote? at h
  split at h
  · cases h
    exact ⟨_, Or.inl rfl, rfl⟩
  · cases h
    exact ⟨_, Or.inr rfl, rfl⟩
  · cases h

theorem toDoubleQuote?_eq_some {t tail : Text} (h : toDoubleQuote? t = some tail) :
    ∃ rest, t = tail ++ '"' :: rest ∧ ∀ c ∈ tail, innerChar c = true := by
  fun_induction toDoubleQuote? t generalizing tail with
  | case1 => cases h
  | case2 rest =>
      cases h
      exact ⟨rest, rfl, by simp⟩
  | case3 t => cases h
  | case4 c t hquote hnewline ih =>
      obtain ⟨tail', htail', rfl⟩ := Option.map_eq_some_iff.1 h
      obtain ⟨rest, rfl, hinner⟩ := ih htail'
      have hc : innerChar c = true := innerChar_iff.2 ⟨hquote, hnewline⟩
      exact ⟨rest, rfl, List.forall_mem_cons.2 ⟨hc, hinner⟩⟩

theorem pairHere?_eq_some {t : Text} {p : QuotedPair} (h : pairHere? t = some p) :
    p.lead = [] ∧ ∃ s rest, t = s ++ '"' :: rest ∧ p.Spans s := by
  unfold pairHere? at h
  simp only [Option.bind_eq_bind, Option.bind_eq_some_iff, Option.pure_def] at h
  obtain ⟨opened, hopened, ⟨inner, after⟩, hinside, tail, htail, heq⟩ := h
  obtain ⟨q, hq, rfl⟩ := afterQuote?_eq_some hopened
  obtain ⟨q', hq', rfl, hinner, hwide⟩ := inside?_eq_some hinside
  obtain ⟨rest, hrest, htail'⟩ := toDoubleQuote?_eq_some htail
  dsimp only at hrest
  subst hrest
  rw [Option.some.injEq] at heq
  subst heq
  refine ⟨rfl, q ++ (inner ++ (q' ++ tail)), rest, by simp, ?_⟩
  refine ⟨⟨q, q', hq, hq', rfl⟩, List.not_mem_nil, hinner, htail', hwide, ?_⟩
  simp only [List.length_append, List.length_cons]
  omega

theorem pair?_eq_some {t : Text} {p : QuotedPair} (h : pair? t = some p) :
    ∃ s rest, t = s ++ '"' :: rest ∧ p.Spans s := by
  induction t generalizing p with
  | nil => cases h
  | cons c cs ih =>
      rw [pair?] at h
      split at h
      next p' hhere =>
        obtain rfl := Option.some.inj h
        exact (pairHere?_eq_some hhere).2
      next =>
        split at h
        next => cases h
        next hc =>
          obtain ⟨p', hp', rfl⟩ := Option.map_eq_some_iff.1 h
          obtain ⟨s, rest, rfl, hspans⟩ := ih hp'
          obtain ⟨q, q', hq, hq', hs⟩ := hspans.spelled
          refine ⟨c :: s, rest, rfl, ⟨q, q', hq, hq', by rw [hs]; rfl⟩, ?_, hspans.inner,
            hspans.tail, hspans.wide, ?_⟩
          · rw [List.mem_cons, not_or]
            exact ⟨Ne.symm hc, hspans.lead⟩
          · rw [hspans.size, List.length_cons]

namespace QuotedPair.Spans

variable {p : QuotedPair} {s : Text}

theorem quote_mem_iff (h : p.Spans s) : '"' ∈ s ↔ '"' ∈ p.lead := by
  obtain ⟨q, q', hq, hq', hs⟩ := h.spelled
  have hq := quote_not_mem fun c => innerChar_of_mem_isQuote hq (c := c)
  have hq' := quote_not_mem fun c => innerChar_of_mem_isQuote hq' (c := c)
  have hinner := quote_not_mem h.inner
  have htail := quote_not_mem h.tail
  rw [hs]
  simp only [List.mem_append, hq, hq', hinner, htail, or_false]

theorem newline_not_mem (h : p.Spans s) : '\n' ∉ s := by
  obtain ⟨q, q', hq, hq', hs⟩ := h.spelled
  have hq := Patch.newline_not_mem fun c => innerChar_of_mem_isQuote hq (c := c)
  have hq' := Patch.newline_not_mem fun c => innerChar_of_mem_isQuote hq' (c := c)
  have hinner := Patch.newline_not_mem h.inner
  have htail := Patch.newline_not_mem h.tail
  rw [hs]
  simp only [List.mem_append, h.lead, hq, hq', hinner, htail, or_false, not_false_eq_true]

end QuotedPair.Spans

/-! ## Wide pairs -/

/-- Two single quotes with two characters or more between them. -/
def HasWidePair (s : Text) : Prop :=
  ∃ x y z, s = x ++ '\'' :: (y ++ '\'' :: z) ∧ 2 ≤ y.length

theorem hasWidePair_cons_iff {c : Char} {s : Text} :
    HasWidePair (c :: s) ↔ c = '\'' ∧ '\'' ∈ s.drop 2 ∨ HasWidePair s := by
  constructor
  · rintro ⟨x, y, z, h, hy⟩
    cases x with
    | nil =>
        obtain ⟨rfl, rfl⟩ := List.cons.inj h
        refine Or.inl ⟨rfl, ?_⟩
        rw [List.drop_append_of_le_length hy]
        simp
    | cons d x => exact Or.inr ⟨x, y, z, (List.cons.inj h).2, hy⟩
  · rintro (⟨rfl, hmem⟩ | ⟨x, y, z, rfl, hy⟩)
    · obtain ⟨y, z, hyz⟩ := List.append_of_mem hmem
      have hlength : (s.take 2).length = 2 := by
        have hdrop := List.length_pos_of_mem hmem
        rw [List.length_drop] at hdrop
        rw [List.length_take]
        omega
      refine ⟨[], s.take 2 ++ y, z, ?_, by rw [List.length_append]; omega⟩
      rw [List.append_assoc, ← hyz, List.take_append_drop, List.nil_append]
    · exact ⟨c :: x, y, z, rfl, hy⟩

theorem not_hasWidePair_nil : ¬ HasWidePair [] := by
  rintro ⟨x, y, z, h, -⟩
  simp at h

instance : (s : Text) → Decidable (HasWidePair s)
  | [] => isFalse not_hasWidePair_nil
  | c :: s =>
    have : Decidable (HasWidePair s) := instDecidableHasWidePair s
    decidable_of_iff (c = '\'' ∧ '\'' ∈ s.drop 2 ∨ HasWidePair s) hasWidePair_cons_iff.symm

theorem QuotedPair.Spans.hasWidePair {p : QuotedPair} {s : Text} (h : p.Spans s) :
    HasWidePair s := by
  obtain ⟨q, q', hq, hq', hs⟩ := h.spelled
  -- a backslash goes to what stands before its quote
  obtain ⟨x, rfl⟩ : ∃ x, q = x ++ ['\''] := by
    rcases hq with rfl | rfl
    · exact ⟨[], rfl⟩
    · exact ⟨['\\'], rfl⟩
  obtain ⟨y, rfl⟩ : ∃ y, q' = y ++ ['\''] := by
    rcases hq' with rfl | rfl
    · exact ⟨[], rfl⟩
    · exact ⟨['\\'], rfl⟩
  refine ⟨p.lead ++ x, p.inner ++ y, p.tail, by simp [hs], ?_⟩
  rw [List.length_append]
  exact Nat.le_add_right_of_le h.wide

/-! ## Stretches without double quotes -/

theorem exists_toQuote?_append {s : Text} (hs : ∀ c ∈ s, innerChar c = true)
    (hquote : '\'' ∈ s) (w : Text) :
    ∃ passed s', toQuote? (s ++ w) = some (passed, s' ++ w) ∧
      ∀ c ∈ s', innerChar c = true := by
  fun_induction toQuote? s with
  | case1 => cases hquote
  | case2 s => exact ⟨[], s, rfl, (List.forall_mem_cons.1 hs).2⟩
  | case3 s => exact ⟨[], s, rfl, (List.forall_mem_cons.1 (List.forall_mem_cons.1 hs).2).2⟩
  | case4 c s hc hbackslash hinner ih =>
      have hmem : '\'' ∈ s := (List.mem_cons.1 hquote).resolve_left fun h => hc h.symm
      obtain ⟨passed, s', h, hs'⟩ := ih (List.forall_mem_cons.1 hs).2 hmem
      refine ⟨c :: passed, s', ?_, hs'⟩
      have hnext : ∀ rest, c = '\\' → s ++ w = '\'' :: rest → False := by
        intro rest hc heq
        obtain ⟨d, s, rfl⟩ := List.exists_cons_of_ne_nil (List.ne_nil_of_mem hmem)
        obtain rfl := (List.cons.inj heq).1
        exact hbackslash s hc rfl
      rw [List.cons_append, toQuote?.eq_4 _ _ hc hnext, if_pos hinner, h]
      rfl
  | case5 c s hc hbackslash hinner => exact absurd (List.forall_mem_cons.1 hs).1 hinner

theorem toDoubleQuote?_append {s : Text} (hs : ∀ c ∈ s, innerChar c = true) (rest : Text) :
    toDoubleQuote? (s ++ '"' :: rest) = some s := by
  induction s with
  | nil => rfl
  | cons c s ih =>
      obtain ⟨hc, hs⟩ := List.forall_mem_cons.1 hs
      obtain ⟨hquote, hnewline⟩ := innerChar_iff.1 hc
      rw [List.cons_append, toDoubleQuote?.eq_3 _ _ hquote, if_neg hnewline, ih hs]
      rfl

theorem pairHere?_ne_none {s : Text} (hs : ∀ c ∈ s, innerChar c = true)
    (hquote : '\'' ∈ s.drop 2) (rest : Text) :
    pairHere? ('\'' :: (s ++ '"' :: rest)) ≠ none := by
  match s, hs, hquote with
  | a :: b :: s, hs, hquote =>
      obtain ⟨ha, hs⟩ := List.forall_mem_cons.1 hs
      obtain ⟨hb, hs⟩ := List.forall_mem_cons.1 hs
      obtain ⟨passed, s', hto, hs'⟩ := exists_toQuote?_append hs hquote ('"' :: rest)
      have hinside : inside? (a :: b :: (s ++ '"' :: rest)) =
          some (a :: b :: passed, s' ++ '"' :: rest) := by
        rw [inside?, ha, hb, hto]
        rfl
      simp [pairHere?, afterQuote?, hinside, toDoubleQuote?_append hs']

theorem pairHere?_append_of_not_wide {s : Text} (hs : '"' ∉ s) (h : ¬ HasWidePair s)
    (rest : Text) : pairHere? (s ++ '"' :: rest) = none := by
  by_contra hne
  obtain ⟨p, hp⟩ := Option.ne_none_iff_exists'.1 hne
  obtain ⟨hlead, s', rest', heq, hspans⟩ := pairHere?_eq_some hp
  have hs' : '"' ∉ s' := by
    rw [hspans.quote_mem_iff, hlead]
    exact List.not_mem_nil
  obtain ⟨rfl, -⟩ := Text.append_cons_inj hs hs' heq
  exact h hspans.hasWidePair

/-- The pair seen from further left, behind `s`. -/
def QuotedPair.behind (s : Text) (p : QuotedPair) : QuotedPair :=
  { p with lead := s ++ p.lead, size := p.size + s.length }

theorem pair?_append_of_not_wide {s : Text} (hs : ∀ c ∈ s, innerChar c = true)
    (h : ¬ HasWidePair s) (rest : Text) :
    pair? (s ++ '"' :: rest) = (pair? rest).map (QuotedPair.behind (s ++ ['"'])) := by
  induction s with
  | nil => rfl
  | cons c s ih =>
      have hhere := pairHere?_append_of_not_wide (quote_not_mem hs) h rest
      obtain ⟨hc, hs⟩ := List.forall_mem_cons.1 hs
      rw [hasWidePair_cons_iff, not_or] at h
      rw [List.cons_append] at hhere ⊢
      rw [pair?, hhere]
      dsimp only
      rw [if_neg (innerChar_iff.1 hc).2, ih hs h.2, Option.map_map]
      rfl

theorem exists_pair?_append {s : Text} (hs : ∀ c ∈ s, innerChar c = true)
    (h : HasWidePair s) (rest : Text) :
    ∃ p, pair? (s ++ '"' :: rest) = some p ∧ p.Spans s := by
  have hfound : ∃ p, pair? (s ++ '"' :: rest) = some p ∧ '"' ∉ p.lead := by
    induction s with
    | nil => exact absurd h not_hasWidePair_nil
    | cons c s ih =>
        obtain ⟨hc, hrest⟩ := List.forall_mem_cons.1 hs
        rw [List.cons_append, pair?]
        cases hhere : pairHere? (c :: (s ++ '"' :: rest)) with
        | some p =>
            refine ⟨p, rfl, ?_⟩
            rw [(pairHere?_eq_some hhere).1]
            exact List.not_mem_nil
        | none =>
            have hwide : HasWidePair s := by
              rcases hasWidePair_cons_iff.1 h with ⟨rfl, hquote⟩ | hwide
              · exact absurd hhere (pairHere?_ne_none hrest hquote rest)
              · exact hwide
            obtain ⟨p, hp, hlead⟩ := ih hrest hwide
            dsimp only
            rw [if_neg (innerChar_iff.1 hc).2, hp]
            refine ⟨_, rfl, ?_⟩
            rw [List.mem_cons, not_or]
            exact ⟨Ne.symm (innerChar_iff.1 hc).1, hlead⟩
  obtain ⟨p, hp, hlead⟩ := hfound
  obtain ⟨s', rest', heq, hspans⟩ := pair?_eq_some hp
  obtain ⟨rfl, -⟩ := Text.append_cons_inj (quote_not_mem hs)
    (fun hmem => hlead (hspans.quote_mem_iff.1 hmem)) heq
  exact ⟨p, hp, hspans⟩

theorem pair?_of_open {s w : Text} (hs : '"' ∉ s) (hw : w = [] ∨ ∃ rest, w = '\n' :: rest) :
    pair? (s ++ w) = none := by
  by_contra hne
  obtain ⟨p, hp⟩ := Option.ne_none_iff_exists'.1 hne
  obtain ⟨s', rest, heq, hspans⟩ := pair?_eq_some hp
  rcases hw with rfl | ⟨w, rfl⟩
  · apply hs
    rw [List.append_nil] at heq
    rw [heq]
    simp
  · -- either the LF stands before the closing quote, or the quote in the stretch
    rcases List.append_eq_append_iff.1 heq with
      ⟨between, rfl, hbetween⟩ | ⟨between, rfl, hbetween⟩
    · cases between with
      | nil => simp at hbetween
      | cons c between =>
          obtain ⟨rfl, -⟩ := List.cons.inj hbetween
          exact hspans.newline_not_mem (by simp)
    · cases between with
      | nil => simp at hbetween
      | cons c between =>
          obtain ⟨rfl, -⟩ := List.cons.inj hbetween
          exact hs (by simp)

end UnitReducer.Patch
