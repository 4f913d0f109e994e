import UnitReducer.Proofs.QuotedPairs
import UnitReducer.Proofs.Substitutions
import Mathlib.Data.List.GetD
/-!
# Quotes outside of literals

The double quotes of a line cut it into stretches.  A match begins at one of them
and takes the first stretch with a wide pair, so it stays inside the literal that it
begins with only if this literal has one.  `escapeQuotes` looks at its first match
alone; `escapeQuotes_stays_in_literals_iff` says on which texts the others stay inside
as well.
-/

namespace UnitReducer.Patch

/-! ## Rewritten pairs -/

/-- The parts of a text in which quoted pairs are doubled. -/
def quoteParts (t : Text) : List (Part QuotedPair) :=
  parts literalPair? QuotedPair.toMatch t

def rewritten (t : Text) : List QuotedPair :=
  (quoteParts t).filterMap Part.found?

/-- No match runs across a double quote before it comes to its pair. -/
def StaysInLiterals (t : Text) : Prop :=
  ∀ p ∈ rewritten t, '"' ∉ p.lead

instance (t : Text) : Decidable (StaysInLiterals t) :=
  inferInstanceAs (Decidable (∀ p ∈ rewritten t, '"' ∉ p.lead))

theorem rewritten_cons_of_ne {c : Char} (hc : c ≠ '"') (cs : Text) :
    rewritten (c :: cs) = rewritten cs := by
  have hnone : literalPair? (c :: cs) = none := by
    rw [literalPair?]
    intro rest h
    exact hc (List.cons.inj h).1
  rw [rewritten, quoteParts, parts_of_none _ hnone]
  rfl

theorem rewritten_append {s : Text} (hs : '"' ∉ s) (t : Text) :
    rewritten (s ++ t) = rewritten t := by
  induction s with
  | nil => rfl
  | cons c s ih =>
      rw [List.mem_cons, not_or] at hs
      rw [List.cons_append, rewritten_cons_of_ne (Ne.symm hs.1), ih hs.2]

theorem rewritten_of_pair?_eq_none {t : Text} (h : pair? t = none) :
    rewritten ('"' :: t) = rewritten t := by
  have hnone : literalPair? ('"' :: t) = none := h
  rw [rewritten, quoteParts, parts_of_none _ hnone]
  rfl

theorem rewritten_of_pair?_eq_some {t : Text} {p : QuotedPair} (h : pair? t = some p) :
    rewritten ('"' :: t) = p :: rewritten (t.drop p.size) := by
  have hsome : literalPair? ('"' :: t) = some p := h
  rw [rewritten, quoteParts, parts_of_some _ hsome]
  rfl

theorem staysInLiterals_of_spans_iff {s rest : Text} {p : QuotedPair}
    (h : pair? (s ++ '"' :: rest) = some p) (hspans : p.Spans s) (hs : '"' ∉ s) :
    StaysInLiterals ('"' :: (s ++ '"' :: rest)) ↔ StaysInLiterals rest := by
  have hsize : p.size = (s ++ ['"']).length := by
    rw [hspans.size, List.length_append, List.length_singleton]
  have hdrop : (s ++ '"' :: rest).drop p.size = rest := by
    rw [List.append_cons s, hsize, List.drop_left]
  rw [StaysInLiterals, rewritten_of_pair?_eq_some h, hdrop, List.forall_mem_cons]
  exact and_iff_right fun hlead => hs (hspans.quote_mem_iff.2 hlead)

theorem not_staysInLiterals_of_not_wide {s rest : Text} (hs : ∀ c ∈ s, innerChar c = true)
    (hwide : ¬ HasWidePair s) (hrest : pair? rest ≠ none) :
    ¬ StaysInLiterals ('"' :: (s ++ '"' :: rest)) := by
  obtain ⟨p, hp⟩ := Option.ne_none_iff_exists'.1 hrest
  have hmatch : pair? (s ++ '"' :: rest) = some (p.behind (s ++ ['"'])) := by
    rw [pair?_append_of_not_wide hs hwide, hp, Option.map_some]
  rw [StaysInLiterals, rewritten_of_pair?_eq_some hmatch, List.forall_mem_cons]
  intro hstays
  apply hstays.1
  simp [QuotedPair.behind]

/-! ## Stretches of a line -/

/-- The stretches between the double quotes of a line. -/
def stretches (line : Text) : List Text :=
  (line.split '"').tail.dropLast

/-- A stretch has a wide pair only if every literal up to it has one.  The literals are
the first stretch, the third and so on. -/
def LiteralsLead (l : List Text) : Prop :=
  ∀ j < l.length, HasWidePair (l.getD j []) → ∀ i ≤ j / 2, HasWidePair (l.getD (2 * i) [])

instance (l : List Text) : Decidable (LiteralsLead l) :=
  inferInstanceAs (Decidable (∀ j < l.length, HasWidePair (l.getD j []) →
    ∀ i ≤ j / 2, HasWidePair (l.getD (2 * i) [])))

theorem literalsLead_of_forall {l : List Text} (h : ∀ s ∈ l, ¬ HasWidePair s) :
    LiteralsLead l := by
  intro j hj hwide
  rw [List.getD_eq_getElem _ _ hj] at hwide
  exact absurd hwide (h _ (List.getElem_mem hj))

theorem hasWidePair_of_literalsLead {s : Text} {l : List Text} (h : LiteralsLead (s :: l))
    (hl : ∃ s' ∈ l, HasWidePair s') : HasWidePair s := by
  obtain ⟨s', hmem, hwide⟩ := hl
  obtain ⟨j, hj, rfl⟩ := List.getElem_of_mem hmem
  have hlead := h (j + 1) (by rw [List.length_cons]; omega)
  rw [List.getD_cons_succ, List.getD_eq_getElem _ _ hj] at hlead
  exact hlead hwide 0 (Nat.zero_le _)

theorem literalsLead_singleton (s : Text) : LiteralsLead [s] := by
  intro j hj hwide i hi
  have hj : j = 0 := by
    rw [List.length_singleton] at hj
    omega
  subst hj
  obtain rfl : i = 0 := by omega
  exact hwide

theorem literalsLead_cons_cons_iff {literal code : Text} (h : HasWidePair literal)
    {l : List Text} : LiteralsLead (literal :: code :: l) ↔ LiteralsLead l := by
  constructor
  · intro hlead j hj hwide i hi
    have hnext := hlead (j + 2) (by simp only [List.length_cons]; omega)
    rw [List.getD_cons_succ, List.getD_cons_succ] at hnext
    exact hnext hwide (i + 1) (by omega)
  · intro hlead j hj hwide i hi
    cases i with
    | zero => exact h
    | succ i =>
        obtain ⟨k, rfl⟩ : ∃ k, j = k + 2 := ⟨j - 2, by omega⟩
        rw [List.getD_cons_succ, List.getD_cons_succ] at hwide
        simp only [List.length_cons] at hj
        exact hlead k (by omega) hwide i (by omega)

/-! ## One line -/

def closeEach (l : List Text) (w : Text) : Text :=
  (l.flatMap fun s => s ++ ['"']) ++ w

@[simp] theorem closeEach_nil (w : Text) : closeEach [] w = w := rfl

@[simp] theorem closeEach_cons (s : Text) (l : List Text) (w : Text) :
    closeEach (s :: l) w = s ++ '"' :: closeEach l w := by
  simp [closeEach]

theorem flatMap_quote_cons (l : List Text) (last w : Text) :
    (l ++ [last]).flatMap ('"' :: ·) ++ w = '"' :: closeEach l (last ++ w) := by
  induction l with
  | nil => simp
  | cons s l ih =>
      rw [List.cons_append, List.flatMap_cons, List.append_assoc, ih, closeEach_cons,
        List.cons_append]

section

variable {l : List Text} {w : Text} (hl : ∀ s ∈ l, ∀ c ∈ s, innerChar c = true)
  (hw : pair? w = none)

include hl hw

theorem pair?_closeEach_eq_none_iff :
    pair? (closeEach l w) = none ↔ ∀ s ∈ l, ¬ HasWidePair s := by
  induction l with
  | nil => simpa using hw
  | cons s l ih =>
      obtain ⟨hs, hl⟩ := List.forall_mem_cons.1 hl
      rw [closeEach_cons, List.forall_mem_cons, ← ih hl]
      by_cases hwide : HasWidePair s
      · obtain ⟨p, hp, -⟩ := exists_pair?_append hs hwide (closeEach l w)
        simp [hp, hwide]
      · rw [pair?_append_of_not_wide hs hwide, Option.map_eq_none_iff]
        exact (and_iff_right hwide).symm

theorem rewritten_closeEach (h : ∀ s ∈ l, ¬ HasWidePair s) :
    rewritten ('"' :: closeEach l w) = rewritten w := by
  induction l with
  | nil => exact rewritten_of_pair?_eq_none hw
  | cons s l ih =>
      rw [rewritten_of_pair?_eq_none ((pair?_closeEach_eq_none_iff hl hw).2 h), closeEach_cons,
        rewritten_append (quote_not_mem (hl s List.mem_cons_self)),
        ih (List.forall_mem_cons.1 hl).2 (List.forall_mem_cons.1 h).2]

end

/-- From its first double quote on, a line is rewritten inside of literals alone exactly
when its literals with a wide pair come first. -/
theorem staysInLiterals_closeEach_iff (l : List Text) {w : Text}
    (hl : ∀ s ∈ l, ∀ c ∈ s, innerChar c = true) (hw : pair? w = none) :
    StaysInLiterals ('"' :: closeEach l w) ↔ LiteralsLead l ∧ StaysInLiterals w := by
  match l, hl with
  | [], _ =>
      have hrewritten := rewritten_of_pair?_eq_none hw
      rw [closeEach_nil, StaysInLiterals, hrewritten]
      exact (and_iff_right (literalsLead_of_forall (by simp))).symm
  | s :: l, hl =>
      obtain ⟨hs, hl'⟩ := List.forall_mem_cons.1 hl
      by_cases hwide : HasWidePair s
      · -- the match ends with the literal, and the code behind it is passed over
        obtain ⟨p, hp, hspans⟩ := exists_pair?_append hs hwide (closeEach l w)
        rw [closeEach_cons, staysInLiterals_of_spans_iff hp hspans (quote_not_mem hs)]
        match l, hl' with
        | [], _ => exact (and_iff_right (literalsLead_singleton s)).symm
        | code :: l, hl' =>
            obtain ⟨hcode, hl'⟩ := List.forall_mem_cons.1 hl'
            rw [literalsLead_cons_cons_iff hwide, ← staysInLiterals_closeEach_iff l hl' hw,
              closeEach_cons, StaysInLiterals, rewritten_append (quote_not_mem hcode)]
            rfl
      · by_cases hnone : ∀ s' ∈ l, ¬ HasWidePair s'
        · have hall : ∀ s' ∈ s :: l, ¬ HasWidePair s' :=
            List.forall_mem_cons.2 ⟨hwide, hnone⟩
          rw [StaysInLiterals, rewritten_closeEach hl hw hall]
          exact (and_iff_right (literalsLead_of_forall hall)).symm
        · -- a match begins here and has its pair behind another double quote
          have hsome := (pair?_closeEach_eq_none_iff hl' hw).not.2 hnone
          have hcross := not_staysInLiterals_of_not_wide hs hwide hsome
          have hlead : ¬ LiteralsLead (s :: l) := by
            intro hlead
            exact hwide (hasWidePair_of_literalsLead hlead (by simpa using hnone))
          rw [closeEach_cons, iff_false_left hcross, not_and]
          exact fun h => absurd h hlead

theorem staysInLiterals_append_iff {s : Text} (hs : '"' ∉ s) {t : Text} :
    StaysInLiterals (s ++ t) ↔ StaysInLiterals t := by
  rw [StaysInLiterals, StaysInLiterals, rewritten_append hs]

theorem staysInLiterals_line_iff {line rest : Text} (hline : '\n' ∉ line)
    (hrest : rest = [] ∨ ∃ next, rest = '\n' :: next) :
    StaysInLiterals (line ++ rest) ↔ LiteralsLead (stretches line) ∧ StaysInLiterals rest := by
  obtain ⟨first, pieces, hsplit⟩ := List.exists_cons_of_ne_nil (Text.split_ne_nil '"' line)
  have hquote : ∀ piece ∈ first :: pieces, '"' ∉ piece := by
    intro piece hpiece
    rw [← hsplit] at hpiece
    exact Text.not_mem_of_mem_split hpiece
  obtain ⟨hfirst, hpieces⟩ := List.forall_mem_cons.1 hquote
  have hcut := Text.eq_append_flatMap_of_split hsplit
  rw [stretches, hsplit, List.tail_cons]
  rcases List.eq_nil_or_concat' pieces with rfl | ⟨l, last, rfl⟩
  · rw [hcut, List.flatMap_nil, List.append_nil, staysInLiterals_append_iff hfirst]
    exact (and_iff_right (literalsLead_of_forall (by simp))).symm
  · have hl : ∀ s ∈ l, ∀ c ∈ s, innerChar c = true := by
      intro s hs c hc
      have hs' : s ∈ l ++ [last] := List.mem_append_left _ hs
      refine innerChar_iff.2 ⟨fun h => hpieces s hs' (h ▸ hc), ?_⟩
      rintro rfl
      apply hline
      rw [hcut, List.mem_append, List.mem_flatMap]
      exact Or.inr ⟨s, hs', List.mem_cons_of_mem _ hc⟩
    have hlast : '"' ∉ last := hpieces last (by simp)
    rw [List.dropLast_concat, hcut, List.append_assoc, staysInLiterals_append_iff hfirst,
      flatMap_quote_cons, staysInLiterals_closeEach_iff l hl (pair?_of_open hlast hrest),
      staysInLiterals_append_iff hlast]

/-! ## All lines -/

theorem staysInLiterals_lines_iff {first : Text} {others : List Text}
    (h : ∀ line ∈ first :: others, '\n' ∉ line) :
    StaysInLiterals (first ++ others.flatMap ('\n' :: ·)) ↔
      ∀ line ∈ first :: others, LiteralsLead (stretches line) := by
  induction others generalizing first with
  | nil =>
      rw [List.flatMap_nil, staysInLiterals_line_iff (h first List.mem_cons_self) (Or.inl rfl),
        List.forall_mem_singleton]
      exact and_iff_left (by simp [StaysInLiterals, rewritten, quoteParts, parts_nil])
  | cons second others ih =>
      obtain ⟨hfirst, hothers⟩ := List.forall_mem_cons.1 h
      have hbreak : '"' ∉ ['\n'] := by simp
      rw [List.flatMap_cons, List.cons_append, List.forall_mem_cons, ← ih hothers,
        staysInLiterals_line_iff hfirst (Or.inr ⟨_, rfl⟩), ← List.singleton_append,
        staysInLiterals_append_iff hbreak]

theorem staysInLiterals_iff (t : Text) :
    StaysInLiterals t ↔ ∀ line ∈ t.split '\n', LiteralsLead (stretches line) := by
  obtain ⟨first, others, hsplit⟩ := List.exists_cons_of_ne_nil (Text.split_ne_nil '\n' t)
  have hlines : ∀ line ∈ first :: others, '\n' ∉ line := by
    intro line hline
    rw [← hsplit] at hline
    exact Text.not_mem_of_mem_split hline
  rw [hsplit, ← staysInLiterals_lines_iff hlines, ← Text.eq_append_flatMap_of_split hsplit]

/-! ## The patch -/

theorem escapeQuotes_eq_some_iff {t u : Text} :
    escapeQuotes t = some u ↔
      ∃ p, first? literalPair? t = some p ∧ '"' ∉ p.lead ∧ '"' ∉ p.tail ∧
        u = substitute quotesRule t := by
  unfold escapeQuotes
  cases first? literalPair? t with
  | none => simp
  | some p =>
      by_cases hnested : '"' ∈ p.lead ∨ '"' ∈ p.tail
      · have hnot : ¬ ('"' ∉ p.lead ∧ '"' ∉ p.tail) := fun h => hnested.elim h.1 h.2
        dsimp only
        rw [if_pos hnested]
        constructor
        · intro h
          cases h
        · rintro ⟨p', hp', hlead, htail, -⟩
          obtain rfl := Option.some.inj hp'
          exact absurd ⟨hlead, htail⟩ hnot
      · dsimp only
        rw [if_neg hnested, Option.some.injEq]
        rw [not_or] at hnested
        simp [hnested, eq_comm]

theorem exists_spans_of_mem_quoteParts {t taken : Text} {p : QuotedPair}
    (h : .matched taken p ∈ quoteParts t) : ∃ s, taken = '"' :: (s ++ ['"']) ∧ p.Spans s := by
  obtain ⟨c, cs, hfind, rfl⟩ := find?_of_mem_parts h
  unfold literalPair? at hfind
  split at hfind
  next cs' heq =>
    obtain ⟨rfl, rfl⟩ := List.cons.inj heq
    obtain ⟨s, rest, rfl, hspans⟩ := pair?_eq_some hfind
    have hsize : p.toMatch.size - 1 = (s ++ ['"']).length := by
      rw [List.length_append]
      exact hspans.size
    refine ⟨s, ?_, hspans⟩
    rw [List.append_cons s _ rest, hsize, List.take_left]
  next => cases hfind

/-- The patch doubles the pairs of all matches, of which it has looked at the first.
Every match goes from one double quote to another.  None of them crosses a double quote
in between exactly when on every line the literals with a wide pair come first. -/
theorem escapeQuotes_stays_in_literals_iff {t u : Text} (h : escapeQuotes t = some u) :
    (quoteParts t).flatMap Part.source = t ∧
      (quoteParts t).flatMap (Part.written QuotedPair.toMatch) = u ∧
      (∀ taken p, .matched taken p ∈ quoteParts t →
        ∃ s, taken = '"' :: (s ++ ['"']) ∧ p.Spans s ∧ ('"' ∈ s ↔ '"' ∈ p.lead)) ∧
      (∃ p ∈ (rewritten t).head?, '"' ∉ p.lead) ∧
      ((∀ p ∈ rewritten t, '"' ∉ p.lead) ↔
        ∀ line ∈ t.split '\n', LiteralsLead (stretches line)) := by
  obtain ⟨p, hfirst, hlead, -, rfl⟩ := escapeQuotes_eq_some_iff.1 h
  refine ⟨flatMap_source_parts _ _ t, (substitute_eq_parts _ _ t).symm, ?_, ⟨p, ?_, hlead⟩,
    staysInLiterals_iff t⟩
  · intro taken p' hmem
    obtain ⟨s, htaken, hspans⟩ := exists_spans_of_mem_quoteParts hmem
    exact ⟨s, htaken, hspans, hspans.quote_mem_iff⟩
  · rw [rewritten, quoteParts, head?_found_parts, hfirst, Option.mem_some]

theorem escapeQuotes_stays_in_literals_two_literals :
    ∃ t u : Text,
      t = "f(\"it 'ab' ok\", 'x', 'y', \"say \\'cd\\'\");\ng(\"a\", 'b');".toList ∧
      u = "f(\"it ''ab'' ok\", 'x', 'y', \"say ''cd''\");\ng(\"a\", 'b');".toList ∧
      escapeQuotes t = some u ∧ (rewritten t).length = 2 ∧
      (quoteParts t).flatMap (Part.written QuotedPair.toMatch) = u ∧
      (∀ p ∈ rewritten t, '"' ∉ p.lead) := by
  have h : escapeQuotes
      "f(\"it 'ab' ok\", 'x', 'y', \"say \\'cd\\'\");\ng(\"a\", 'b');".toList =
      some "f(\"it ''ab'' ok\", 'x', 'y', \"say ''cd''\");\ng(\"a\", 'b');".toList := by
    decide +kernel
  obtain ⟨-, hwritten, -, -, hstays⟩ := escapeQuotes_stays_in_literals_iff h
  exact ⟨_, _, rfl, rfl, h, by decide +kernel, hwritten, hstays.2 (by decide +kernel)⟩

/-- The first match stays inside of its literal; the second begins with a literal that
has no pair and doubles the quotes of the characters behind it. -/
theorem escapeQuotes_rewrites_characters :
    ∃ t u : Text,
      t = "puts(\"it 'ab' ok\");\n\x7b\"text\", '-', '+', \"Print as text\"\x7d,".toList ∧
      u = "puts(\"it ''ab'' ok\");\n\x7b\"text\", ''-', ''+', \"Print as text\"\x7d,".toList ∧
      escapeQuotes t = some u ∧ ∃ p ∈ rewritten t, '"' ∈ p.lead := by
  refine ⟨_, _, rfl, rfl, ?_, ?_⟩
  · decide +kernel
  · decide +kernel

end UnitReducer.Patch
