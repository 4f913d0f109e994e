import UnitReducer.Proofs.QuotedLiterals
/-!
# Quotes line by line

No match goes over the end of a line, and what follows a line has no part in what is
found on it (`stopsAt_newline`).  So each line is rewritten by itself, and the line with the
first match decides for the whole text (`escapeQuotes_works_line_by_line`).
-/

namespace UnitReducer.Patch

/-! ## The search stops at LF -/

theorem toQuote?_append_newline (s w : Text) :
    toQuote? (s ++ '\n' :: w) =
      (toQuote? s).map fun found => (found.1, found.2 ++ '\n' :: w) := by
  fun_induction toQuote? s with
  | case1 => simp [toQuote?, innerChar]
  | case2 s => rfl
  | case3 s => rfl
  | case4 c s hc hbackslash hinner ih =>
      have hnext : ∀ rest, c = '\\' → s ++ '\n' :: w = '\'' :: rest → False := by
        intro rest hc heq
        cases s with
        | nil => simp at heq
        | cons d s =>
            obtain rfl := (List.cons.inj heq).1
            exact hbackslash s hc rfl
      rw [List.cons_append, toQuote?.eq_4 _ _ hc hnext, if_pos hinner, ih, Option.map_map,
        Option.map_map]
      rfl
  | case5 c s hc hbackslash hinner =>
      have hnext : ∀ rest, c = '\\' → s ++ '\n' :: w = '\'' :: rest → False := by
        rintro rest rfl -
        exact hinner rfl
      rw [List.cons_append, toQuote?.eq_4 _ _ hc hnext, if_neg hinner]
      rfl

theorem inside?_append_newline (s w : Text) :
    inside? (s ++ '\n' :: w) =
      (inside? s).map fun found => (found.1, found.2 ++ '\n' :: w) := by
  match s with
  | [] => cases w <;> simp [inside?, innerChar]
  | [a] => simp [inside?, innerChar]
  | a :: b :: s =>
      simp only [List.cons_append, inside?, toQuote?_append_newline]
      split
      · rw [Option.map_map, Option.map_map]
        rfl
      · rfl

theorem toDoubleQuote?_append_newline (s w : Text) :
    toDoubleQuote? (s ++ '\n' :: w) = toDoubleQuote? s := by
  fun_induction toDoubleQuote? s with
  | case1 => simp [toDoubleQuote?]
  | case2 s => rfl
  | case3 s => simp [toDoubleQuote?]
  | case4 c s hquote hnewline ih =>
      rw [List.cons_append, toDoubleQuote?.eq_3 _ _ hquote, if_neg hnewline, ih]

theorem afterQuote?_append_newline (s w : Text) :
    afterQuote? (s ++ '\n' :: w) = (afterQuote? s).map (· ++ '\n' :: w) := by
  fun_cases afterQuote? s with
  | case1 rest => rfl
  | case2 rest => rfl
  | case3 s hquote hbackslash =>
      apply afterQuote?.eq_3
      · intro rest heq
        cases s with
        | nil => simp at heq
        | cons c s =>
            obtain ⟨rfl, -⟩ := List.cons.inj heq
            exact hquote s rfl
      · intro rest heq
        cases s with
        | nil => simp at heq
        | cons c s =>
            obtain ⟨rfl, htail⟩ := List.cons.inj heq
            cases s with
            | nil => simp at htail
            | cons d s =>
                obtain ⟨rfl, -⟩ := List.cons.inj htail
                exact hbackslash s rfl

theorem pairHere?_append_newline (s w : Text) : pairHere? (s ++ '\n' :: w) = pairHere? s := by
  unfold pairHere?
  rw [afterQuote?_append_newline]
  cases afterQuote? s with
  | none => rfl
  | some opened =>
      simp only [Option.map_some, Option.bind_eq_bind, Option.bind_some, inside?_append_newline]
      cases inside? opened with
      | none => rfl
      | some found =>
          simp only [Option.map_some, Option.bind_some, toDoubleQuote?_append_newline,
            List.length_append, Nat.add_sub_add_right]

theorem pair?_append_newline (s w : Text) : pair? (s ++ '\n' :: w) = pair? s := by
  induction s with
  | nil =>
      have hhere : pairHere? ('\n' :: w) = none := pairHere?_append_newline [] w
      rw [List.nil_append, pair?.eq_2, hhere]
      rfl
  | cons c s ih =>
      rw [List.cons_append, pair?, ← List.cons_append, pairHere?_append_newline, ih, pair?]

theorem literalPair?_append_newline (s w : Text) :
    literalPair? (s ++ '\n' :: w) = literalPair? s := by
  match s with
  | [] => rfl
  | c :: s =>
      by_cases hc : c = '"'
      · subst hc
        exact pair?_append_newline s w
      · have hnone : ∀ t, literalPair? (c :: t) = none := by
          intro t
          rw [literalPair?]
          intro rest heq
          exact hc (List.cons.inj heq).1
        rw [List.cons_append, hnone, hnone]

theorem stopsAt_newline : StopsAt '\n' literalPair? QuotedPair.toMatch where
  find?_append := literalPair?_append_newline
  size_pos := fun p => Nat.succ_pos p.size
  size_le := by
    intro s p h
    unfold literalPair? at h
    split at h
    next t =>
      obtain ⟨inside, rest, rfl, hspans⟩ := pair?_eq_some h
      have hsize : p.toMatch.size = p.size + 1 := rfl
      rw [hsize, hspans.size]
      simp only [List.length_cons, List.length_append]
      omega
    next => cases h

/-! ## Line by line -/

theorem first?_append_newline (s w : Text) :
    first? literalPair? (s ++ '\n' :: w) =
      (first? literalPair? s).or (first? literalPair? w) :=
  stopsAt_newline.first?_append s w

theorem substitute_append_newline (s w : Text) :
    substitute quotesRule (s ++ '\n' :: w) =
      substitute quotesRule s ++ '\n' :: substitute quotesRule w :=
  stopsAt_newline.substitute_append s w

theorem quoteParts_eq_intercalate (t : Text) :
    quoteParts t = [.kept '\n'].intercalate ((t.split '\n').map quoteParts) := by
  induction t using Text.line_induction with
  | last line hline =>
      rw [Text.split_of_not_mem hline, List.map_singleton, List.intercalate_singleton]
  | next line rest hline ih =>
      obtain ⟨first, others, hsplit⟩ := List.exists_cons_of_ne_nil (Text.split_ne_nil '\n' rest)
      have happend : quoteParts (line ++ '\n' :: rest) =
          quoteParts line ++ .kept '\n' :: quoteParts rest := stopsAt_newline.parts_append line rest
      rw [hsplit, List.map_cons] at ih
      rw [happend, Text.split_append_cons hline, hsplit, List.map_cons, List.map_cons,
        List.intercalate_cons_cons, ← ih, List.append_assoc, List.singleton_append]

theorem substitute_eq_join (t : Text) :
    substitute quotesRule t = Text.join ['\n'] ((t.split '\n').map (substitute quotesRule)) := by
  induction t using Text.line_induction with
  | last line hline =>
      rw [Text.split_of_not_mem hline]
      rfl
  | next line rest hline ih =>
      have hne : (rest.split '\n').map (substitute quotesRule) ≠ [] := by
        rw [Ne, List.map_eq_nil_iff]
        exact Text.split_ne_nil '\n' rest
      rw [substitute_append_newline, Text.split_append_cons hline, List.map_cons,
        Text.join_cons _ _ hne, ← ih, List.append_assoc, List.singleton_append]

/-- The line is the first one on which a match is found. -/
def FirstPairLine (t line : Text) : Prop :=
  ∃ before after, t.split '\n' = before ++ line :: after ∧
    (∀ l ∈ before, first? literalPair? l = none) ∧ first? literalPair? line ≠ none

theorem first?_eq_findSome? (t : Text) :
    first? literalPair? t = (t.split '\n').findSome? (first? literalPair?) := by
  induction t using Text.line_induction with
  | last line hline =>
      rw [Text.split_of_not_mem hline, List.findSome?_singleton]
  | next line rest hline ih =>
      rw [first?_append_newline, ih, Text.split_append_cons hline, List.findSome?_cons]
      cases first? literalPair? line with
      | none => rfl
      | some p => rfl

theorem FirstPairLine.first?_eq {t line : Text} (h : FirstPairLine t line) :
    first? literalPair? t = first? literalPair? line := by
  obtain ⟨before, after, hsplit, hbefore, hline⟩ := h
  obtain ⟨p, hp⟩ := Option.ne_none_iff_exists'.1 hline
  rw [first?_eq_findSome?, hsplit, hp, List.findSome?_eq_some_iff]
  exact ⟨before, line, after, rfl, hp, hbefore⟩

theorem exists_firstPairLine {t : Text} (h : first? literalPair? t ≠ none) :
    ∃ line, FirstPairLine t line := by
  obtain ⟨p, hp⟩ := Option.ne_none_iff_exists'.1 h
  rw [first?_eq_findSome?, List.findSome?_eq_some_iff] at hp
  obtain ⟨before, line, after, hsplit, hline, hbefore⟩ := hp
  exact ⟨line, before, after, hsplit, hbefore, by simp [hline]⟩

theorem escapeQuotes_eq_none_congr {t t' : Text}
    (h : first? literalPair? t = first? literalPair? t') :
    escapeQuotes t = none ↔ escapeQuotes t' = none := by
  unfold escapeQuotes
  rw [h]
  cases first? literalPair? t' with
  | none => rfl
  | some p =>
      dsimp only
      split
      · exact Iff.rfl
      · simp

theorem escapeQuotes_of_first?_eq_none {t : Text} (h : first? literalPair? t = none) :
    escapeQuotes t = none := by
  rw [escapeQuotes, h]

/-! ## What a match gains and loses -/

/-- `written` is `taken` with two single quotes in place of each quote of a pair, be it
written with a backslash or without. -/
def DoublesPair (taken written : Text) : Prop :=
  ∃ lead inner tail q q', IsQuote q ∧ IsQuote q' ∧
    taken = '"' :: (lead ++ (q ++ (inner ++ (q' ++ (tail ++ ['"']))))) ∧
    written = '"' :: (lead ++ (['\'', '\''] ++ (inner ++ (['\'', '\''] ++ (tail ++ ['"'])))))

theorem doublesPair_of_mem_quoteParts {t taken : Text} {p : QuotedPair}
    (h : .matched taken p ∈ quoteParts t) : DoublesPair taken p.toMatch.replacement := by
  obtain ⟨s, rfl, hspans⟩ := exists_spans_of_mem_quoteParts h
  obtain ⟨q, q', hq, hq', rfl⟩ := hspans.spelled
  exact ⟨p.lead, p.inner, p.tail, q, q', hq, hq', by simp, by simp [QuotedPair.toMatch]⟩

theorem IsQuote.count {q : Text} (hq : IsQuote q) : q.count '\'' = 1 := by
  rcases hq with rfl | rfl
  · rfl
  · rfl

theorem DoublesPair.count {taken written : Text} (h : DoublesPair taken written) :
    written.count '\'' = taken.count '\'' + 2 := by
  obtain ⟨lead, inner, tail, q, q', hq, hq', rfl, rfl⟩ := h
  have hdouble : List.count '\'' ['\'', '\''] = 2 := rfl
  simp only [List.count_cons, List.count_append, hq.count, hq'.count, hdouble]
  omega

def isFrame (c : Char) : Bool :=
  c = '\n' || c = '"'

theorem IsQuote.filter_isFrame {q : Text} (hq : IsQuote q) : q.filter isFrame = [] := by
  rcases hq with rfl | rfl
  · rfl
  · rfl

theorem DoublesPair.filter_isFrame {taken written : Text} (h : DoublesPair taken written) :
    written.filter isFrame = taken.filter isFrame := by
  obtain ⟨lead, inner, tail, q, q', hq, hq', rfl, rfl⟩ := h
  have hdouble : List.filter isFrame ['\'', '\''] = [] := rfl
  simp only [List.filter_cons, List.filter_append, hq.filter_isFrame, hq'.filter_isFrame, hdouble]

theorem filter_isFrame_substitute (t : Text) :
    (substitute quotesRule t).filter isFrame = t.filter isFrame := by
  have hsource : (quoteParts t).flatMap Part.source = t := flatMap_source_parts _ _ t
  have hwritten : substitute quotesRule t =
      (quoteParts t).flatMap (Part.written QuotedPair.toMatch) := substitute_eq_parts _ _ t
  rw [hwritten, ← hsource, List.filter_flatMap, List.filter_flatMap, hsource]
  apply List.flatMap_congr
  rintro (c | ⟨taken, p⟩) hpart
  · rfl
  · exact (doublesPair_of_mem_quoteParts hpart).filter_isFrame

theorem newline_not_mem_substitute {line : Text} (h : '\n' ∉ line) :
    '\n' ∉ substitute quotesRule line := by
  intro hmem
  have hframe : '\n' ∈ (substitute quotesRule line).filter isFrame :=
    List.mem_filter.2 ⟨hmem, rfl⟩
  rw [filter_isFrame_substitute, List.mem_filter] at hframe
  exact h hframe.1

theorem split_substitute (t : Text) :
    (substitute quotesRule t).split '\n' = (t.split '\n').map (substitute quotesRule) := by
  induction t using Text.line_induction with
  | last line hline =>
      rw [Text.split_of_not_mem hline, Text.split_of_not_mem (newline_not_mem_substitute hline)]
      rfl
  | next line rest hline ih =>
      rw [substitute_append_newline, Text.split_append_cons hline,
        Text.split_append_cons (newline_not_mem_substitute hline), ih, List.map_cons]

/-! ## The patch -/

/-- The first match of a text is the first match of the first line that has one, and this
line decides whether the text is rewritten.  The matches of a text are those of its
lines; each line is rewritten by itself.  A match trades the two quotes of its pair, with or
without a backslash, for two single quotes each, and all else stays as it is. -/
theorem escapeQuotes_works_line_by_line (t : Text) :
    (∀ line, FirstPairLine t line →
      first? literalPair? t = first? literalPair? line ∧
        (escapeQuotes t = none ↔ escapeQuotes line = none)) ∧
    ((∀ line, ¬ FirstPairLine t line) → first? literalPair? t = none ∧ escapeQuotes t = none) ∧
    quoteParts t = [.kept '\n'].intercalate ((t.split '\n').map quoteParts) ∧
    ∀ u, escapeQuotes t = some u →
      u = Text.join ['\n'] ((t.split '\n').map (substitute quotesRule)) ∧
      u.split '\n' = (t.split '\n').map (substitute quotesRule) ∧
      u.filter isFrame = t.filter isFrame ∧
      (quoteParts t).flatMap Part.source = t ∧
      (quoteParts t).flatMap (Part.written QuotedPair.toMatch) = u ∧
      ∀ taken p, .matched taken p ∈ quoteParts t →
        DoublesPair taken p.toMatch.replacement ∧
          p.toMatch.replacement.count '\'' = taken.count '\'' + 2 := by
  refine ⟨?_, ?_, quoteParts_eq_intercalate t, ?_⟩
  · intro line hline
    exact ⟨hline.first?_eq, escapeQuotes_eq_none_congr hline.first?_eq⟩
  · intro hnone
    have hfirst : first? literalPair? t = none := by
      by_contra hsome
      obtain ⟨line, hline⟩ := exists_firstPairLine hsome
      exact hnone line hline
    exact ⟨hfirst, escapeQuotes_of_first?_eq_none hfirst⟩
  · intro u hu
    obtain ⟨p, -, -, -, rfl⟩ := escapeQuotes_eq_some_iff.1 hu
    refine ⟨substitute_eq_join t, split_substitute t, filter_isFrame_substitute t,
      flatMap_source_parts _ _ t, (substitute_eq_parts _ _ t).symm, ?_⟩
    intro taken p' hmem
    have hdoubles := doublesPair_of_mem_quoteParts hmem
    exact ⟨hdoubles, hdoubles.count⟩

theorem escapeQuotes_works_line_by_line_three_lines :
    ∃ t u line : Text,
      t = "it's \"a\n\"b 'cd' e\"; 'f'\ng(\"\\'hi\\' you\", \"z\");".toList ∧
      u = "it's \"a\n\"b ''cd'' e\"; 'f'\ng(\"''hi'' you\", \"z\");".toList ∧
      line = "\"b 'cd' e\"; 'f'".toList ∧ FirstPairLine t line ∧
      (escapeQuotes t = none ↔ escapeQuotes line = none) ∧ escapeQuotes t = some u ∧
      u.split '\n' = (t.split '\n').map (substitute quotesRule) ∧
      u.filter isFrame = t.filter isFrame ∧ (rewritten t).length = 2 := by
  have hline : FirstPairLine
      "it's \"a\n\"b 'cd' e\"; 'f'\ng(\"\\'hi\\' you\", \"z\");".toList
      "\"b 'cd' e\"; 'f'".toList :=
    ⟨["it's \"a".toList], ["g(\"\\'hi\\' you\", \"z\");".toList], by decide +kernel,
      by decide +kernel, by decide +kernel⟩
  have hu : escapeQuotes
      "it's \"a\n\"b 'cd' e\"; 'f'\ng(\"\\'hi\\' you\", \"z\");".toList =
      some "it's \"a\n\"b ''cd'' e\"; 'f'\ng(\"''hi'' you\", \"z\");".toList := by
    decide +kernel
  obtain ⟨hfirst, -, -, hresult⟩ := escapeQuotes_works_line_by_line
    "it's \"a\n\"b 'cd' e\"; 'f'\ng(\"\\'hi\\' you\", \"z\");".toList
  obtain ⟨-, hsplit, hframe, -⟩ := hresult _ hu
  exact ⟨_, _, _, rfl, rfl, rfl, hline, (hfirst _ hline).2, hu, hsplit, hframe,
    by decide +kernel⟩

end UnitReducer.Patch
