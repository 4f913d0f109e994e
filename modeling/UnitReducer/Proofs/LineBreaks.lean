import UnitReducer.Text.Lines
import Mathlib.Data.List.Basic
/-!
# Line breaks

What `Text.split`, `Text.lines` and `Text.unlines` do to one another.  Lines
without LF are cut again where they were joined, and all that reading them back
takes from them is one CR at the end of each.
-/

namespace UnitReducer.Text

/-! ## Pieces -/

theorem split_of_not_mem {sep : Char} {t : Text} (ht : sep ∉ t) : split sep t = [t] := by
  induction t with
  | nil => rfl
  | cons c t ih =>
      rw [List.mem_cons, not_or] at ht
      rw [split, if_neg (Ne.symm ht.1), ih ht.2]

theorem split_append {sep : Char} (s t : Text) :
    split sep (s ++ sep :: t) = split sep s ++ split sep t := by
  induction s with
  | nil => simp [split]
  | cons c s ih =>
      obtain ⟨first, others, hsplit⟩ := List.exists_cons_of_ne_nil (split_ne_nil sep s)
      rw [List.cons_append, split, ih, split, hsplit]
      by_cases hc : c = sep
      · rw [if_pos hc, if_pos hc]
        rfl
      · rw [if_neg hc, if_neg hc]
        rfl

theorem split_append_cons {sep : Char} {piece : Text} (hpiece : sep ∉ piece)
    (t : Text) : split sep (piece ++ sep :: t) = piece :: split sep t := by
  rw [split_append, split_of_not_mem hpiece, List.singleton_append]

theorem join_cons (sep piece : Text) {pieces : List Text} (h : pieces ≠ []) :
    join sep (piece :: pieces) = piece ++ sep ++ join sep pieces := by
  rw [join]
  exact h

theorem append_cons_inj {sep : Char} {piece piece' t t' : Text} (hpiece : sep ∉ piece)
    (hpiece' : sep ∉ piece') (h : piece ++ sep :: t = piece' ++ sep :: t') :
    piece = piece' ∧ t = t' := by
  have hsplit := split_append_cons hpiece t
  rw [h, split_append_cons hpiece' t'] at hsplit
  obtain rfl := (List.cons.inj hsplit).1
  exact ⟨rfl, (List.cons.inj (List.append_cancel_left h)).2⟩

theorem eq_append_flatMap_of_split {sep : Char} {t piece : Text} {pieces : List Text}
    (h : split sep t = piece :: pieces) : t = piece ++ pieces.flatMap (sep :: ·) := by
  induction t generalizing piece pieces with
  | nil =>
      obtain ⟨rfl, rfl⟩ := List.cons.inj h
      rfl
  | cons c t ih =>
      obtain ⟨first, others, hsplit⟩ := List.exists_cons_of_ne_nil (split_ne_nil sep t)
      rw [split, hsplit] at h
      by_cases hc : c = sep
      · rw [if_pos hc] at h
        obtain ⟨rfl, rfl⟩ := List.cons.inj h
        rw [ih hsplit, hc]
        rfl
      · rw [if_neg hc] at h
        obtain ⟨rfl, rfl⟩ := List.cons.inj h
        rw [ih hsplit]
        rfl

theorem not_mem_of_mem_split {sep : Char} {t piece : Text}
    (hpiece : piece ∈ split sep t) : sep ∉ piece := by
  induction t generalizing piece with
  | nil =>
      rw [split, List.mem_singleton] at hpiece
      rw [hpiece]
      exact List.not_mem_nil
  | cons c t ih =>
      rw [split] at hpiece
      by_cases hc : c = sep
      · rw [if_pos hc, List.mem_cons] at hpiece
        rcases hpiece with rfl | hpiece
        · exact List.not_mem_nil
        · exact ih hpiece
      · rw [if_neg hc] at hpiece
        cases hsplit : split sep t with
        | nil => exact absurd hsplit (split_ne_nil sep t)
        | cons first others =>
            -- only the first piece grows, and it grows by `c`
            rw [hsplit] at hpiece ih
            rcases List.mem_cons.1 hpiece with rfl | hpiece
            · rw [List.mem_cons, not_or]
              exact ⟨Ne.symm hc, ih List.mem_cons_self⟩
            · exact ih (List.mem_cons_of_mem _ hpiece)

theorem split_eq_singleton_nil_iff {sep : Char} {t : Text} :
    split sep t = [[]] ↔ t = [] := by
  constructor
  · intro h
    cases t with
    | nil => rfl
    | cons c t =>
        rw [split] at h
        split at h
        · -- a separator ends one piece and opens another
          exact absurd (List.cons.inj h).2 (split_ne_nil sep t)
        · split at h
          · simp at h
          · simp at h
  · rintro rfl
    rfl

theorem split_unlines_append {ls : List Text} (hls : ∀ l ∈ ls, '\n' ∉ l) (t : Text) :
    split '\n' (unlines ls ++ t) = ls ++ split '\n' t := by
  induction ls with
  | nil => rfl
  | cons l ls ih =>
      rw [unlines_cons, List.append_assoc, List.cons_append,
        split_append_cons (hls l List.mem_cons_self),
        ih fun m hm => hls m (List.mem_cons_of_mem _ hm), List.cons_append]

theorem split_unlines {ls : List Text} (hls : ∀ l ∈ ls, '\n' ∉ l) :
    split '\n' (unlines ls) = ls ++ [[]] := by
  have hsplit := split_unlines_append hls []
  rwa [List.append_nil] at hsplit

theorem unlines_inj {ls ms : List Text} (hls : ∀ l ∈ ls, '\n' ∉ l)
    (hms : ∀ m ∈ ms, '\n' ∉ m) (h : unlines ls = unlines ms) : ls = ms := by
  have hsplit := split_unlines hls
  rw [h, split_unlines hms] at hsplit
  exact (List.append_cancel_right hsplit).symm

theorem unlines_eq_nil_iff {ls : List Text} : unlines ls = [] ↔ ls = [] := by
  cases ls with
  | nil => simp
  | cons l ls => simp

theorem count_unlines {ls : List Text} (hls : ∀ l ∈ ls, '\n' ∉ l) :
    (unlines ls).count '\n' = ls.length := by
  induction ls with
  | nil => rfl
  | cons l ls ih =>
      obtain ⟨hl, hls⟩ := List.forall_mem_cons.1 hls
      rw [unlines_cons, List.count_append, List.count_eq_zero_of_not_mem hl,
        List.count_cons_self, ih hls, List.length_cons, Nat.zero_add]

/-! ## One carriage return -/

@[simp] theorem dropCarriageReturn_append_return (line : Text) :
    dropCarriageReturn (line ++ ['\r']) = line := by
  simp [dropCarriageReturn]

theorem dropCarriageReturn_of_ne {line : Text} (h : line.getLast? ≠ some '\r') :
    dropCarriageReturn line = line := by
  rw [dropCarriageReturn, if_neg h]

theorem eq_append_return {line : Text} (h : line.getLast? = some '\r') :
    line = dropCarriageReturn line ++ ['\r'] := by
  obtain ⟨body, rfl⟩ := List.getLast?_eq_some_iff.1 h
  rw [dropCarriageReturn_append_return]

theorem dropCarriageReturn_eq_self_iff {line : Text} :
    dropCarriageReturn line = line ↔ line.getLast? ≠ some '\r' := by
  constructor
  · intro h hlast
    have hlength := congrArg List.length (eq_append_return hlast)
    rw [h, List.length_append] at hlength
    simp at hlength
  · exact dropCarriageReturn_of_ne

theorem mem_of_mem_dropCarriageReturn {line : Text} {c : Char}
    (h : c ∈ dropCarriageReturn line) : c ∈ line := by
  by_cases hlast : line.getLast? = some '\r'
  · rw [eq_append_return hlast]
    exact List.mem_append_left _ h
  · rwa [dropCarriageReturn_of_ne hlast] at h

theorem dropCarriageReturn_cons {c d : Char} (line : Text) :
    dropCarriageReturn (c :: d :: line) = c :: dropCarriageReturn (d :: line) := by
  by_cases hlast : (d :: line).getLast? = some '\r'
  · have heq : c :: d :: line = (c :: dropCarriageReturn (d :: line)) ++ ['\r'] := by
      rw [List.cons_append, ← eq_append_return hlast]
    rw [heq, dropCarriageReturn_append_return]
  · have hlast' : (c :: d :: line).getLast? ≠ some '\r' := by
      rwa [List.getLast?_cons_cons]
    rw [dropCarriageReturn_of_ne hlast, dropCarriageReturn_of_ne hlast']

/-! ## Lines -/

/-- The lines of a text before the carriage returns are taken off. -/
def rawLines (t : Text) : List Text :=
  if (t.split '\n').getLast? = some [] then (t.split '\n').dropLast else t.split '\n'

theorem lines_eq_map_rawLines (t : Text) :
    lines t = (rawLines t).map dropCarriageReturn := rfl

theorem mem_split_of_mem_rawLines {t line : Text} (h : line ∈ rawLines t) :
    line ∈ t.split '\n' := by
  unfold rawLines at h
  split at h
  · exact List.dropLast_subset _ h
  · exact h

theorem newline_not_mem_of_mem_lines {t line : Text} (h : line ∈ lines t) :
    '\n' ∉ line := by
  rw [lines_eq_map_rawLines, List.mem_map] at h
  obtain ⟨raw, hraw, rfl⟩ := h
  intro hmem
  exact not_mem_of_mem_split (mem_split_of_mem_rawLines hraw)
    (mem_of_mem_dropCarriageReturn hmem)

theorem rawLines_eq_nil_iff {t : Text} : rawLines t = [] ↔ t = [] := by
  constructor
  · intro h
    unfold rawLines at h
    split at h
    next hlast =>
      obtain ⟨pieces, hpieces⟩ := List.getLast?_eq_some_iff.1 hlast
      rw [hpieces, List.dropLast_concat] at h
      rw [h] at hpieces
      exact split_eq_singleton_nil_iff.1 hpieces
    next => exact absurd h (split_ne_nil _ t)
  · rintro rfl
    rfl

theorem lines_eq_nil_iff {t : Text} : lines t = [] ↔ t = [] := by
  rw [lines_eq_map_rawLines, List.map_eq_nil_iff, rawLines_eq_nil_iff]

theorem rawLines_unlines_append {ls : List Text} (hls : ∀ l ∈ ls, '\n' ∉ l) (t : Text) :
    rawLines (unlines ls ++ t) = ls ++ rawLines t := by
  have hne := split_ne_nil '\n' t
  unfold rawLines
  rw [split_unlines_append hls, List.getLast?_append_of_ne_nil ls hne]
  split
  · rw [List.dropLast_append_of_ne_nil hne]
  · rfl

theorem lines_unlines {ls : List Text} (hls : ∀ l ∈ ls, '\n' ∉ l) :
    lines (unlines ls) = ls.map dropCarriageReturn := by
  have hraw := rawLines_unlines_append hls []
  rw [List.append_nil] at hraw
  rw [lines_eq_map_rawLines, hraw, rawLines_eq_nil_iff.2 rfl, List.append_nil]

theorem exists_eq_unlines_append (t : Text) :
    ∃ ls last, (∀ l ∈ ls, '\n' ∉ l) ∧ '\n' ∉ last ∧ t = unlines ls ++ last := by
  induction t with
  | nil => exact ⟨[], [], by simp, by simp, rfl⟩
  | cons c t ih =>
      obtain ⟨ls, last, hls, hlast, rfl⟩ := ih
      by_cases hc : c = '\n'
      · refine ⟨[] :: ls, last, ?_, hlast, by simp [hc]⟩
        exact List.forall_mem_cons.2 ⟨List.not_mem_nil, hls⟩
      · cases ls with
        | nil => exact ⟨[], c :: last, by simp, by simp [hlast, Ne.symm hc], rfl⟩
        | cons l ls =>
            obtain ⟨hl, hls⟩ := List.forall_mem_cons.1 hls
            refine ⟨(c :: l) :: ls, last, ?_, hlast, by simp⟩
            exact List.forall_mem_cons.2 ⟨by simp [hl, Ne.symm hc], hls⟩

@[elab_as_elim]
theorem line_induction {motive : Text → Prop} (last : ∀ line, '\n' ∉ line → motive line)
    (next : ∀ line rest, '\n' ∉ line → motive rest → motive (line ++ '\n' :: rest)) (t : Text) :
    motive t := by
  obtain ⟨ls, rest, hls, hrest, rfl⟩ := exists_eq_unlines_append t
  induction ls with
  | nil => exact last rest hrest
  | cons l ls ih =>
      obtain ⟨hl, hls⟩ := List.forall_mem_cons.1 hls
      rw [unlines_cons, List.append_assoc, List.cons_append]
      exact next l _ hl (ih hls)

theorem exists_eq_unlines {t : Text} (ht : t = [] ∨ t.getLast? = some '\n') :
    ∃ ls, (∀ l ∈ ls, '\n' ∉ l) ∧ t = unlines ls := by
  obtain ⟨ls, last, hls, hlast, rfl⟩ := exists_eq_unlines_append t
  have hnil : last = [] := by
    rcases ht with hempty | hend
    · exact (List.append_eq_nil_iff.1 hempty).2
    · by_contra hne
      rw [List.getLast?_append_of_ne_nil _ hne] at hend
      exact hlast (List.mem_of_getLast? hend)
  rw [hnil, List.append_nil]
  exact ⟨ls, hls, rfl⟩

theorem lines_append {s : Text} (hs : s = [] ∨ s.getLast? = some '\n') (t : Text) :
    lines (s ++ t) = lines s ++ lines t := by
  obtain ⟨ls, hls, rfl⟩ := exists_eq_unlines hs
  rw [lines_unlines hls, lines_eq_map_rawLines, rawLines_unlines_append hls,
    List.map_append, ← lines_eq_map_rawLines]

/-! ## Normal line breaks -/

/-- Every CR LF written as LF. -/
def normalizeBreaks : Text → Text
  | [] => []
  | '\r' :: '\n' :: t => '\n' :: normalizeBreaks t
  | c :: t => c :: normalizeBreaks t

theorem normalizeBreaks_cons {c : Char} {t : Text}
    (h : c ≠ '\r' ∨ t.head? ≠ some '\n') :
    normalizeBreaks (c :: t) = c :: normalizeBreaks t := by
  rw [normalizeBreaks]
  rintro rest rfl rfl
  simp at h

theorem normalizeBreaks_append {l : Text} (hl : '\n' ∉ l) (t : Text) :
    normalizeBreaks (l ++ '\n' :: t) =
      dropCarriageReturn l ++ '\n' :: normalizeBreaks t := by
  induction l with
  | nil => exact normalizeBreaks_cons (Or.inl (by decide))
  | cons c l ih =>
      rw [List.mem_cons, not_or] at hl
      cases l with
      | nil =>
          by_cases hc : c = '\r'
          · subst hc
            rfl
          · have hlast : [c].getLast? ≠ some '\r' := by simpa using hc
            rw [dropCarriageReturn_of_ne hlast, List.cons_append,
              normalizeBreaks_cons (Or.inl hc), ih hl.2]
            rfl
      | cons d l =>
          have hd : d ≠ '\n' := fun hd => hl.2 (by simp [hd])
          rw [dropCarriageReturn_cons, List.cons_append,
            normalizeBreaks_cons (Or.inr (by simpa using hd)), ih hl.2,
            List.cons_append]

theorem normalizeBreaks_unlines {ls : List Text} (hls : ∀ l ∈ ls, '\n' ∉ l) :
    normalizeBreaks (unlines ls) = unlines (ls.map dropCarriageReturn) := by
  induction ls with
  | nil => rfl
  | cons l ls ih =>
      rw [unlines_cons, normalizeBreaks_append (hls l List.mem_cons_self),
        ih fun m hm => hls m (List.mem_cons_of_mem _ hm), List.map_cons, unlines_cons]

/-- The text with LF at its end, where it has neither LF there nor is empty. -/
def terminated (t : Text) : Text :=
  if t = [] ∨ t.getLast? = some '\n' then t else t ++ ['\n']

theorem unlines_rawLines (t : Text) : unlines (rawLines t) = terminated t := by
  obtain ⟨ls, last, hls, hlast, rfl⟩ := exists_eq_unlines_append t
  rw [rawLines_unlines_append hls, unlines_append]
  by_cases hnil : last = []
  · have hend : unlines ls ++ last = [] ∨ (unlines ls ++ last).getLast? = some '\n' := by
      rw [hnil, List.append_nil]
      rcases List.eq_nil_or_concat' ls with rfl | ⟨front, l, rfl⟩
      · exact Or.inl rfl
      · right
        rw [unlines_append, unlines_cons, unlines_nil, ← List.append_assoc,
          List.getLast?_concat]
    rw [terminated, if_pos hend, hnil, rawLines_eq_nil_iff.2 rfl, unlines_nil]
  · have hopen : ¬ (unlines ls ++ last = [] ∨ (unlines ls ++ last).getLast? = some '\n') := by
      rintro (hempty | hend)
      · exact hnil (List.append_eq_nil_iff.1 hempty).2
      · rw [List.getLast?_append_of_ne_nil _ hnil] at hend
        exact hlast (List.mem_of_getLast? hend)
    -- the LF that is added ends the line that was open
    have hraw : rawLines last = [last] := by
      have hsplit : split '\n' last = [last] := split_of_not_mem hlast
      rw [rawLines, hsplit, List.getLast?_singleton, if_neg]
      rwa [Option.some.injEq]
    rw [terminated, if_neg hopen, hraw, unlines_cons, unlines_nil, List.append_assoc]

/-- Reading a text and writing it back makes its line breaks normal. -/
theorem unlines_lines (t : Text) : unlines (lines t) = normalizeBreaks (terminated t) := by
  have hraw : ∀ l ∈ rawLines t, '\n' ∉ l := by
    intro l hl
    exact not_mem_of_mem_split (mem_split_of_mem_rawLines hl)
  rw [lines_eq_map_rawLines, ← unlines_rawLines, normalizeBreaks_unlines hraw]

theorem normalizeBreaks_unlines_eq_self_iff {ls : List Text} (hls : ∀ l ∈ ls, '\n' ∉ l) :
    normalizeBreaks (unlines ls) = unlines ls ↔
      ∀ line ∈ (unlines ls).split '\n', line.getLast? ≠ some '\r' := by
  have hdrop : ∀ l ∈ ls.map dropCarriageReturn, '\n' ∉ l := by
    intro l hl hmem
    obtain ⟨raw, hraw, rfl⟩ := List.mem_map.1 hl
    exact hls raw hraw (mem_of_mem_dropCarriageReturn hmem)
  rw [normalizeBreaks_unlines hls, split_unlines hls]
  constructor
  · intro h line hline
    have hmap : ls.map dropCarriageReturn = ls.map id := by
      rw [List.map_id]
      exact unlines_inj hdrop hls h
    rw [List.mem_append, List.mem_singleton] at hline
    rcases hline with hline | rfl
    · exact dropCarriageReturn_eq_self_iff.1 (List.map_inj_left.1 hmap line hline)
    · simp
  · intro h
    apply congrArg
    calc
      ls.map dropCarriageReturn = ls.map id := by
        apply List.map_congr_left
        intro line hline
        exact dropCarriageReturn_of_ne (h line (List.mem_append_left _ hline))
      _ = ls := List.map_id ls

theorem returns_suffix_of_mem_lines {t line : Text} (hline : line ∈ lines t)
    (hlast : line.getLast? = some '\r') :
    ∃ raw ∈ t.split '\n', ['\r', '\r'] <:+ raw := by
  rw [lines_eq_map_rawLines, List.mem_map] at hline
  obtain ⟨raw, hraw, rfl⟩ := hline
  refine ⟨raw, mem_split_of_mem_rawLines hraw, ?_⟩
  by_cases hreturn : raw.getLast? = some '\r'
  · obtain ⟨body, hbody⟩ := List.getLast?_eq_some_iff.1 hlast
    refine ⟨body, ?_⟩
    rw [eq_append_return hreturn, hbody]
    simp
  · rw [dropCarriageReturn_of_ne hreturn] at hlast
    exact absurd hlast hreturn

end UnitReducer.Text
