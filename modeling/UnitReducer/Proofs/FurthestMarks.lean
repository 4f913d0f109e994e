import UnitReducer.Patch.Constexpr
import UnitReducer.Proofs.DirectiveShapes
/-!
# The furthest mark

Behind a keyword stands a text that has to come to a mark: to a brace for functions, to
a semicolon for objects.  `UpToBrace` and `UpToSemicolon` say what may stand before the mark.
`functionHead?` and `objectDefinition?` find the longest front of such a form
(`functionHead?_eq_some`, `objectDefinition?_eq_some`), and find one if there is any.
-/

namespace UnitReducer.Patch

/-! ## Up to a mark -/

/-- An LF-free stretch, then whitespace, then a brace. -/
def UpToBrace (body : Text) : Prop :=
  ∃ line blanks, body = line ++ blanks ++ ['{'] ∧ '\n' ∉ line ∧
    ∀ c ∈ blanks, CharClass.space c = true

def UpToSemicolon (body : Text) : Prop :=
  ∃ line, body = line ++ [';'] ∧ '\n' ∉ line

/-- `body` is the longest front of the text that has the form. -/
structure LongestFront (Form : Text → Prop) (t body : Text) : Prop where
  front : body <+: t
  form : Form body
  longest : ∀ body', body' <+: t → Form body' → body'.length ≤ body.length

theorem isPrefix_takeWhile {t body : Text} (hbody : '\n' ∉ body) (h : body <+: t) :
    body <+: t.takeWhile (· ≠ '\n') := by
  obtain ⟨after, rfl⟩ := h
  rw [List.takeWhile_append_of_pos (Text.forall_mem_ne hbody)]
  exact List.prefix_append _ _

theorem newline_not_mem_takeWhile (t : Text) : '\n' ∉ t.takeWhile (· ≠ '\n') := by
  intro hmem
  simpa using List.mem_takeWhile_imp hmem

theorem length_le_of_untilLast? {mark : Char} {t start front : Text}
    (h : Text.untilLast? mark t = some start) (hfront : front ++ [mark] <+: t) :
    front.length ≤ start.length := by
  obtain ⟨rest, ht, hrest⟩ := Text.untilLast?_eq_some_iff.1 h
  obtain ⟨after, hafter⟩ := hfront
  rw [ht, List.append_assoc] at hafter
  rcases List.append_eq_append_iff.1 hafter with ⟨extra, hstart, -⟩ | ⟨extra, hextra, htail⟩
  · rw [hstart, List.length_append]
    exact Nat.le_add_right _ _
  · cases extra with
    | nil =>
        rw [hextra, List.append_nil]
    | cons c extra =>
        -- the mark behind `front` would stand behind the last one
        obtain ⟨-, rfl⟩ := List.cons.inj htail
        simp at hrest

theorem exists_untilLast? {mark : Char} {t front : Text} (h : front ++ [mark] <+: t) :
    ∃ start, Text.untilLast? mark t = some start := by
  obtain ⟨after, rfl⟩ := h
  rw [Text.untilLast?, if_pos (by simp)]
  exact ⟨_, rfl⟩

theorem untilLast?_first_line {mark : Char} {t start : Text}
    (h : Text.untilLast? mark (t.takeWhile (· ≠ '\n')) = some start) :
    start ++ [mark] <+: t ∧ '\n' ∉ start := by
  obtain ⟨rest, hline, -⟩ := Text.untilLast?_eq_some_iff.1 h
  have hnewline := newline_not_mem_takeWhile t
  constructor
  · refine List.IsPrefix.trans ⟨rest, ?_⟩ (List.takeWhile_prefix (· ≠ '\n'))
    rw [hline, List.append_assoc, List.singleton_append]
  · rw [hline, List.mem_append, not_or] at hnewline
    exact hnewline.1

/-! ### Semicolons -/

theorem objectDefinition?_eq_some {t body : Text} (h : objectDefinition? t = some body) :
    LongestFront UpToSemicolon t body := by
  obtain ⟨start, hstart, rfl⟩ := Option.map_eq_some_iff.1 h
  obtain ⟨hfound, hnewline⟩ := untilLast?_first_line hstart
  refine ⟨hfound, ⟨start, rfl, hnewline⟩, ?_⟩
  rintro _ hfront ⟨line, rfl, hnl⟩
  have hmark := isPrefix_takeWhile (by simp [hnl]) hfront
  simpa using length_le_of_untilLast? hstart hmark

theorem objectDefinition?_ne_none {t body : Text} (hfront : body <+: t)
    (hform : UpToSemicolon body) : objectDefinition? t ≠ none := by
  obtain ⟨line, rfl, hnl⟩ := hform
  obtain ⟨start, hstart⟩ := exists_untilLast? (isPrefix_takeWhile (by simp [hnl]) hfront)
  rw [objectDefinition?, hstart]
  simp

/-! ### Braces -/

theorem functionHead?_of_newline {line blanks after : Text} (hline : '\n' ∉ line)
    (hblanks : ∀ c ∈ blanks, CharClass.space c = true) (hnewline : '\n' ∈ blanks) :
    functionHead? (line ++ blanks ++ ['{'] ++ after) =
      some (line ++ blanks ++ ['{']) := by
  obtain ⟨first, others, rfl, hfirst⟩ := List.eq_append_cons_of_mem hnewline
  have hspaces : ∀ c ∈ '\n' :: others, CharClass.space c = true := fun c hc =>
    hblanks c (List.mem_append_right _ hc)
  have hstop : ∀ c ∈ ('{' :: after).head?, CharClass.space c = false := by
    intro c hc
    obtain rfl := Option.mem_some_iff.1 hc
    decide
  have ht : line ++ (first ++ '\n' :: others) ++ ['{'] ++ after =
      (line ++ first) ++ '\n' :: (others ++ '{' :: after) := by
    simp
  have hbelow : '\n' :: (others ++ '{' :: after) = ('\n' :: others) ++ '{' :: after := rfl
  have hmem : '\n' ∉ line ++ first := by
    rw [List.mem_append, not_or]
    exact ⟨hline, hfirst⟩
  rw [functionHead?, ht]
  simp only [Text.takeWhile_ne_append hmem, Text.dropWhile_ne_append hmem]
  rw [hbelow, Text.takeWhile_append_stop hspaces hstop, Text.dropWhile_append_stop hspaces hstop,
    List.head?_cons, if_pos rfl]
  simp

theorem functionHead?_eq_some_cases {t body : Text} (h : functionHead? t = some body) :
    body <+: t ∧ UpToBrace body ∧
      ((t.takeWhile (· ≠ '\n')).length ≤ body.length ∨
        ∃ start, Text.untilLast? '{' (t.takeWhile (· ≠ '\n')) = some start ∧
          body = start ++ ['{']) := by
  have hcut := List.takeWhile_append_dropWhile (p := (· ≠ '\n')) (l := t)
  unfold functionHead? at h
  dsimp only at h
  split at h
  next hbrace =>
    obtain ⟨after, hafter⟩ := List.head?_eq_some_iff.1 hbrace
    have hbelow := List.takeWhile_append_dropWhile (p := CharClass.space)
      (l := t.dropWhile (· ≠ '\n'))
    rw [hafter] at hbelow
    rw [← hbelow] at hcut
    rw [Option.some.injEq] at h
    subst h
    refine ⟨⟨after, ?_⟩, ⟨_, _, rfl, newline_not_mem_takeWhile t, ?_⟩, Or.inl ?_⟩
    · rw [List.append_assoc, List.append_assoc, List.singleton_append]
      exact hcut
    · exact fun c hc => List.mem_takeWhile_imp hc
    · simp only [List.length_append]
      omega
  next =>
    obtain ⟨start, hstart, rfl⟩ := Option.map_eq_some_iff.1 h
    obtain ⟨hfound, hstartline⟩ := untilLast?_first_line hstart
    exact ⟨hfound, ⟨start, [], by simp, hstartline, by simp⟩, Or.inr ⟨start, hstart, rfl⟩⟩

theorem functionHead?_eq_some {t body : Text} (h : functionHead? t = some body) :
    LongestFront UpToBrace t body := by
  obtain ⟨hfront, hform, hreach⟩ := functionHead?_eq_some_cases h
  refine ⟨hfront, hform, ?_⟩
  rintro _ ⟨after, rfl⟩ ⟨line, blanks, rfl, hline, hblanks⟩
  by_cases hnewline : '\n' ∈ blanks
  · rw [functionHead?_of_newline hline hblanks hnewline, Option.some.injEq] at h
    exact Nat.le_of_eq (congrArg List.length h)
  · have hinside : line ++ blanks ++ ['{'] <+:
        (line ++ blanks ++ ['{'] ++ after).takeWhile (· ≠ '\n') :=
      isPrefix_takeWhile (by simp [hline, hnewline]) (List.prefix_append _ _)
    rcases hreach with hlong | ⟨start, hstart, rfl⟩
    · exact hinside.length_le.trans hlong
    · have hlength := length_le_of_untilLast? hstart hinside
      simp only [List.length_append, List.length_singleton] at hlength ⊢
      omega

theorem functionHead?_ne_none {t body : Text} (hfront : body <+: t)
    (hform : UpToBrace body) : functionHead? t ≠ none := by
  obtain ⟨after, rfl⟩ := hfront
  obtain ⟨line, blanks, rfl, hline, hblanks⟩ := hform
  by_cases hnewline : '\n' ∈ blanks
  · rw [functionHead?_of_newline hline hblanks hnewline]
    simp
  · have hinside : line ++ blanks ++ ['{'] <+:
        (line ++ blanks ++ ['{'] ++ after).takeWhile (· ≠ '\n') :=
      isPrefix_takeWhile (by simp [hline, hnewline]) (List.prefix_append _ _)
    obtain ⟨start, hstart⟩ := exists_untilLast? hinside
    simp only [functionHead?, hstart, Option.map_some]
    split
    · simp
    · simp

end UnitReducer.Patch
