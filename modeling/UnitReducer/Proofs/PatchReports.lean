import UnitReducer.Proofs.BareNull
import UnitReducer.Proofs.KeywordSegments
import UnitReducer.Proofs.PatchedFiles
import UnitReducer.Proofs.QuotedLines
/-!
# Reported patches

Every step that applies moves a text up in one strict order: it inserts a sign that no
step removes, or it inserts none and makes the text shorter (`advances_of_attempt?`).  So a
step that applies changes the text, no later step takes it back to what it was, and
the steps reported for a file are those that changed its text
(`FileTree.patch_reports_changes`).
-/

namespace UnitReducer

namespace Patch

/-! ## A strict order -/

/-- A sign that some step inserts and none removes. -/
def isSign (c : Char) : Bool :=
  c = '#' || c = '(' || c = '\''

/-- More signs, or as many of them in a shorter text. -/
def Advances (t u : Text) : Prop :=
  t.countP isSign < u.countP isSign ∨
    t.countP isSign = u.countP isSign ∧ u.length < t.length

namespace Advances

variable {t u t' u' : Text}

theorem ne (h : Advances t u) : t ≠ u := by
  rintro rfl
  rcases h with h | ⟨-, h⟩
  · exact Nat.lt_irrefl _ h
  · exact Nat.lt_irrefl _ h

theorem trans {v : Text} (h : Advances t u) (h' : Advances u v) : Advances t v := by
  unfold Advances at *
  omega

theorem append (h : Advances t u) (h' : Advances t' u') : Advances (t ++ t') (u ++ u') := by
  unfold Advances at *
  simp only [List.countP_append, List.length_append]
  omega

theorem append_left (h : Advances t u) (s : Text) : Advances (s ++ t) (s ++ u) := by
  unfold Advances at *
  simp only [List.countP_append, List.length_append]
  omega

theorem append_right (h : Advances t u) (s : Text) : Advances (t ++ s) (u ++ s) := by
  unfold Advances at *
  simp only [List.countP_append, List.length_append]
  omega

end Advances

def RuleAdvances (rule : Rule) : Prop :=
  ∀ c cs m, rule (c :: cs) = some m → Advances (c :: cs.take (m.size - 1)) m.replacement

namespace RuleAdvances

variable {rule : Rule}

theorem substitute_eq_or (h : RuleAdvances rule) (t : Text) :
    first? rule t = none ∧ substitute rule t = t ∨ Advances t (substitute rule t) := by
  induction t using match_induction rule Match.size with
  | nil => exact Or.inl ⟨rfl, rfl⟩
  | keep c cs hmatch ih =>
      rw [substitute_of_none hmatch, first?, hmatch]
      rcases ih with ⟨hfirst, hsame⟩ | hadvances
      · exact Or.inl ⟨hfirst, congrArg _ hsame⟩
      · exact Or.inr (hadvances.append_left [c])
  | take c cs m hmatch ih =>
      have htaken := h c cs m hmatch
      have hcut : c :: cs = c :: cs.take (m.size - 1) ++ cs.drop (m.size - 1) := by
        rw [List.cons_append, List.take_append_drop]
      right
      rw [substitute_cons, hmatch]
      dsimp only
      rcases ih with ⟨-, hsame⟩ | hadvances
      · rw [hsame, hcut]
        simpa using htaken.append_right (cs.drop (m.size - 1))
      · have happend := htaken.append hadvances
        rwa [← hcut] at happend

theorem advances (h : RuleAdvances rule) {t : Text} (hfirst : first? rule t ≠ none) :
    Advances t (substitute rule t) :=
  (h.substitute_eq_or t).resolve_left fun hnone => hfirst hnone.1

theorem of_substitute? (h : RuleAdvances rule) {t u : Text}
    (hu : substitute? rule t = some u) : Advances t u := by
  obtain ⟨m, hfirst, rfl⟩ := Option.map_eq_some_iff.1 hu
  exact h.advances (by simp [hfirst])

end RuleAdvances

/-! ## Every step advances -/

theorem advances_prependInclude (header t : Text) : Advances t (prependInclude header t) := by
  have hopen : "#include <".toList.countP isSign = 1 := by decide +kernel
  have hclose : ['>', '\n'].countP isSign = 0 := by decide +kernel
  unfold prependInclude
  generalize "#include <".toList = opening at hopen ⊢
  left
  simp only [List.countP_append, hopen, hclose]
  omega

theorem ruleAdvances_nullRule : RuleAdvances nullRule := by
  intro c cs m h
  obtain ⟨a, b, rest, heq, -, -, rfl⟩ := nullRule_eq_some_iff.1 h
  obtain ⟨rfl, rfl⟩ := List.cons.inj heq
  have htaken : c :: (null ++ b :: rest).take 5 = [c] ++ null ++ [b] := rfl
  have hnull : null.countP isSign = 0 := by decide +kernel
  have hopen : ['('].countP isSign = 1 := by decide +kernel
  have hwritten : c :: '(' :: null ++ [')', b] = [c] ++ ['('] ++ null ++ [')'] ++ [b] := by simp
  left
  dsimp only
  rw [htaken, hwritten]
  simp only [List.countP_append, hnull, hopen]
  omega

theorem isSign_of_space {c : Char} (h : CharClass.space c = true) : isSign c = false := by
  by_contra hsign
  simp only [isSign, Bool.not_eq_false, Bool.or_eq_true, decide_eq_true_eq] at hsign
  obtain (rfl | rfl) | rfl := hsign
  · exact absurd h (by decide)
  · exact absurd h (by decide)
  · exact absurd h (by decide)

theorem ruleAdvances_stripRule {words : Text} {mark : Char} {Form : Text → Prop}
    {body? : Text → Option Text} (hkeyword : Keyword words mark Form body?)
    (hwords : words.countP isSign = 0) : RuleAdvances (stripRule words body?) := by
  intro c cs m h
  obtain ⟨c', body, after, hcut, hc', rfl⟩ := hkeyword.exists_cut_of_match h
  have htaken := (take_drop_of_cons_eq_append hcut (by simp)).1
  have hspace : [c'].countP isSign = 0 := by
    simp [isSign_of_space hc']
  right
  dsimp only
  rw [htaken]
  simp only [List.countP_append, List.length_append, hwords, hspace, List.length_singleton]
  omega

theorem ruleAdvances_quotesRule : RuleAdvances quotesRule := by
  intro c cs m h
  obtain ⟨p, hp, rfl⟩ := Option.map_eq_some_iff.1 h
  have hmem : .matched (c :: cs.take (p.toMatch.size - 1)) p ∈ quoteParts (c :: cs) := by
    rw [quoteParts, parts_of_some _ hp]
    exact List.mem_cons_self
  obtain ⟨lead, inner, tail, q, q', hq, hq', htaken, hwritten⟩ := doublesPair_of_mem_quoteParts hmem
  have hsign : ∀ q, IsQuote q → q.countP isSign = 1 := by
    rintro _ (rfl | rfl)
    · decide +kernel
    · decide +kernel
  have hdouble : ['\'', '\''].countP isSign = 2 := by decide +kernel
  left
  rw [htaken, hwritten]
  simp only [List.countP_cons, List.countP_append, hsign q hq, hsign q' hq', hdouble]
  omega

theorem advances_of_attempt? {header : Option Text} {step : PatchStep} {t u : Text}
    (h : attempt? header step t = some u) : Advances t u := by
  cases step with
  | includeLine =>
      obtain ⟨name, -, rfl⟩ := Option.map_eq_some_iff.1 h
      exact advances_prependInclude name t
  | wrapNull => exact ruleAdvances_nullRule.of_substitute? h
  | stripConstexprFunctions =>
      exact (ruleAdvances_stripRule keyword_function (by decide +kernel)).of_substitute? h
  | stripStaticConstexprObjects =>
      exact (ruleAdvances_stripRule keyword_object (by decide +kernel)).of_substitute? h
  | escapeQuotes =>
      obtain ⟨p, hfirst, -, -, rfl⟩ := escapeQuotes_eq_some_iff.1 h
      apply ruleAdvances_quotesRule.advances
      have hmap : first? quotesRule t = (first? literalPair? t).map QuotedPair.toMatch :=
        first?_map literalPair? QuotedPair.toMatch t
      rw [hmap, hfirst]
      simp

/-! ## All steps -/

structure Visit where
  step : PatchStep
  before : Text
  after : Text
deriving DecidableEq, Repr

/-- The steps in order.  One that does not apply leaves the text that it finds. -/
def visits (header : Option Text) : List PatchStep → Text → List Visit
  | [], _ => []
  | step :: steps, t =>
    let after := (attempt? header step t).getD t
    ⟨step, t, after⟩ :: visits header steps after

def changing (visited : List Visit) : List PatchStep :=
  (visited.filter fun v => v.before ≠ v.after).map Visit.step

theorem applied_eq_changing (header : Option Text) (steps : List PatchStep) (t : Text) :
    (run header steps t).2 = changing (visits header steps t) := by
  induction steps generalizing t with
  | nil => rfl
  | cons step steps ih =>
      rw [run, visits, changing, List.filter_cons]
      cases hattempt : attempt? header step t with
      | none =>
          simp only [Option.getD_none, ne_eq, not_true_eq_false, decide_false, Bool.false_eq_true,
            if_false]
          exact ih t
      | some patched =>
          have hne := (advances_of_attempt? hattempt).ne
          simp only [Option.getD_some, ne_eq, hne, not_false_eq_true, decide_true, if_true,
            List.map_cons]
          exact congrArg _ (ih patched)

theorem unchanged_or_advances (header : Option Text) (steps : List PatchStep) (t : Text) :
    run header steps t = (t, []) ∨
      (run header steps t).2 ≠ [] ∧ Advances t (run header steps t).1 := by
  induction steps generalizing t with
  | nil => exact Or.inl rfl
  | cons step steps ih =>
      rw [run]
      cases hattempt : attempt? header step t with
      | none => exact ih t
      | some patched =>
          right
          have hstep := advances_of_attempt? hattempt
          dsimp only
          rcases ih patched with hsame | ⟨-, hadvances⟩
          · rw [hsame]
            exact ⟨List.cons_ne_nil _ _, hstep⟩
          · exact ⟨List.cons_ne_nil _ _, hstep.trans hadvances⟩

/-- Steps that apply never undo one another. -/
theorem run_ne_iff (header : Option Text) (steps : List PatchStep) (t : Text) :
    (run header steps t).1 ≠ t ↔ (run header steps t).2 ≠ [] := by
  rcases unchanged_or_advances header steps t with hsame | ⟨happlied, hadvances⟩
  · simp [hsame]
  · exact iff_of_true hadvances.ne.symm happlied

theorem run_eq_foldl_visits (header : Option Text) (steps : List PatchStep) (t : Text) :
    (run header steps t).1 = (visits header steps t).foldl (fun _ v => v.after) t := by
  induction steps generalizing t with
  | nil => rfl
  | cons step steps ih =>
      rw [run_cons, ih, visits, List.foldl_cons]

theorem map_step_visits (header : Option Text) (steps : List PatchStep) (t : Text) :
    (visits header steps t).map Visit.step = steps := by
  induction steps generalizing t with
  | nil => rfl
  | cons step steps ih => rw [visits, List.map_cons, ih]

def allSteps : List PatchStep :=
  [.includeLine, .wrapNull, .stripConstexprFunctions, .stripStaticConstexprObjects, .escapeQuotes]

theorem steps_sublist (isSource : Bool) : (steps isSource).Sublist allSteps := by
  cases isSource with
  | false => decide
  | true => decide

theorem changing_sublist (header : Option Text) (isSource : Bool) (t : Text) :
    (changing (visits header (steps isSource) t)).Sublist allSteps := by
  have hvisits := map_step_visits header (steps isSource) t
  have hfilter := (List.filter_sublist (l := visits header (steps isSource) t)
    (p := fun v => v.before ≠ v.after)).map Visit.step
  rw [hvisits] at hfilter
  exact hfilter.trans (steps_sublist isSource)

end Patch

namespace FileTree

variable {t t' : FileTree} {header : Option Text} {isSource : Bool} {p : Path} {old : Text}
  {applied : List PatchStep}

theorem patch_eq_ok_iff :
    t.patch header isSource p = .ok (t', applied) ↔
      t.patchFile header isSource p = (t', .ok applied) := by
  unfold patch
  obtain ⟨left, outcome⟩ := t.patchFile header isSource p
  cases outcome with
  | error e => simp [Except.map]
  | ok names => simp [Except.map]

/-- A patch of a text gets to its end when there is nothing to write, or when the file may
be written and there is room for the new text. -/
theorem exists_patch_eq_ok_iff (hold : t.readText p = .ok old) :
    (∃ t' applied, t.patch header isSource p = .ok (t', applied)) ↔
      Patch.patched header isSource old = old ∨
        t.MayWrite p ∧ ∀ l, t.locate p = .ok l →
          t.stored l (Utf8.encode (Patch.patched header isSource old)) =
            Utf8.encode (Patch.patched header isSource old) := by
  simp only [patch_eq_ok_iff]
  have hend := patchEnd_patchFile hold header isSource
  generalize t.patchFile header isSource p = done at hend ⊢
  cases hend with
  | unchanged hsame => exact iff_of_true ⟨_, _, rfl⟩ (Or.inl hsame)
  | refused hne htarget =>
      refine iff_of_false (by simp) ?_
      rintro (hsame | ⟨hmay, -⟩)
      · exact hne hsame
      · exact not_mayWrite_of_target_eq_error hold htarget hmay
  | written hwritable hfits =>
      refine iff_of_true ⟨_, _, rfl⟩ (Or.inr ⟨hwritable.mayWrite, ?_⟩)
      intro l hl
      rw [hwritable.unique hl]
      exact hfits
  | brokenOff hne hwritable hbreaks =>
      refine iff_of_false (by simp) ?_
      rintro (hsame | ⟨-, hfits⟩)
      · exact hne hsame
      · exact hbreaks (hfits _ hwritable.locate_eq)

theorem of_patch_eq_ok (hold : t.readText p = .ok old)
    (h : t.patch header isSource p = .ok (t', applied)) :
    applied = (Patch.run header (Patch.steps isSource) old).2 ∧
      t'.readText p = .ok (Patch.patched header isSource old) := by
  rw [patch_eq_ok_iff] at h
  have hend := patchEnd_patchFile hold header isSource
  rw [h] at hend
  cases hend with
  | unchanged hsame => exact ⟨rfl, by rw [hold, hsame]⟩
  | written hwritable hfits =>
      exact ⟨rfl, hwritable.readText_set (mayRead_of_readText hold) _⟩

theorem read_ne_iff_of_readText {new : Text} (hold : t.readText p = .ok old)
    (hnew : t'.readText p = .ok new) : t'.read p ≠ t.read p ↔ new ≠ old := by
  rw [readText_eq_ok_iff_read.1 hold, readText_eq_ok_iff_read.1 hnew, Ne, Ne, Except.ok.injEq,
    not_iff_not]
  exact ⟨Utf8.encode_injective, congrArg _⟩

/-- When a file that holds a text has been patched, the steps that changed the text are
reported in their fixed order, and the file has other bytes than before exactly when there
are any.  Patching it fails only where the new text cannot be written.  What cannot be read
as a text is refused, and nothing changes.  No other file is ever touched. -/
theorem patch_reports_changes (t : FileTree) (header : Option Text) (isSource : Bool) (p : Path) :
    (∀ old, t.readText p = .ok old →
      ((∃ t' applied, t.patch header isSource p = .ok (t', applied)) ↔
        Patch.patched header isSource old = old ∨
          t.MayWrite p ∧ ∀ l, t.locate p = .ok l →
            t.stored l (Utf8.encode (Patch.patched header isSource old)) =
              Utf8.encode (Patch.patched header isSource old)) ∧
      ∀ t' applied, t.patch header isSource p = .ok (t', applied) →
        applied = Patch.changing (Patch.visits header (Patch.steps isSource) old) ∧
        (applied.map PatchStep.name).Sublist ["include", "wrap_null",
          "strip_constexpr_functions", "strip_static_constexpr_objects",
          "escape_single_quotes"] ∧
        t'.readText p =
          .ok ((Patch.visits header (Patch.steps isSource) old).foldl (fun _ v => v.after) old) ∧
        (t'.read p ≠ t.read p ↔ applied ≠ []) ∧
        ∃ l, t.locate p = .ok l ∧ AgreeOutside {l} t' t) ∧
    ((∀ old, t.readText p ≠ .ok old) →
      (∃ e, t.patch header isSource p = .error e) ∧ (t.patchFile header isSource p).1 = t) ∧
    AgreeOutside {l | t.locate p = .ok l} (t.patchFile header isSource p).1 t := by
  have hframe := (t.frame_patchFile header isSource p).2
  refine ⟨?_, ?_, hframe⟩
  · intro old hold
    refine ⟨exists_patch_eq_ok_iff hold, ?_⟩
    intro t' applied hpatch
    obtain ⟨happlied, hnew⟩ := of_patch_eq_ok hold hpatch
    rw [← Patch.run_steps] at hnew
    have hread := read_ne_iff_of_readText hold hnew
    rw [Patch.run_ne_iff, ← happlied] at hread
    rw [Patch.run_eq_foldl_visits] at hnew
    rw [Patch.applied_eq_changing] at happlied
    refine ⟨happlied, ?_, hnew, hread, ?_⟩
    · rw [happlied]
      exact (Patch.changing_sublist header isSource old).map PatchStep.name
    · obtain ⟨-, l, hlocate, -⟩ := read_eq_ok_iff.1 (readText_eq_ok_iff_read.1 hold)
      rw [patch_eq_ok_iff.1 hpatch] at hframe
      refine ⟨l, hlocate, hframe.mono ?_⟩
      intro l' hl'
      have hsame : t.locate p = .ok l' := hl'
      rw [hlocate, Except.ok.injEq] at hsame
      exact hsame.symm
  · intro hnone
    cases hread : t.readText p with
    | error e =>
        unfold patch
        rw [patchFile_of_readText_eq_error hread]
        exact ⟨⟨e, rfl⟩, rfl⟩
    | ok old => exact absurd hread (hnone old)

def pointerAndLiteral : Text :=
  "static constexpr int *p = NULL ;\nchar *s = \"test 'ab'\";\n".toList

def sourceBesideBinary : FileTree :=
  ⟨[], [(["a.cpp".toList], .file (Utf8.encode pointerAndLiteral)),
    (["c.bin".toList], .file [255])], .none⟩

theorem patch_reports_changes_three_steps :
    (∃ t' l, sourceBesideBinary.patch none true (Path.ofText "a.cpp".toList) =
        .ok (t', [.wrapNull, .stripStaticConstexprObjects, .escapeQuotes]) ∧
      t'.readText (Path.ofText "a.cpp".toList) =
        .ok "int *p = (NULL) ;\nchar *s = \"test ''ab''\";\n".toList ∧
      t'.read (Path.ofText "a.cpp".toList) ≠
        sourceBesideBinary.read (Path.ofText "a.cpp".toList) ∧
      AgreeOutside {l} t' sourceBesideBinary) ∧
    (∃ e, sourceBesideBinary.patch none true (Path.ofText "c.bin".toList) = .error e) ∧
    (sourceBesideBinary.patchFile none true (Path.ofText "c.bin".toList)).1 =
      sourceBesideBinary := by
  refine ⟨?_, ?_⟩
  · have hold : sourceBesideBinary.readText (Path.ofText "a.cpp".toList) = .ok pointerAndLiteral :=
      by decide +kernel
    obtain ⟨hreturns, hreports⟩ := (patch_reports_changes sourceBesideBinary none true
      (Path.ofText "a.cpp".toList)).1 _ hold
    obtain ⟨t', applied, hpatch⟩ := hreturns.2 (Or.inr
      ⟨fun _ _ => List.not_mem_nil, fun l _ => writesComplete_of_room rfl l _⟩)
    obtain ⟨happlied, -, hnew, hread, l, -, hagree⟩ := hreports t' applied hpatch
    have hsteps : applied = [.wrapNull, .stripStaticConstexprObjects, .escapeQuotes] :=
      happlied.trans (by decide +kernel)
    have htext : (Patch.visits none (Patch.steps true) pointerAndLiteral).foldl
          (fun _ v => v.after) pointerAndLiteral =
        "int *p = (NULL) ;\nchar *s = \"test ''ab''\";\n".toList := by
      decide +kernel
    rw [htext] at hnew
    subst hsteps
    exact ⟨t', l, hpatch, hnew, hread.2 (List.cons_ne_nil _ _), hagree⟩
  · apply (patch_reports_changes sourceBesideBinary none true (Path.ofText "c.bin".toList)).2.1
    have hbinary : (sourceBesideBinary.readText (Path.ofText "c.bin".toList)).toBool = false := by
      decide +kernel
    intro old hold
    rw [hold] at hbinary
    cases hbinary

end FileTree

end UnitReducer
