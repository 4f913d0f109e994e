import UnitReducer.Proofs.PathComponents
/-!
# Header identity

`Header.isSuffix` orders written paths by their trailing components, and `Header.same` joins
the paths that are comparable.  A path that is spelled from the root is the suffix of no
other path (`isSuffix_absolute_iff`).
-/

namespace UnitReducer.Header

section

variable {a b c path suffix : Text}

theorem isSuffix_self_iff : isSuffix path path = true ↔ components path ≠ [] := by
  rw [isSuffix_iff]
  exact and_iff_left (List.suffix_refl _)

theorem isSuffix_trans (hab : isSuffix a b = true) (hbc : isSuffix b c = true) :
    isSuffix a c = true := by
  rw [isSuffix_iff] at *
  exact ⟨hbc.1, hbc.2.trans hab.2⟩

theorem components_eq_of_isSuffix (hab : isSuffix a b = true) (hba : isSuffix b a = true) :
    components a = components b := by
  rw [isSuffix_iff] at *
  exact hba.2.eq_of_length_le hab.2.length_le

theorem same_iff : same a b = true ↔ isSuffix a b = true ∨ isSuffix b a = true := by
  rw [same, Bool.or_eq_true]

theorem same_comm (a b : Text) : same a b = same b a := by
  rw [same, same, Bool.or_comm]

theorem same_of_isSuffix (ha : isSuffix path a = true) (hb : isSuffix path b = true) :
    same a b = true := by
  rw [isSuffix_iff] at ha hb
  rw [same_iff, isSuffix_iff, isSuffix_iff]
  rcases List.suffix_or_suffix_of_suffix ha.2 hb.2 with h | h
  · exact Or.inr ⟨ha.1, h⟩
  · exact Or.inl ⟨hb.1, h⟩

/-- The root stands only in front, so a suffix that has one is the whole path. -/
theorem isSuffix_absolute_iff (h : (Path.ofText suffix).isAbsolute = true) :
    isSuffix path suffix = true ↔ components path = components suffix := by
  have hsuffix : components suffix = (Path.ofText suffix).root.text :: (Path.ofText suffix).names :=
    Path.components_of_absolute h
  rw [isSuffix_iff, hsuffix]
  constructor
  · rintro ⟨-, hpath⟩
    have hroot : (Path.ofText suffix).root.text ∉ (Path.ofText path).names :=
      Path.text_root_not_mem_names h path
    cases hkind : (Path.ofText path).isAbsolute with
    | false =>
        rw [components, Path.components_of_relative hkind] at hpath
        exact absurd (hpath.subset List.mem_cons_self) hroot
    | true =>
        rw [components, Path.components_of_absolute hkind] at hpath ⊢
        rcases List.suffix_cons_iff.1 hpath with heq | hbehind
        · exact heq.symm
        · exact absurd (hbehind.subset List.mem_cons_self) hroot
  · intro heq
    rw [heq]
    exact ⟨List.cons_ne_nil _ _, List.suffix_refl _⟩

end

/-- Being a suffix is reflexive on paths with a component, transitive, and antisymmetric up
to the components.  Suffixes of one path are the same header, being the same header is
symmetric, and only a path with the same root and the same names ends with an absolute
one. -/
theorem suffix_order_laws :
    (∀ path, isSuffix path path = true ↔ components path ≠ []) ∧
      (∀ a b c, isSuffix a b = true → isSuffix b c = true → isSuffix a c = true) ∧
      (∀ a b, isSuffix a b = true → isSuffix b a = true → components a = components b) ∧
      (∀ path a b, isSuffix path a = true → isSuffix path b = true → same a b = true) ∧
      (∀ a b, same a b = same b a) ∧
      ∀ path rest,
        (isSuffix path ('/' :: rest) = true ↔ components path = components ('/' :: rest)) ∧
          (components path = components ('/' :: rest) ↔
            Path.ofText path = Path.ofText ('/' :: rest)) := by
  refine ⟨fun _ => isSuffix_self_iff, fun _ _ _ => isSuffix_trans,
    fun _ _ => components_eq_of_isSuffix, fun _ _ _ => same_of_isSuffix, same_comm, ?_⟩
  intro path rest
  have habsolute : (Path.ofText ('/' :: rest)).isAbsolute = true :=
    Path.isAbsolute_ofText_iff.2 rfl
  exact ⟨isSuffix_absolute_iff habsolute, Path.components_ofText_inj⟩

theorem suffix_order_laws_three_spellings :
    let full := "/p/sub/a.h".toList
    let partly := "sub/a.h".toList
    let bare := "./a.h".toList
    (isSuffix full partly = true ∧ isSuffix partly bare = true ∧ isSuffix full bare = true) ∧
      same partly bare = true ∧
      (isSuffix "/p//sub/a.h".toList full = true ∧
        Path.ofText "/p//sub/a.h".toList = Path.ofText full) := by
  intro full partly bare
  obtain ⟨-, htrans, -, hsame, -, habsolute⟩ := suffix_order_laws
  have hpartly : isSuffix full partly = true := by decide
  have hbare : isSuffix partly bare = true := by decide
  have hfull : isSuffix full bare = true := htrans full partly bare hpartly hbare
  have hspelled : isSuffix "/p//sub/a.h".toList full = true := by decide
  have hpaths := habsolute "/p//sub/a.h".toList "p/sub/a.h".toList
  exact ⟨⟨hpartly, hbare, hfull⟩, hsame full partly bare hpartly hfull, hspelled,
    hpaths.2.1 (hpaths.1.1 hspelled)⟩

/-- Two slashes in front are a root of their own. -/
example : isSuffix "//p/a.h".toList "/p/a.h".toList = false := by decide

end UnitReducer.Header
