import UnitReducer.Proofs.PathComponents
/-!
# What system roots take in

A root with a component takes in paths of its own kind only, absolute or relative ones.
Roots that spell the current directory have no component and take in every path, so they
are what keeps relative roots from leaving absolute paths alone (`kindsApart_iff`).
-/

namespace UnitReducer.Header

/-- The text is not empty, and the path it spells has neither a root nor a name. -/
def SpellsHere (root : Text) : Prop :=
  root ≠ [] ∧ Path.ofText root = Path.ofText ['.']

theorem components_eq_nil_iff {t : Text} :
    components t = [] ↔ Path.ofText t = Path.ofText ['.'] := by
  have hhere : components ['.'] = [] := rfl
  rw [← hhere]
  exact Path.components_ofText_inj

theorem isAbsolute_eq_of_isPrefix {root path : Text} (hne : components root ≠ [])
    (h : components root <+: components path) :
    (Path.ofText root).isAbsolute = (Path.ofText path).isAbsolute := by
  cases hroot : (Path.ofText root).isAbsolute with
  | false =>
      cases hpath : (Path.ofText path).isAbsolute with
      | false => rfl
      | true =>
          -- the root of the path would be the first name of the root
          obtain ⟨name, names, hnames⟩ := List.exists_cons_of_ne_nil hne
          rw [hnames, components, Path.components_of_absolute hpath, List.cons_prefix_cons] at h
          rw [components, Path.components_of_relative hroot, h.1] at hnames
          exact absurd (hnames ▸ List.mem_cons_self) (Path.text_root_not_mem_names hpath root)
  | true =>
      cases hpath : (Path.ofText path).isAbsolute with
      | true => rfl
      | false =>
          rw [components, components, Path.components_of_absolute hroot,
            Path.components_of_relative hpath] at h
          exact absurd (h.subset List.mem_cons_self) (Path.text_root_not_mem_names hroot path)

theorem underRoots_of_spellsHere {roots : List Text} {root : Text} (hroot : root ∈ roots)
    (h : SpellsHere root) (path : Text) : underRoots roots path = true := by
  rw [underRoots_iff]
  refine ⟨root, hroot, h.1, ?_⟩
  rw [components_eq_nil_iff.2 h.2]
  exact List.nil_prefix

theorem exists_root_of_underRoots {roots : List Text} {path : Text}
    (h : underRoots roots path = true) :
    ∃ root ∈ roots, root ≠ [] ∧
      (SpellsHere root ∨ (Path.ofText root).isAbsolute = (Path.ofText path).isAbsolute) := by
  obtain ⟨root, hroot, hne, hunder⟩ := underRoots_iff.1 h
  refine ⟨root, hroot, hne, ?_⟩
  by_cases hnil : components root = []
  · exact Or.inl ⟨hne, components_eq_nil_iff.1 hnil⟩
  · exact Or.inr (isAbsolute_eq_of_isPrefix hnil hunder)

theorem isAbsolute_of_spellsHere {root : Text} (h : SpellsHere root) :
    (Path.ofText root).isAbsolute = false := by
  rw [h.2]
  rfl

theorem underRoots_of_relative_roots {roots : List Text} {path : Text}
    (hrelative : ∀ root ∈ roots, (Path.ofText root).isAbsolute = false)
    (hnamed : ∀ root ∈ roots, ¬ SpellsHere root) (hpath : (Path.ofText path).isAbsolute = true) :
    underRoots roots path = false := by
  rw [← Bool.not_eq_true]
  intro hunder
  obtain ⟨root, hroot, -, hhere | hkind⟩ := exists_root_of_underRoots hunder
  · exact hnamed root hroot hhere
  · rw [hrelative root hroot, hpath] at hkind
    cases hkind

theorem underRoots_of_absolute_roots {roots : List Text} {path : Text}
    (habsolute : ∀ root ∈ roots, root = [] ∨ (Path.ofText root).isAbsolute = true)
    (hpath : (Path.ofText path).isAbsolute = false) : underRoots roots path = false := by
  rw [← Bool.not_eq_true]
  intro hunder
  obtain ⟨root, hroot, hne, h⟩ := exists_root_of_underRoots hunder
  have hroot' : (Path.ofText root).isAbsolute = true := (habsolute root hroot).resolve_left hne
  rcases h with hhere | hkind
  · rw [isAbsolute_of_spellsHere hhere] at hroot'
    cases hroot'
  · rw [hroot', hpath] at hkind
    cases hkind

/-- Roots of one kind take in no path of the other kind.  An empty root is of either
kind. -/
structure KindsApart (roots : List Text) : Prop where
  relative : (∀ root ∈ roots, (Path.ofText root).isAbsolute = false) →
    ∀ path, (Path.ofText path).isAbsolute = true → underRoots roots path = false
  absolute : (∀ root ∈ roots, root = [] ∨ (Path.ofText root).isAbsolute = true) →
    ∀ path, (Path.ofText path).isAbsolute = false → underRoots roots path = false

/-- Absolute roots always leave relative paths alone.  Relative ones leave absolute paths
alone unless one of them spells the current directory, and then they take in everything. -/
theorem kindsApart_iff (roots : List Text) :
    ((∀ root ∈ roots, root = [] ∨ (Path.ofText root).isAbsolute = true) →
        ∀ path, (Path.ofText path).isAbsolute = false → underRoots roots path = false) ∧
      (KindsApart roots ↔
        ((∀ root ∈ roots, (Path.ofText root).isAbsolute = false) →
          ∀ root ∈ roots, ¬ SpellsHere root)) ∧
      ∀ root ∈ roots, SpellsHere root → ∀ path, underRoots roots path = true := by
  refine ⟨fun habsolute _ => underRoots_of_absolute_roots habsolute, ⟨?_, ?_⟩,
    fun root hroot h => underRoots_of_spellsHere hroot h⟩
  · intro h hrelative root hroot hhere
    have hslash : underRoots roots ['/'] = false := h.relative hrelative ['/'] rfl
    rw [underRoots_of_spellsHere hroot hhere] at hslash
    cases hslash
  · intro hnamed
    exact
      { relative := fun hrelative _ =>
          underRoots_of_relative_roots hrelative (hnamed hrelative)
        absolute := fun habsolute _ => underRoots_of_absolute_roots habsolute }

/-- With the current directory for its only root, `/project/foo.h` belongs to the system. -/
theorem here_takes_in_absolute : ¬ KindsApart [".".toList] := by
  intro h
  have hsystem : underRoots [".".toList] "/project/foo.h".toList = false :=
    h.relative (by decide) _ (by decide)
  revert hsystem
  decide

end UnitReducer.Header
