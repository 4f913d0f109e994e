import UnitReducer.Path.Header
import UnitReducer.Proofs.LineBreaks
import Mathlib.Data.List.Infix
/-!
# Components of written paths

What the root, the names and the components of a path are, seen from the text that spells
it.  A slash stands in the root of an absolute path and in no name.  A text written behind
another with a slash between them adds its names, and the root stays that of the text in
front as long as there is a name in it.
-/

namespace UnitReducer

namespace Path

/-! ## Roots -/

theorem isAbsolute_eq_false_iff {p : Path} : p.isAbsolute = false ↔ p.root = .relative := by
  simp [isAbsolute]

theorem isAbsolute_iff_root_ne {p : Path} : p.isAbsolute = true ↔ p.root ≠ .relative := by
  simp [isAbsolute]

theorem isAbsolute_ofText_iff {t : Text} :
    (ofText t).isAbsolute = true ↔ t.head? = some '/' := by
  rw [isAbsolute_iff_root_ne]
  unfold ofText
  fun_cases Root.ofText t with
  | case1 t => simp
  | case2 t h => simp
  | case3 t h => simp
  | case4 _ _ _ hfirst =>
      cases t with
      | nil => simp
      | cons c t => simpa using fun hc => hfirst t (by rw [hc])

theorem slash_mem_text_root {p : Path} (h : p.isAbsolute = true) : '/' ∈ p.root.text := by
  rw [isAbsolute_iff_root_ne] at h
  cases hroot : p.root with
  | relative => exact absurd hroot h
  | single => exact List.mem_singleton_self _
  | double => exact List.mem_cons_self

theorem root_append {t : Text} (h : (ofText t).names ≠ []) (u : Text) :
    Root.ofText (t ++ '/' :: u) = Root.ofText t := by
  fun_cases Root.ofText t with
  | case1 t => rfl
  | case2 rest hthird =>
      cases rest with
      | nil => exact absurd rfl h
      | cons c rest =>
          have hc : c ≠ '/' := fun hc => hthird rest (by rw [hc])
          simp [Root.ofText, hc]
  | case3 rest _ hsecond =>
      cases rest with
      | nil => exact absurd rfl h
      | cons c rest =>
          have hc : c ≠ '/' := fun hc => hsecond rest (by rw [hc])
          simp [Root.ofText, hc]
  | case4 _ _ _ hfirst =>
      cases t with
      | nil => exact absurd rfl h
      | cons c t =>
          have hc : c ≠ '/' := fun hc => hfirst t (by rw [hc])
          simp [Root.ofText, hc]

/-! ## Names -/

theorem names_append (t u : Text) :
    (ofText (t ++ '/' :: u)).names = (ofText t).names ++ (ofText u).names := by
  simp only [ofText, Text.split_append, List.filter_append]

theorem slash_not_mem_of_mem_names {t name : Text} (h : name ∈ (ofText t).names) :
    '/' ∉ name :=
  Text.not_mem_of_mem_split (List.mem_of_mem_filter h)

/-! ## Components -/

theorem components_of_relative {p : Path} (h : p.isAbsolute = false) : p.components = p.names := by
  rw [components, isAbsolute_eq_false_iff.1 h]

theorem components_of_absolute {p : Path} (h : p.isAbsolute = true) :
    p.components = p.root.text :: p.names := by
  rw [isAbsolute_iff_root_ne] at h
  cases hroot : p.root with
  | relative => exact absurd hroot h
  | single => simp [components, hroot]
  | double => simp [components, hroot]

theorem names_suffix_components (p : Path) : p.names <:+ p.components := by
  cases h : p.isAbsolute with
  | false => rw [components_of_relative h]
  | true =>
      rw [components_of_absolute h]
      exact List.suffix_cons _ _

/-- Behind a text with a name in it only names are added. -/
theorem components_append {t : Text} (h : (ofText t).names ≠ []) (u : Text) :
    (ofText (t ++ '/' :: u)).components = (ofText t).components ++ (ofText u).names := by
  have hroot : (ofText (t ++ '/' :: u)).root = (ofText t).root := root_append h u
  have habsolute : (ofText (t ++ '/' :: u)).isAbsolute = (ofText t).isAbsolute := by
    rw [isAbsolute, isAbsolute, hroot]
  cases hkind : (ofText t).isAbsolute with
  | false =>
      rw [components_of_relative (habsolute.trans hkind), components_of_relative hkind,
        names_append]
  | true =>
      rw [components_of_absolute (habsolute.trans hkind), components_of_absolute hkind,
        names_append, hroot, List.cons_append]

theorem text_root_not_mem_names {p : Path} (h : p.isAbsolute = true) (t : Text) :
    p.root.text ∉ (ofText t).names :=
  fun hmem => slash_not_mem_of_mem_names hmem (slash_mem_text_root h)

theorem root_eq_of_text_eq {r r' : Root} (h : r.text = r'.text) : r = r' := by
  cases r <;> cases r' <;> simp_all [Root.text]

theorem eq_of_root_names {p q : Path} (hroot : p.root = q.root) (hnames : p.names = q.names) :
    p = q := by
  calc
    p = ⟨p.root, p.names⟩ := rfl
    _ = ⟨q.root, q.names⟩ := by rw [hroot, hnames]
    _ = q := rfl

theorem components_ofText_inj {t u : Text} :
    (ofText t).components = (ofText u).components ↔ ofText t = ofText u := by
  refine ⟨fun h => ?_, congrArg components⟩
  cases ht : (ofText t).isAbsolute with
  | false =>
      rw [components_of_relative ht] at h
      cases hu : (ofText u).isAbsolute with
      | false =>
          rw [components_of_relative hu] at h
          apply eq_of_root_names _ h
          rw [isAbsolute_eq_false_iff.1 ht, isAbsolute_eq_false_iff.1 hu]
      | true =>
          rw [components_of_absolute hu] at h
          exact absurd (h ▸ List.mem_cons_self) (text_root_not_mem_names hu t)
  | true =>
      rw [components_of_absolute ht] at h
      cases hu : (ofText u).isAbsolute with
      | false =>
          rw [components_of_relative hu] at h
          exact absurd (h ▸ List.mem_cons_self) (text_root_not_mem_names ht u)
      | true =>
          rw [components_of_absolute hu] at h
          obtain ⟨hroot, hnames⟩ := List.cons.inj h
          exact eq_of_root_names (root_eq_of_text_eq hroot) hnames

end Path

end UnitReducer
