import UnitReducer.Proofs.PathComponents
/-!
# Spellings of paths

What joining texts with slashes does to header identity and to system roots.  The answers
depend on the components alone (`Interchangeable`), and behind a name neither a doubled
slash nor a `.` between slashes adds a component.
-/

namespace UnitReducer

namespace Header

/-! ## Joined texts -/

theorem isSuffix_append {f : Text} (hrelative : (Path.ofText f).isAbsolute = false)
    (hne : components f ≠ []) (d : Text) : isSuffix (d ++ '/' :: f) f = true := by
  have hf : components f = (Path.ofText f).names := Path.components_of_relative hrelative
  have hnames : (Path.ofText f).names <:+ (Path.ofText (d ++ '/' :: f)).names := by
    rw [Path.names_append]
    exact List.suffix_append _ _
  rw [isSuffix_iff]
  refine ⟨hne, ?_⟩
  rw [hf]
  exact hnames.trans (Path.names_suffix_components _)

theorem underRoots_append {roots : List Text} {root : Text} (hroot : root ∈ roots)
    (hnames : (Path.ofText root).names ≠ []) (f : Text) :
    underRoots roots (root ++ '/' :: f) = true := by
  have hne : root ≠ [] := by
    rintro rfl
    exact hnames rfl
  rw [underRoots_iff]
  refine ⟨root, hroot, hne, ?_⟩
  have hcomponents : components (root ++ '/' :: f) =
      components root ++ (Path.ofText f).names := Path.components_append hnames f
  rw [hcomponents]
  exact List.prefix_append _ _

theorem underRoots_mono {roots more : List Text} (h : roots ⊆ more) {path : Text}
    (hpath : underRoots roots path = true) : underRoots more path = true := by
  rw [underRoots_iff] at *
  obtain ⟨root, hroot, hunder⟩ := hpath
  exact ⟨root, h hroot, hunder⟩

/-! ## Texts that spell one path -/

/-- Nothing that is asked about header identity or system roots tells two texts apart,
wherever they stand. -/
structure Interchangeable (s t : Text) : Prop where
  isSuffix_path : ∀ suffix, isSuffix s suffix = isSuffix t suffix
  isSuffix_suffix : ∀ path, isSuffix path s = isSuffix path t
  same_left : ∀ other, same s other = same t other
  same_right : ∀ other, same other s = same other t
  underRoots_path : ∀ roots, underRoots roots s = underRoots roots t
  underRoots_root : ∀ before after path,
    underRoots (before ++ s :: after) path = underRoots (before ++ t :: after) path

theorem interchangeable_of_components_eq {s t : Text} (hs : s ≠ []) (ht : t ≠ [])
    (h : components s = components t) : Interchangeable s t where
  isSuffix_path suffix := by rw [isSuffix, isSuffix, h]
  isSuffix_suffix path := by rw [isSuffix, isSuffix, h]
  same_left other := by simp only [same, isSuffix, h]
  same_right other := by simp only [same, isSuffix, h]
  underRoots_path roots := by rw [underRoots, underRoots, h]
  underRoots_root before after path := by
    simp only [underRoots, List.filter_append, List.filter_cons, ne_eq, hs, ht,
      not_false_eq_true, decide_true, if_true, List.any_append, List.any_cons, h]

/-- What has no name in it may stand between slashes behind a name. -/
theorem interchangeable_of_names_eq_nil {a s : Text} (ha : (Path.ofText a).names ≠ [])
    (hs : (Path.ofText s).names = []) (b : Text) :
    Interchangeable (a ++ '/' :: b) (a ++ '/' :: (s ++ '/' :: b)) := by
  apply interchangeable_of_components_eq (by simp) (by simp)
  rw [components, components, Path.components_append ha, Path.components_append ha,
    Path.names_append, hs, List.nil_append]

/-- A relative path is a suffix of what stands in a directory under its name, a root takes in
what is written behind it, a slash behind a name may be written twice or with a `.` after
it, and further roots take nothing out. -/
theorem paths_follow_spelling :
    (∀ d f : Text, (Path.ofText f).isAbsolute = false → components f ≠ [] →
        isSuffix (d ++ '/' :: f) f = true) ∧
      (∀ (roots : List Text) (root f : Text), root ∈ roots → (Path.ofText root).names ≠ [] →
        underRoots roots (root ++ '/' :: f) = true) ∧
      (∀ a b : Text, (Path.ofText a).names ≠ [] →
        Interchangeable (a ++ '/' :: b) (a ++ '/' :: '.' :: '/' :: b) ∧
          Interchangeable (a ++ '/' :: b) (a ++ '/' :: '/' :: b)) ∧
      ∀ (roots more : List Text) (path : Text), roots ⊆ more → underRoots roots path = true →
        underRoots more path = true := by
  refine ⟨?_, ?_, ?_, ?_⟩
  · intro d f hrelative hne
    exact isSuffix_append hrelative hne d
  · intro roots root f hroot hnames
    exact underRoots_append hroot hnames f
  · intro a b h
    have hdot : (Path.ofText ['.']).names = [] := rfl
    have hempty : (Path.ofText []).names = [] := rfl
    exact ⟨interchangeable_of_names_eq_nil h hdot b, interchangeable_of_names_eq_nil h hempty b⟩
  · intro roots more path h hpath
    exact underRoots_mono h hpath

theorem paths_follow_spelling_two_slashes :
    let directory := "//opt/.".toList
    let header := "./sub//a.h".toList
    let path := "//opt/././sub//a.h".toList
    isSuffix path header = true ∧
      underRoots [directory] path = true ∧
      underRoots ["/usr".toList, directory] path = true ∧
      Interchangeable path "//opt/./././sub//a.h".toList ∧
      Interchangeable path "//opt/.//./sub//a.h".toList := by
  intro directory header path
  obtain ⟨hsuffix, hroots, hspelled, hmore⟩ := paths_follow_spelling
  have hnames : (Path.ofText directory).names ≠ [] := by decide
  have hunder : underRoots [directory] path = true :=
    hroots [directory] directory header (by decide) hnames
  have hspellings := hspelled directory header hnames
  exact ⟨hsuffix directory header (by decide) (by decide), hunder,
    hmore [directory] ["/usr".toList, directory] path (by decide) hunder,
    hspellings.1, hspellings.2⟩

/-- In front of the first name a second slash makes another root. -/
example : underRoots ["//opt".toList] "/opt/a.h".toList = false := by decide

end Header

end UnitReducer
