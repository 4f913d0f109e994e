import UnitReducer.Path
/-!
# Header identity

Two spellings name the same header when the components of one end with the components of the
other.  A header belongs to the system when its components start with those of a system root.
-/

namespace UnitReducer.Header

def components (path : Text) : List Text :=
  (Path.ofText path).components

/-- `suffix` spells the trailing components of `path`, and at least one of them. -/
def isSuffix (path suffix : Text) : Bool :=
  components suffix ≠ [] && (components suffix).isSuffixOf (components path)

/-- Header identity: one path is a component suffix of the other. -/
def same (a b : Text) : Bool :=
  isSuffix a b || isSuffix b a

def defaultRoots : List Text := ["/usr".toList]

/-- `path` lies under one of the roots; an empty root text counts for nothing. -/
def underRoots (roots : List Text) (path : Text) : Bool :=
  (roots.filter (· ≠ [])).any fun root => (components root).isPrefixOf (components path)

theorem isSuffix_iff {path suffix : Text} :
    isSuffix path suffix = true ↔
      components suffix ≠ [] ∧ components suffix <:+ components path := by
  simp [isSuffix]

theorem underRoots_iff {roots : List Text} {path : Text} :
    underRoots roots path = true ↔
      ∃ root ∈ roots, root ≠ [] ∧ components root <+: components path := by
  simp [underRoots]

end UnitReducer.Header
