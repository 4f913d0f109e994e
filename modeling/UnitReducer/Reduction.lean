import UnitReducer.Distinct
import UnitReducer.Line.Classify
import UnitReducer.Path.Header
/-!
# Reduction of a preprocessed unit

The markers of a unit say which header each line comes from.  A reduction keeps all markers, drops
the bodies of system headers, and drops an include directive whose header was expanded anyway.  The
report counts the lines by what became of them.
-/

namespace UnitReducer

/-- What becomes of a line. -/
inductive Fate where
  | kept
  | systemLine
  | systemInclude
  | redundantInclude
deriving DecidableEq, Repr

/-- Line accounting of one reduction. -/
structure Report where
  total : Nat
  retained : Nat
  systemLines : Nat
  systemIncludes : Nat
  redundantIncludes : Nat
  expandedHeaders : Nat
deriving DecidableEq, Repr

def Report.dropped (r : Report) : Nat :=
  r.total - r.retained

namespace Reduction

/-- Every path entered by a marker, in order of first entry. -/
def expansions (lines : List Line) : List Text :=
  distinct (lines.filterMap Line.entered?)

/-- The expanded headers that lie outside the system, each once. -/
def localHeaders (isSystem : Text → Bool) (expanded : List Text) : List Text :=
  (distinct expanded).filter fun header => !isSystem header

/-- Verdicts on include paths: whether a local header of this identity was expanded. -/
abbrev Verdicts := List (Text × Bool)

/-- The verdict on one path.  A path is compared with the headers only once; the verdict is then
remembered. -/
def verdict (headers : List Text) (known : Verdicts) (path : Text) : Bool × Verdicts :=
  match known.lookup path with
  | some redundant => (redundant, known)
  | none =>
    let redundant := headers.any fun header => Header.same header path
    (redundant, (path, redundant) :: known)

/-- Where a walk over the lines of a unit stands: whether they belong to a system header, and the
verdicts that were reached so far. -/
structure Walk where
  inSystem : Bool
  known : Verdicts
deriving DecidableEq, Repr

/-- A walk starts in the main file and knows nothing. -/
def Walk.start : Walk :=
  ⟨false, []⟩

/-- What becomes of a line, and where the walk stands after it. -/
def Walk.step (isSystem : Text → Bool) (headers : List Text) (w : Walk) : Line → Fate × Walk
  | .marker _ path _ => (.kept, { w with inSystem := isSystem path })
  | .included path _ =>
    if w.inSystem then (.systemInclude, w)
    else
      let (redundant, known) := verdict headers w.known path
      (if redundant then .redundantInclude else .kept, { w with known := known })
  | .other _ => (if w.inSystem then .systemLine else .kept, w)

/-- Every line with its fate. -/
def judge (isSystem : Text → Bool) (headers : List Text) : Walk → List Line → List (Line × Fate)
  | _, [] => []
  | w, line :: lines =>
    let (fate, next) := w.step isSystem headers line
    (line, fate) :: judge isSystem headers next lines

def retained (judged : List (Line × Fate)) : List Line :=
  (judged.filter (·.2 = .kept)).map (·.1)

def countOf (f : Fate) (judged : List (Line × Fate)) : Nat :=
  judged.countP (·.2 = f)

/-- The lines that stay when `expanded` are the headers expanded in the unit. -/
def reconstruct (isSystem : Text → Bool) (expanded : List Text) (lines : List Line) : Text :=
  let judged := judge isSystem (localHeaders isSystem expanded) .start lines
  Text.unlines ((retained judged).map Line.render)

def report (isSystem : Text → Bool) (expanded : List Text) (lines : List Line) : Report :=
  let judged := judge isSystem (localHeaders isSystem expanded) .start lines
  { total := lines.length
    retained := (retained judged).length
    systemLines := countOf .systemLine judged
    systemIncludes := countOf .systemInclude judged
    redundantIncludes := countOf .redundantInclude judged
    expandedHeaders := (distinct expanded).length }

/-- Reduces annotated preprocessor output and accounts for every line of it. -/
def reduce (isSystem : Text → Bool) (source : Text) : Except MarkerError (Text × Report) := do
  let lines ← Line.classifyAll source.lines
  let expanded := expansions lines
  return (reconstruct isSystem expanded lines, report isSystem expanded lines)

@[simp] theorem map_fst_judge (isSystem : Text → Bool) (headers : List Text) (w : Walk)
    (lines : List Line) : (judge isSystem headers w lines).map (·.1) = lines := by
  induction lines generalizing w with
  | nil => rfl
  | cons line lines ih => simp [judge, ih]

theorem mem_expansions {lines : List Line} {path : Text} :
    path ∈ expansions lines ↔ ∃ line ∈ lines, line.entered? = some path := by
  simp [expansions, mem_distinct]

end Reduction

end UnitReducer
