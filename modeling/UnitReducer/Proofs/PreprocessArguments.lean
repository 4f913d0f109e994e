import UnitReducer.Command
/-!
# Arguments that preprocess

A command line that compiles a file is turned into one that preprocesses it: the compile
flag gives way to the preprocess flag, and the output flag goes with its operand.  Only
the first flag of either kind is looked at, and a compile flag that is the operand of
the output flag takes the preprocess flag away with it.
`PreprocessArgv.preprocesses_iff_flagsOnce` says which command lines are turned into what
they should be.
-/

namespace UnitReducer

namespace PreprocessArgv

/-! ## What the arguments should be -/

/-- The arguments that are neither flag nor operand.  `awaited` says that the next
argument is the operand of an output flag, whatever it looks like. -/
def otherArgsFrom : Bool → List Text → List Text
  | _, [] => []
  | true, _ :: args => otherArgsFrom false args
  | false, arg :: args =>
    if arg = outputFlag then otherArgsFrom true args
    else if arg = compileFlag then otherArgsFrom false args
    else arg :: otherArgsFrom false args

def otherArgs (argv : List Text) : List Text :=
  otherArgsFrom false argv

/-- The arguments preprocess what `argv` compiles.  They have the preprocess flag, neither
a compile flag nor an output flag, the trace flag at their end, and besides the two flags
that were put in nothing but the other arguments of `argv` in their order. -/
structure Preprocesses (argv result : List Text) : Prop where
  preprocess_mem : preprocessFlag ∈ result
  compile_notMem : compileFlag ∉ result
  output_notMem : outputFlag ∉ result
  ends_with_trace : result.getLast? = some traceFlag
  others : ∃ front back, result = front ++ preprocessFlag :: back ++ [traceFlag] ∧
    front ++ back = otherArgs argv

/-! ## The first output flag -/

def beforeOutput (argv : List Text) : List Text :=
  argv.takeWhile (· ≠ outputFlag)

def outputOperand? (argv : List Text) : Option Text :=
  ((argv.dropWhile (· ≠ outputFlag)).drop 1).head?

def afterOutput (argv : List Text) : List Text :=
  (argv.dropWhile (· ≠ outputFlag)).drop 2

/-- The first compile flag is the operand of the first output flag. -/
def CompileFlagIsOperand (argv : List Text) : Prop :=
  outputOperand? argv = some compileFlag ∧ compileFlag ∉ beforeOutput argv

instance (argv : List Text) : Decidable (CompileFlagIsOperand argv) :=
  inferInstanceAs (Decidable (_ ∧ _))

/-- Without the first output flag and its operand there is no second output flag and
no second compile flag, and the operand is not the first compile flag. -/
structure FlagsOnce (argv : List Text) : Prop where
  output : outputFlag ∉ afterOutput argv
  compile : (dropOutput argv).count compileFlag ≤ 1
  operand : ¬ CompileFlagIsOperand argv

theorem dropOutput_eq (argv : List Text) :
    dropOutput argv = beforeOutput argv ++ afterOutput argv := by
  induction argv with
  | nil => rfl
  | cons arg args ih =>
      unfold beforeOutput afterOutput at ih ⊢
      by_cases h : arg = outputFlag <;> simp [dropOutput, h, ih]

section Cut

variable {front : List Text} (hfront : outputFlag ∉ front)
include hfront

theorem ne_outputFlag_of_mem : ∀ arg ∈ front, decide (arg ≠ outputFlag) = true := by
  intro arg harg
  rw [decide_eq_true_eq]
  rintro rfl
  exact hfront harg

theorem beforeOutput_append (args : List Text) :
    beforeOutput (front ++ args) = front ++ beforeOutput args :=
  List.takeWhile_append_of_pos (ne_outputFlag_of_mem hfront)

theorem dropWhile_append_args (args : List Text) :
    (front ++ args).dropWhile (· ≠ outputFlag) = args.dropWhile (· ≠ outputFlag) :=
  List.dropWhile_append_of_pos (ne_outputFlag_of_mem hfront)

theorem outputOperand?_append (args : List Text) :
    outputOperand? (front ++ args) = outputOperand? args := by
  rw [outputOperand?, dropWhile_append_args hfront, outputOperand?]

theorem afterOutput_append (args : List Text) :
    afterOutput (front ++ args) = afterOutput args := by
  rw [afterOutput, dropWhile_append_args hfront, afterOutput]

theorem dropOutput_append (args : List Text) :
    dropOutput (front ++ args) = front ++ dropOutput args := by
  rw [dropOutput_eq, beforeOutput_append hfront, afterOutput_append hfront, dropOutput_eq,
    List.append_assoc]

end Cut

@[simp] theorem beforeOutput_flag (args : List Text) : beforeOutput (outputFlag :: args) = [] := by
  simp [beforeOutput]

@[simp] theorem outputOperand?_flag (args : List Text) :
    outputOperand? (outputFlag :: args) = args.head? := by
  simp [outputOperand?]

@[simp] theorem afterOutput_flag (args : List Text) :
    afterOutput (outputFlag :: args) = args.drop 1 := by
  simp [afterOutput]

@[simp] theorem dropOutput_flag (args : List Text) :
    dropOutput (outputFlag :: args) = args.drop 1 := by
  rw [dropOutput, if_pos rfl]

theorem output_cases (argv : List Text) :
    ∃ front args, outputFlag ∉ front ∧ argv = front ++ args ∧
      (args = [] ∨ ∃ more, args = outputFlag :: more) := by
  by_cases h : outputFlag ∈ argv
  · obtain ⟨front, more, rfl, hfront⟩ := List.eq_append_cons_of_mem h
    exact ⟨front, outputFlag :: more, hfront, rfl, Or.inr ⟨more, rfl⟩⟩
  · exact ⟨argv, [], h, (List.append_nil argv).symm, Or.inl rfl⟩

/-! ## The first compile flag -/

theorem replaceCompileFlag_append (args more : List Text) :
    replaceCompileFlag (args ++ more) =
      if compileFlag ∈ args then replaceCompileFlag args ++ more
      else args ++ replaceCompileFlag more := by
  induction args with
  | nil => rfl
  | cons arg args ih =>
      rw [List.cons_append, replaceCompileFlag, replaceCompileFlag, ih]
      by_cases harg : arg = compileFlag
      · simp [harg]
      · by_cases hargs : compileFlag ∈ args <;> simp [harg, hargs, Ne.symm harg]

theorem replaceCompileFlag_of_notMem {args : List Text} (h : compileFlag ∉ args) :
    replaceCompileFlag args = args := by
  have happend := replaceCompileFlag_append args []
  rwa [if_neg h, List.append_nil, replaceCompileFlag, List.append_nil] at happend

theorem replaceCompileFlag_append_cons {front : List Text} (h : compileFlag ∉ front)
    (back : List Text) :
    replaceCompileFlag (front ++ compileFlag :: back) = front ++ preprocessFlag :: back := by
  rw [replaceCompileFlag_append, if_neg h, replaceCompileFlag, if_pos rfl]

theorem outputFlag_mem_replaceCompileFlag {args : List Text} :
    outputFlag ∈ replaceCompileFlag args ↔ outputFlag ∈ args := by
  have hpreprocess : outputFlag ≠ preprocessFlag := by decide
  have hcompile : outputFlag ≠ compileFlag := by decide
  induction args with
  | nil => exact Iff.rfl
  | cons arg args ih =>
      unfold replaceCompileFlag
      split
      next h => simp [h, hpreprocess, hcompile]
      next h => simp [ih]

def withPreprocessFlag : List Text → List Text
  | [] => [preprocessFlag]
  | arg :: args =>
    if arg = compileFlag then preprocessFlag :: args else arg :: withPreprocessFlag args

theorem withPreprocessFlag_eq (args : List Text) :
    withPreprocessFlag args =
      replaceCompileFlag args ++ if compileFlag ∈ args then [] else [preprocessFlag] := by
  induction args with
  | nil => rfl
  | cons arg args ih =>
      rw [withPreprocessFlag, replaceCompileFlag]
      by_cases harg : arg = compileFlag
      · simp [harg]
      · simp [harg, ih, Ne.symm harg]

theorem withPreprocessFlag_cases (args : List Text) :
    (compileFlag ∉ args ∧ withPreprocessFlag args = args ++ [preprocessFlag]) ∨
      ∃ front back, args = front ++ compileFlag :: back ∧ compileFlag ∉ front ∧
        withPreprocessFlag args = front ++ preprocessFlag :: back := by
  rw [withPreprocessFlag_eq]
  by_cases h : compileFlag ∈ args
  · obtain ⟨front, back, rfl, hfront⟩ := List.eq_append_cons_of_mem h
    refine Or.inr ⟨front, back, rfl, hfront, ?_⟩
    rw [if_pos h, List.append_nil, replaceCompileFlag_append_cons hfront]
  · rw [if_neg h, replaceCompileFlag_of_notMem h]
    exact Or.inl ⟨h, rfl⟩

/-! ## Both flags -/

theorem replaceCompileFlag_output (args : List Text) :
    replaceCompileFlag (outputFlag :: args) = outputFlag :: replaceCompileFlag args := by
  rw [replaceCompileFlag, if_neg (by decide)]

theorem compileFlagIsOperand_append {front : List Text} (hfront : outputFlag ∉ front)
    (args : List Text) :
    CompileFlagIsOperand (front ++ args) ↔
      compileFlag ∉ front ∧ CompileFlagIsOperand args := by
  unfold CompileFlagIsOperand
  rw [outputOperand?_append hfront, beforeOutput_append hfront, List.mem_append, not_or]
  exact and_left_comm

theorem ofArgv?_eq {argv : List Text} (hargv : argv ≠ []) :
    ofArgv? argv = some ((if CompileFlagIsOperand argv then dropOutput argv
      else withPreprocessFlag (dropOutput argv)) ++ [traceFlag]) := by
  have hne : compileFlag ≠ outputFlag := by decide
  rw [ofArgv?, if_neg hargv]
  congr 2
  obtain ⟨front, args, hfront, rfl, hargs⟩ := output_cases argv
  have hreplaced := mt outputFlag_mem_replaceCompileFlag.1 hfront
  simp only [compileFlagIsOperand_append hfront, withPreprocessFlag_eq, dropOutput_append hfront,
    replaceCompileFlag_append]
  by_cases hcompile : compileFlag ∈ front
  · simp [hcompile, dropOutput_append hreplaced]
  · rw [if_neg hcompile, dropOutput_append hfront]
    rcases hargs with rfl | ⟨more, rfl⟩
    · simp [hcompile, replaceCompileFlag, dropOutput, CompileFlagIsOperand, outputOperand?]
    · rw [replaceCompileFlag_output]
      cases more with
      | nil => simp [hcompile, hne, replaceCompileFlag, CompileFlagIsOperand]
      | cons operand back =>
          by_cases hoperand : operand = compileFlag
          · simp [hcompile, hoperand, replaceCompileFlag, CompileFlagIsOperand]
          · simp [hcompile, hne, hoperand, Ne.symm hoperand, replaceCompileFlag,
              CompileFlagIsOperand]

theorem outputFlag_mem_dropOutput {argv : List Text} :
    outputFlag ∈ dropOutput argv ↔ outputFlag ∈ afterOutput argv := by
  obtain ⟨front, args, hfront, rfl, hargs⟩ := output_cases argv
  rw [dropOutput_append hfront, afterOutput_append hfront, List.mem_append,
    or_iff_right hfront]
  rcases hargs with rfl | ⟨more, rfl⟩
  · exact Iff.rfl
  · rw [dropOutput_flag, afterOutput_flag]

/-! ## The other arguments -/

theorem otherArgs_append {front : List Text} (hfront : outputFlag ∉ front) (args : List Text) :
    otherArgs (front ++ args) = front.filter (· ≠ compileFlag) ++ otherArgs args := by
  unfold otherArgs
  induction front with
  | nil => rfl
  | cons arg front ih =>
      rw [List.mem_cons, not_or] at hfront
      rw [List.cons_append, otherArgsFrom, if_neg (Ne.symm hfront.1), ih hfront.2]
      by_cases harg : arg = compileFlag <;> simp [harg]

theorem otherArgs_of_notMem {args : List Text} (h : outputFlag ∉ args) :
    otherArgs args = args.filter (· ≠ compileFlag) := by
  have hnil : otherArgs [] = [] := rfl
  have happend := otherArgs_append h []
  rwa [hnil, List.append_nil, List.append_nil] at happend

theorem otherArgs_flag (args : List Text) :
    otherArgs (outputFlag :: args) = otherArgs (args.drop 1) := by
  cases args with
  | nil => rfl
  | cons operand args => rfl

theorem otherArgs_eq {argv : List Text} (h : outputFlag ∉ afterOutput argv) :
    otherArgs argv = (dropOutput argv).filter (· ≠ compileFlag) := by
  obtain ⟨front, args, hfront, rfl, hargs⟩ := output_cases argv
  rw [afterOutput_append hfront] at h
  rw [otherArgs_append hfront, dropOutput_append hfront, List.filter_append]
  rcases hargs with rfl | ⟨more, rfl⟩
  · rfl
  · rw [afterOutput_flag] at h
    rw [otherArgs_flag, dropOutput_flag, otherArgs_of_notMem h]

/-! ## When the result is what it should be -/

theorem withPreprocessFlag_of_count_le_one {args : List Text}
    (h : args.count compileFlag ≤ 1) :
    ∃ front back, withPreprocessFlag args = front ++ preprocessFlag :: back ∧
      front ++ back = args.filter (· ≠ compileFlag) := by
  have hkept : ∀ {l : List Text}, compileFlag ∉ l → l.filter (· ≠ compileFlag) = l := by
    intro l hl
    rw [List.filter_eq_self]
    intro arg harg
    rw [decide_eq_true_eq]
    rintro rfl
    exact hl harg
  rcases withPreprocessFlag_cases args with ⟨hnone, hwith⟩ | ⟨front, back, rfl, hfront, hwith⟩
  · exact ⟨args, [], hwith, by rw [List.append_nil, hkept hnone]⟩
  · rw [List.count_append, List.count_cons_self] at h
    have hback : compileFlag ∉ back := by
      rw [← List.count_eq_zero]
      omega
    refine ⟨front, back, hwith, ?_⟩
    rw [List.filter_append, hkept hfront, List.filter_cons_of_neg (by simp), hkept hback]

theorem compileFlag_mem_withPreprocessFlag {args : List Text} :
    compileFlag ∈ withPreprocessFlag args ↔ 2 ≤ args.count compileFlag := by
  have hne : compileFlag ≠ preprocessFlag := by decide
  rcases withPreprocessFlag_cases args with ⟨hnone, hwith⟩ | ⟨front, back, rfl, hfront, hwith⟩
  · rw [hwith, List.count_eq_zero.2 hnone]
    simp [hnone, hne]
  · rw [hwith, List.count_append, List.count_cons_self, List.count_eq_zero.2 hfront, Nat.zero_add,
      Nat.succ_le_succ_iff, List.one_le_count_iff]
    simp [hfront, hne]

theorem outputFlag_mem_withPreprocessFlag {args : List Text} :
    outputFlag ∈ withPreprocessFlag args ↔ outputFlag ∈ args := by
  have hne : outputFlag ≠ preprocessFlag := by decide
  rw [withPreprocessFlag_eq, List.mem_append, outputFlag_mem_replaceCompileFlag]
  split <;> simp [hne]

section

variable {argv result : List Text} (hargv : argv ≠ []) (hresult : ofArgv? argv = some result)
include hargv hresult

theorem outputFlag_mem_iff : outputFlag ∈ result ↔ outputFlag ∈ afterOutput argv := by
  have hne : outputFlag ≠ traceFlag := by decide
  rw [ofArgv?_eq hargv, Option.some.injEq] at hresult
  rw [← hresult, List.mem_append, List.mem_singleton, or_iff_left hne,
    ← outputFlag_mem_dropOutput]
  split
  · exact Iff.rfl
  · exact outputFlag_mem_withPreprocessFlag

theorem compileFlag_mem_iff :
    compileFlag ∈ result ↔
      (if CompileFlagIsOperand argv then 1 else 2) ≤ (dropOutput argv).count compileFlag := by
  have hne : compileFlag ≠ traceFlag := by decide
  rw [ofArgv?_eq hargv, Option.some.injEq] at hresult
  rw [← hresult, List.mem_append, List.mem_singleton, or_iff_left hne]
  split
  · exact List.one_le_count_iff.symm
  · exact compileFlag_mem_withPreprocessFlag

theorem FlagsOnce.preprocesses (h : FlagsOnce argv) : Preprocesses argv result := by
  have hcompile : compileFlag ∉ result := by
    rw [compileFlag_mem_iff hargv hresult, if_neg h.operand]
    exact Nat.not_le.2 (Nat.lt_succ_of_le h.compile)
  have houtput : outputFlag ∉ result := mt (outputFlag_mem_iff hargv hresult).1 h.output
  obtain ⟨front, back, hwith, hothers⟩ := withPreprocessFlag_of_count_le_one h.compile
  rw [ofArgv?_eq hargv, if_neg h.operand, hwith, Option.some.injEq] at hresult
  refine ⟨?_, hcompile, houtput, ?_, front, back, hresult.symm, ?_⟩
  · rw [← hresult]
    simp
  · rw [← hresult, List.getLast?_concat]
  · rw [hothers, otherArgs_eq h.output]

theorem Preprocesses.flagsOnce (h : Preprocesses argv result) : FlagsOnce argv := by
  have houtput := mt (outputFlag_mem_iff hargv hresult).2 h.output_notMem
  have hcompile := mt (compileFlag_mem_iff hargv hresult).2 h.compile_notMem
  have hoperand : ¬ CompileFlagIsOperand argv := by
    -- no preprocess flag has come in, so the result is too short
    intro hoperand
    obtain ⟨front, back, hshape, hothers⟩ := h.others
    rw [if_pos hoperand, Nat.not_le, Nat.lt_one_iff] at hcompile
    rw [ofArgv?_eq hargv, if_pos hoperand, Option.some.injEq, hshape,
      List.append_cancel_right_eq] at hresult
    have hle : (front ++ back).length = (dropOutput argv).length := by
      rw [hothers, otherArgs_eq houtput, List.length_filter_eq_length_iff]
      intro arg harg
      rw [decide_eq_true_eq]
      rintro rfl
      exact List.count_eq_zero.1 hcompile harg
    rw [hresult, List.length_append, List.length_append, List.length_cons] at hle
    omega
  refine ⟨houtput, ?_, hoperand⟩
  rw [if_neg hoperand] at hcompile
  omega

end

/-- A command line that is not empty is turned into arguments that end with the trace
flag.  An output flag is left over when there is a second one, and a compile flag when one
stands besides the one that is replaced.  The arguments preprocess what the command line
compiles exactly when it has the flags once and the compile flag is not taken for the
operand of the output flag. -/
theorem preprocesses_iff_flagsOnce {argv : List Text} (hargv : argv ≠ []) :
    ∃ result, ofArgv? argv = some result ∧ result.getLast? = some traceFlag ∧
      (outputFlag ∈ result ↔ outputFlag ∈ afterOutput argv) ∧
      (compileFlag ∈ result ↔
        (if CompileFlagIsOperand argv then 1 else 2) ≤ (dropOutput argv).count compileFlag) ∧
      (Preprocesses argv result ↔ FlagsOnce argv) := by
  have hresult := ofArgv?_eq hargv
  refine ⟨_, hresult, List.getLast?_concat, outputFlag_mem_iff hargv hresult,
    compileFlag_mem_iff hargv hresult, ?_, ?_⟩
  · exact Preprocesses.flagsOnce hargv hresult
  · exact FlagsOnce.preprocesses hargv hresult

def compileToObject : List Text :=
  ["cc", "-I.", "-c", "a.c", "-o", "a.o"].map String.toList

theorem preprocesses_iff_flagsOnce_object :
    Preprocesses compileToObject (["cc", "-I.", "-E", "a.c", "-dI"].map String.toList) := by
  have hresult : ofArgv? compileToObject =
      some (["cc", "-I.", "-E", "a.c", "-dI"].map String.toList) := by
    decide
  have honce : FlagsOnce compileToObject := ⟨by decide, by decide, by decide⟩
  have hnonempty : compileToObject ≠ [] := by decide
  obtain ⟨result, hsome, -, -, -, hiff⟩ := preprocesses_iff_flagsOnce hnonempty
  rw [hresult, Option.some.injEq] at hsome
  rw [hsome]
  exact hiff.2 honce

def outputTwice : List Text :=
  ["cc", "-c", "a.c", "-o", "a.o", "-o", "b.o"].map String.toList

def compileTwice : List Text :=
  ["cc", "-c", "-c", "a.c"].map String.toList

def compileFlagAsFile : List Text :=
  ["cc", "a.c", "-o", "-c"].map String.toList

/-- A second output flag and a second compile flag stay, and the preprocess flag gets
lost when it stands for a file name. -/
theorem repeated_flags_stay :
    (∃ result, ofArgv? outputTwice = some result ∧ outputFlag ∈ result ∧
      ¬ Preprocesses outputTwice result) ∧
    (∃ result, ofArgv? compileTwice = some result ∧ compileFlag ∈ result ∧
      ¬ Preprocesses compileTwice result) ∧
    ∃ result, ofArgv? compileFlagAsFile = some result ∧ preprocessFlag ∉ result ∧
      ¬ Preprocesses compileFlagAsFile result := by
  have houtput : outputFlag ∈ ["cc", "-E", "a.c", "-o", "b.o", "-dI"].map String.toList := by
    decide
  have hcompile : compileFlag ∈ ["cc", "-E", "-c", "a.c", "-dI"].map String.toList := by
    decide
  have hpreprocess : preprocessFlag ∉ ["cc", "a.c", "-dI"].map String.toList := by
    decide
  exact ⟨⟨_, by decide, houtput, fun h => h.output_notMem houtput⟩,
    ⟨_, by decide, hcompile, fun h => h.compile_notMem hcompile⟩,
    ⟨_, by decide, hpreprocess, fun h => hpreprocess h.preprocess_mem⟩⟩

end PreprocessArgv

end UnitReducer
