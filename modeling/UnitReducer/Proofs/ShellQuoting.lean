import UnitReducer.Preprocess
/-!
# Quoted command lines

`ShellWords.quoted` writes a word so that the shell reads it as it stands, whatever its
characters are, and `ShellWords.commandLine` writes a list of words.  Splitting gives the
words back (`ShellWords.split_commandLine`), so a compile command may hold its arguments
as a list or as such a text (`CompileCommand.command_forms_agree`).
-/

namespace UnitReducer

namespace ShellWords

/-- How a character of a word is written between apostrophes.  An apostrophe closes the
quotation, stands between quotation marks, and opens the quotation again. -/
def quotedChar (c : Char) : Text :=
  if c = '\'' then "'\"'\"'".toList else [c]

def quoted (word : Text) : Text :=
  '\'' :: word.flatMap quotedChar ++ ['\'']

def commandLine (words : List Text) : Text :=
  Text.join [' '] (words.map quoted)

/-! ## Reading a quoted word -/

theorem read_single_quotedChar (word : Text) (c : Char) (rest : Text) :
    read .single (some word) (quotedChar c ++ rest) = read .single (some (word ++ [c])) rest := by
  unfold quotedChar
  split
  next h =>
    subst h
    calc
      read .single (some word) ("'\"'\"'".toList ++ rest)
        = read .bare (some word) ("\"'\"'".toList ++ rest) := rfl
      _ = read .double (some (word ++ [])) ("'\"'".toList ++ rest) := rfl
      _ = read .bare (some (word ++ [] ++ ['\''])) ("'".toList ++ rest) := rfl
      _ = read .single (some (word ++ [] ++ ['\''] ++ [])) rest := rfl
      _ = read .single (some (word ++ ['\''])) rest := by simp only [List.append_nil]
  next h =>
    rw [List.singleton_append, read, if_neg h]
    rfl

theorem read_single_flatMap (word more rest : Text) :
    read .single (some word) (more.flatMap quotedChar ++ '\'' :: rest) =
      read .bare (some (word ++ more)) rest := by
  induction more generalizing word with
  | nil =>
      rw [List.append_nil]
      rfl
  | cons c more ih =>
      rw [List.flatMap_cons, List.append_assoc, read_single_quotedChar, ih, List.append_assoc,
        List.singleton_append]

/-- A quoted word is glued to the word begun so far.  It begins one where there is none,
also when it is empty. -/
theorem read_bare_quoted (word : Option Text) (more rest : Text) :
    read .bare word (quoted more ++ rest) = read .bare (extend word more) rest := by
  have hopen : quoted more ++ rest = '\'' :: (more.flatMap quotedChar ++ '\'' :: rest) := by
    simp [quoted]
  have hbegun : read .bare word ('\'' :: (more.flatMap quotedChar ++ '\'' :: rest)) =
      read .single (some (word.getD [] ++ [])) (more.flatMap quotedChar ++ '\'' :: rest) := rfl
  rw [hopen, hbegun, read_single_flatMap, List.append_nil, extend]

theorem read_bare_blank (word : Text) {rest : Text} {words : List Text}
    (h : read .bare none rest = .ok words) :
    read .bare (some word) (' ' :: rest) = .ok (word :: words) := by
  have hblank : blank ' ' = true := rfl
  rw [read, if_pos hblank, h]
  rfl

theorem split_commandLine (words : List Text) : split (commandLine words) = .ok words := by
  unfold split commandLine
  induction words with
  | nil => rfl
  | cons word words ih =>
      cases words with
      | nil =>
          rw [List.map_singleton, Text.join, ← List.append_nil (quoted word), read_bare_quoted]
          rfl
      | cons next words =>
          have hline : Text.join [' '] ((word :: next :: words).map quoted) =
              quoted word ++ ' ' :: Text.join [' '] ((next :: words).map quoted) := by
            simp [Text.join]
          rw [hline, read_bare_quoted]
          exact read_bare_blank _ ih

end ShellWords

namespace CompileCommand

theorem runPreprocessor_congr {c d : CompileCommand} (hargv : c.argv = d.argv)
    (hdirectory : c.directory = d.directory) (hfile : c.file = d.file) (tools : Toolchain)
    (tree : FileTree) : c.runPreprocessor tools tree = d.runPreprocessor tools tree := by
  unfold runPreprocessor usableOutput
  rw [hargv, hdirectory, hfile]

/-- A command with its arguments in a list and one with the written command line have the
same arguments, are preprocessed by the same arguments, and run alike. -/
theorem command_forms_agree (directory file : Path) (arguments : List Text) :
    let listed : CompileCommand := ⟨directory, file, some arguments, none⟩
    let written : CompileCommand :=
      ⟨directory, file, none, some (ShellWords.commandLine arguments)⟩
    listed.argv = .ok arguments ∧ written.argv = .ok arguments ∧
      written.argv.map PreprocessArgv.ofArgv? = listed.argv.map PreprocessArgv.ofArgv? ∧
      ∀ tools tree, written.runPreprocessor tools tree = listed.runPreprocessor tools tree := by
  intro listed written
  have hlisted : listed.argv = .ok arguments := rfl
  have hwritten : written.argv = .ok arguments := by
    have hsplit : written.argv =
        (ShellWords.split (ShellWords.commandLine arguments)).mapError (.unsplittable file) := rfl
    rw [hsplit, ShellWords.split_commandLine]
    rfl
  have hargv : written.argv = listed.argv := hwritten.trans hlisted.symm
  refine ⟨hlisted, hwritten, by rw [hargv], ?_⟩
  intro tools tree
  exact runPreprocessor_congr hargv rfl rfl tools tree

/-- An empty argument, and one with a blank, a backslash and an apostrophe. -/
example :
    ShellWords.commandLine ["cc".toList, [], "-D# \\'".toList] =
      "'cc' '' '-D# \\'\"'\"''".toList := by
  decide

end CompileCommand

end UnitReducer
