import UnitReducer.Path.Kind
import UnitReducer.ShellWords
/-!
# Compile commands

How one file of a build is compiled, and the command that preprocesses it instead.
-/

namespace UnitReducer

/-- One entry of a compilation database.  The command line is given as a list of arguments or as a
text for the shell. -/
structure CompileCommand where
  directory : Path
  file : Path
  arguments : Option (List Text)
  command : Option Text
deriving DecidableEq, Repr

/-- Reasons why an entry yields no command line. -/
inductive CommandError where
  | unsplittable (file : Path) (cause : ShellError)
  | noCommand (file : Path)
deriving DecidableEq, Repr

def CommandError.message : CommandError → String
  | .unsplittable file cause => s!"Cannot split command for {file}: {cause.message}"
  | .noCommand file => s!"Entry for {file} has neither 'arguments' nor 'command'"

namespace CompileCommand

/-- The file, seen from the directory when it is relative. -/
def sourcePath (c : CompileCommand) : Path :=
  c.directory.join c.file

/-- The compiler and its arguments; a list of arguments goes before a text. -/
def argv (c : CompileCommand) : Except CommandError (List Text) :=
  match c.arguments, c.command with
  | some arguments, _ => .ok arguments
  | none, some command => (ShellWords.split command).mapError (.unsplittable c.file)
  | none, none => .error (.noCommand c.file)

end CompileCommand

namespace PreprocessArgv

def compileFlag : Text := "-c".toList

def outputFlag : Text := "-o".toList

def preprocessFlag : Text := "-E".toList

/-- The flag that echoes include directives into the output. -/
def traceFlag : Text := "-dI".toList

/-- Turns the first `-c` into `-E`. -/
def replaceCompileFlag : List Text → List Text
  | [] => []
  | arg :: args =>
    if arg = compileFlag then preprocessFlag :: args else arg :: replaceCompileFlag args

/-- Drops the first `-o` and its operand. -/
def dropOutput : List Text → List Text
  | [] => []
  | arg :: args => if arg = outputFlag then args.drop 1 else arg :: dropOutput args

/-- The arguments that preprocess what `argv` compiles, with include directives echoed.  An empty
command line has none. -/
def ofArgv? (argv : List Text) : Option (List Text) :=
  if argv = [] then none
  else
    some (dropOutput (replaceCompileFlag argv) ++
      (if compileFlag ∈ argv then [] else [preprocessFlag]) ++ [traceFlag])

end PreprocessArgv

end UnitReducer
