import Formulary.Project
/-!
# New projects

A new project directory gets a settings file that says what the defaults are, and a directory for
its journal. A directory that has a settings file is left as it is.
-/

set_option autoImplicit false
namespace Formulary.Project

/-- Why no project is made. -/
inductive ScaffoldError where
  | settingsExist (dir : Path)
  | file (fault : FileFault)
  deriving DecidableEq, Repr

def ScaffoldError.message : ScaffoldError → String
  | settingsExist dir => settingsFile ++ " already exists in " ++ dir.toText
  | file f => f.message

/-- The settings file of a new project. -/
def settingsText : String :=
  "# formulacalc project configuration\n" ++
  "#\n" ++
  "# preset: standard = sin cos tan log10 log exp sqrt abs asin acos atan, + - * / ^\n" ++
  "#         extended = standard + sinh cosh tanh asinh acosh atanh cot sec csc, and %\n" ++
  "preset: standard\n" ++
  "\n" ++
  "# Function names are tried in order; list longer names before their prefixes.\n" ++
  "# functions: [log10, log, sqrt]\n" ++
  "# operators: [\"+\", \"-\", \"*\", \"/\", \"^\"]\n" ++
  "\n" ++
  "# Default variable bindings (single letters), overridable on the command line.\n" ++
  "variables: \x7b\x7d\n" ++
  "\n" ++
  "logging_enabled: true\n" ++
  "logging_fsync: false\n"

/-- Makes a project. When a step fails, the tree is the one that the steps before it have made. -/
def scaffold (t : FileTree) (dir : Path) : FileTree × Except ScaffoldError Unit :=
  match t.pathExists (settingsPath dir) with
  | .error f => (t, .error (.file f))
  | .ok true => (t, .error (.settingsExist dir))
  | .ok false =>
    match t.makeDirectories dir with
    | (t, .error f) => (t, .error (.file f))
    | (t, .ok ()) =>
      match t.write (settingsPath dir) settingsText with
      | .error f => (t, .error (.file f))
      | .ok t =>
        let (t, x) := t.ensureDirectory (dir ++ [journalDirectory])
        (t, x.mapError .file)

end Formulary.Project
