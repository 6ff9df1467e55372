import Formulary.CommandLine.Command
/-!
# Help

The usage line of a command, its page of help, and the text that goes with refused arguments.
-/

set_option autoImplicit false
namespace Formulary.CommandLine.Help

/-- The program's name and that of the command, if there is one. -/
def title : Option Verb → String
  | none => programName
  | some v => programName ++ " " ++ v.name

/-- How the program or one of its commands is called. -/
def usage (page : Option Verb) : String :=
  "Usage: " ++ title page ++ " [OPTIONS]" ++
    (match page with
      | none => " COMMAND [ARGS]..."
      | some v => (v.operand.map fun o => " " ++ o.name).getD "") ++ "\n"

/-- How a page of help shows the value of an option. -/
def valueName : ValueKind → String
  | .text => "TEXT"
  | .path | .existingPath => "PATH"
  | .directory => "DIRECTORY"
  | .choice names => "[" ++ "|".intercalate names ++ "]"
  | .integer => "INTEGER"

/-- A text with spaces behind it up to a width. -/
def padRight (width : Nat) (s : String) : String :=
  s ++ String.ofList (List.replicate (width - s.length) ' ')

/-- Rows of two columns under a heading. -/
def rows (heading : String) (rs : List (String × String)) : String :=
  let width := (rs.map fun r => r.1.length).foldl max 0
  "\n" ++ heading ++ ":\n" ++
    String.join (rs.map fun r => "  " ++ padRight width r.1 ++ "  " ++ r.2 ++ "\n")

def optionRow (o : OptionRule) : String × String :=
  (o.name ++ (o.value.map fun k => " " ++ valueName k).getD "", o.summary)

/-- What the program does. -/
def introduction : String :=
  "\n  formulacalc -- evaluate and render free-form formulas.\n" ++
  "\n  Variables are single letters; adjacent letters and digits multiply (``2ab`` is\n" ++
  "  ``2 * a * b``).\n"

/-- The page of help about the program or one of its commands. -/
def text : Option Verb → String
  | none =>
    usage none ++ introduction ++ rows "Options" (programOptions.map optionRow) ++
      rows "Commands" (Verb.all.map fun v => (v.name, v.summary))
  | some v =>
    usage v ++ "\n  " ++ v.summary ++ "\n" ++ rows "Options" (v.options.map optionRow)

/-- What is written about refused arguments. -/
def refusal (page : Option Verb) (e : UsageError) : String :=
  (if e.showsUsage then
    usage page ++ "Try '" ++ title page ++ " " ++ helpName ++ "' for help.\n\n"
   else "") ++ "Error: " ++ e.message ++ "\n"

end Formulary.CommandLine.Help
