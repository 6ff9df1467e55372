import Formulary.CommandLine.Options
import Formulary.Journal
/-!
# Commands

What a list of arguments asks the program for: one of its commands, its version, a page of help, or
nothing that it knows.
-/

set_option autoImplicit false
namespace Formulary.CommandLine

def programName : String := "formulacalc"
def version : String := "0.1.0"

/-- A command and what it works on. A project is a directory with settings and a journal. -/
inductive Command where
  | eval (formula : String) (assignments : List String) (project : Option Path) (json : Bool)
  | events (project : Path) (filter : Filter)
  | functions (project : Option Path)
  | init (project : Path)
  | markup (formula : String) (display clean : Bool) (project : Option Path)
  | tokens (formula : String) (project : Option Path) (json : Bool)
  | vars (formula : String) (project : Option Path)

/-- The names of the commands. -/
inductive Verb where
  | eval
  | events
  | functions
  | init
  | markup
  | tokens
  | vars
  deriving DecidableEq, Repr

namespace Verb

/-- All verbs, in the order of their names. -/
def all : List Verb := [eval, events, functions, init, markup, tokens, vars]

def name : Verb → String
  | eval => "eval"
  | events => "events"
  | functions => "functions"
  | init => "init"
  | markup => "markup"
  | tokens => "tokens"
  | vars => "vars"

def summary : Verb → String
  | eval => "Evaluate FORMULA with the given variable bindings."
  | events => "Show structured event log for DIRECTORY."
  | functions => "List configured functions (in match order) and operators."
  | init => "Scaffold a project with a default formulacalc.yaml at DIRECTORY."
  | markup => "Render FORMULA as display markup."
  | tokens => "Show the token sequence of FORMULA."
  | vars => "List the variables FORMULA needs bindings for."

def ofName? (s : String) : Option Verb := all.find? (·.name == s)

def operand : Verb → Option OperandRule
  | eval | markup | tokens | vars => some ⟨"FORMULA", .text⟩
  | events => some ⟨"DIRECTORY", .existingPath⟩
  | init => some ⟨"DIRECTORY", .path⟩
  | functions => none

end Verb

def helpName : String := "--help"
def versionName : String := "--version"

def helpOption : OptionRule := ⟨helpName, none, "Show this message and exit."⟩
def versionOption : OptionRule := ⟨versionName, none, "Show the version and exit."⟩

/-- The options of the program itself. -/
def programOptions : List OptionRule := [versionOption, helpOption]

def projectOption : OptionRule :=
  ⟨"--project-dir", some .directory, "Project directory holding formulacalc.yaml."⟩

def jsonOption : OptionRule := ⟨"--json", none, "Output as JSON."⟩

namespace Verb

/-- The options of a command, in the order of its help page. -/
def options (v : Verb) : List OptionRule :=
  (match v with
    | eval => [⟨"--var", some .text, "Bind a variable as name=value."⟩, projectOption, jsonOption]
    | events =>
      [⟨"--level", some (.choice (Level.all.map Level.name)), "Filter by level."⟩,
       ⟨"--type", some .text, "Filter by event type."⟩,
       ⟨"--code", some .text, "Filter by error code."⟩,
       ⟨"--formula", some .text, "Only events about this exact formula."⟩,
       ⟨"--limit", some .integer, "Maximum events to show."⟩]
    | functions => [projectOption]
    | init => []
    | markup =>
      [⟨"--display", none, "Drop '*' after letters and digits."⟩,
       ⟨"--clean", none, "Strip backslashes (plain-text copy)."⟩, projectOption]
    | tokens => [projectOption, jsonOption]
    | vars => [projectOption]) ++ [helpOption]

/-- How many events are shown, unless the arguments say otherwise. -/
def defaultLimit : Int := 100

/-- The command that a verb and its arguments describe. -/
def command (v : Verb) (a : Arguments) : Command :=
  let operand := a.operands.headD ""
  let project := (a.value? projectOption.name).map Path.ofText
  let json := a.has jsonOption.name
  let wanted (name : String) := (a.value? name).map Datum.text
  match v with
  | eval => .eval operand (a.values "--var") project json
  | events =>
    .events (Path.ofText operand)
      { level := wanted "--level"
        kind := wanted "--type"
        errorCode := wanted "--code"
        formula := wanted "--formula"
        limit := ((a.value? "--limit").bind Numeral.readInt?).getD defaultLimit }
  | functions => .functions project
  | init => .init (Path.ofText operand)
  | markup => .markup operand (a.has "--display") (a.has "--clean") project
  | tokens => .tokens operand project json
  | vars => .vars operand project

end Verb

/-- What a list of arguments asks for. A page of help is about a command or the whole program. -/
inductive Request where
  | run (command : Command)
  | showVersion
  | showHelp (page : Option Verb)
  /-- There are no arguments at all. -/
  | nothing
  | refused (page : Option Verb) (error : UsageError)

namespace Request

/-- Reads the arguments of a command. A call for help comes before every check of a value. -/
def ofArguments (t : FileTree) (v : Verb) (args : List String) : Request :=
  match Arguments.ofList v.options true args with
  | .error e => .refused v e
  | .ok a =>
    if a.has helpName then .showHelp v
    else
      match (a.optionFault t).or (a.operandFault t v.operand) with
      | some e => .refused v e
      | none => .run (v.command a)

/-- What the options of the program itself ask for. -/
def ofProgramOptions (a : Arguments) : Option Request :=
  (a.first? [versionName, helpName]).map fun name =>
    if name = versionName then .showVersion else .showHelp none

/-- Whether a text that is no command counts as an option, because it begins with a mark. -/
def isMarked (s : String) : Bool :=
  match s.toList with
  | [] => false
  | c :: _ => !Text.isAlphanumeric c

/-- What a text in place of a command leads to: an option there is treated as an option. -/
def ofUnknown (name : String) (rest : List String) : Request :=
  let refusal := refused none (.noSuchCommand name (Text.closeNames name (Verb.all.map Verb.name)))
  if isMarked name then
    match Arguments.ofList programOptions false (name :: rest) with
    | .error e => .refused none e
    | .ok a => (ofProgramOptions a).getD refusal
  else refusal

/-- Reads the arguments of the program. -/
def ofList (t : FileTree) (args : List String) : Request :=
  if args.isEmpty then .nothing
  else
    match Arguments.ofList programOptions false args with
    | .error e => .refused none e
    | .ok a =>
      match ofProgramOptions a, a.operands with
      | some r, _ => r
      | none, [] => .refused none .commandMissing
      | none, name :: rest =>
        match Verb.ofName? name with
        | some v => ofArguments t v rest
        | none => ofUnknown name rest

end Request
end Formulary.CommandLine
