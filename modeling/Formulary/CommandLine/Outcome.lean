import Formulary.Assignment
import Formulary.CommandLine.Help
import Formulary.Project.Scaffold
import Formulary.Session
import Formulary.Text.ControlSequence
import Formulary.Text.Upper
import Formulary.Yaml.Document
/-!
# Running commands

A run of the program leaves an exit status, what it has written to its two streams, and the file tree.
A command that fails keeps what it has written and changed before. The streams are no terminals, so
lines and messages are written without control sequences; the warnings of a session are written as
they are.
-/

set_option autoImplicit false
namespace Formulary.CommandLine

/-- A failure that the program has no message for. -/
inductive Crash where
  | load (error : LoadError)
  | settings (error : SettingsError)
  /-- The name of a variable is no sequence of characters; what comes of it is left open. -/
  | brokenVariable
  | attach (error : AttachError)
  | calculation (error : CalculationError)
  | journal (error : ReadError)
  | file (fault : FileFault)
  /-- The level of a record in a journal is no text. -/
  | levelNotText
  /-- What is to be printed of a record is no sequence of characters. -/
  | unencodable

/-- What the program takes from its libraries: the reader of settings files, and the wording of the faults
that are found in the fields of a configuration. -/
structure Libraries where
  read : DocumentReader
  faultText : List FieldFault → String

/-- A reader of plain documents, and one fault a line. -/
def Libraries.plain : Libraries where
  read := Yaml.reader
  faultText faults := "\n".intercalate (faults.map fun f => f.field ++ ": " ++ f.message)

theorem Libraries.read_plain : Libraries.plain.read = Yaml.reader := rfl

/-- How a command ends early. -/
inductive Halt where
  /-- With an error message. -/
  | failed (message : String)
  /-- Without one, because the output says what failed. -/
  | unsuccessful
  | crashed (crash : Crash)

/-- A session and what has been written to the output. -/
structure Shell (time : Type) where
  session : Session time
  output : String

/-- A part of a command. -/
abbrev Action (time : Type) (α : Type) : Type := ExceptT Halt (StateM (Shell time)) α

namespace Action
variable {time α ε : Type}

/-- Writes a line to the output. -/
def echo (line : String) : Action time Unit :=
  modify fun sh => { sh with output := sh.output ++ Text.withoutControlSequences line ++ "\n" }

/-- Ends a command with what an error leads to. -/
def orHalt (halt : ε → Halt) (x : Except ε α) : Action time α := .mk (pure (x.mapError halt))

/-- A step of the session that may fail. -/
def ofSession (halt : ε → Halt) (f : Session time → Except ε α × Session time) : Action time α :=
  .mk fun sh =>
    let (x, session) := f sh.session
    (x.mapError halt, { sh with session })

end Action

/-- Settings with a wrong value have a message; what lies behind the settings has none. -/
def loadHalt (lib : Libraries) : LoadError → Halt
  | .config e => .failed (e.message lib.faultText)
  | e => .crashed (.load e)

def settingsHalt (lib : Libraries) : SettingsError → Halt
  | .config e => .failed (e.message lib.faultText)
  | e => .crashed (.settings e)

def scaffoldHalt : Project.ScaffoldError → Halt
  | .file f =>
    if f.error = .alreadyExists then .failed f.message else .crashed (.file f)
  | e => .failed e.message

section
variable {time : Type} [Clock time]

/-- The event of a configuration that has been loaded. -/
def loadedEvent (stamp : String) (s : Settings) (cfg : Config) : Event :=
  .info stamp .configLoaded
    ("Loaded configuration (preset " ++ (s.field "preset").plain ++ ")")
    (Table.ofList
      [("functions", .list (cfg.functions.keys.map .text)),
       ("operators", .list (cfg.operators.keys.map .text))])

/-- The configuration and the bindings of a project. Its journal is attached, and the loading is
recorded. Without a project it is the standard configuration and no bindings. -/
def loadProject (lib : Libraries) : Option Path → Action time (Config × Bindings)
  | none => pure (.standard, .empty)
  | some dir => do
    let files := (← get).session.files
    let settings ← Action.orHalt (loadHalt lib) (Project.loadSettings lib.read files dir)
    let cfg ← Action.orHalt (settingsHalt lib) (settings.config .elementary)
    let vs ← Action.orHalt (settingsHalt lib) settings.boundVariables
    unless vs.broken.entries.isEmpty do throw (.crashed .brokenVariable)
    Action.ofSession (.crashed ∘ .attach) (·.attach lib.read dir)
    modify fun sh =>
      { sh with session := sh.session.emit (loadedEvent sh.session.stamp settings cfg) }
    pure (cfg, vs.bindings)

/-- The value of a calculation as JSON; numbers that JSON lacks become texts. -/
def valueDatum : Option Float → Datum
  | none => .null
  | some x => if Binary64.isFinite x then .float x else .text (showValue (some x))

/-- A calculation as data. -/
def calculationDatum (formula : String) (c : Calculation) : Datum :=
  .ofFields
    [("formula", .text formula), ("value", valueDatum c.value?),
     ("error", (c.failure?.map fun f => Datum.text f.message).getD .null),
     ("error_code", (c.failure?.map fun f => Datum.text f.code).getD .null),
     ("markup", .text c.markup), ("variables", .list (c.variableNames.map .text)),
     ("ok", .bool c.succeeded)]

def tokenDatum (t : Token) : Datum :=
  .ofFields [("kind", .text t.kind.name), ("text", .text t.text)]

/-- The fields of a record that are printed. -/
def printedFields : List String := ["ts", "level", "event_type", "message", "error_code"]

/-- A record of a journal on one line, if its level is a text or missing and none of its printed fields is a
text that is no sequence of characters. -/
def recordLine (r : Record) : Except Crash String :=
  let shown (name : String) := ((Datum.field? name r).map Datum.plain).getD ""
  let withLevel (level : String) : Except Crash String :=
    if printedFields.any fun name => (Datum.field? name r).any Datum.isBroken then .error .unencodable
    else
      let code := (Datum.field? "error_code" r).getD .null
      .ok ("[" ++ shown "ts" ++ "] " ++ Help.padRight 7 (Text.upper level) ++ " " ++
        shown "event_type" ++ ": " ++ shown "message" ++
        (if code.truthy then "  (" ++ code.plain ++ ")" else ""))
  match Datum.field? "level" r with
  | none => withLevel ""
  | some (.text level) => withLevel level
  | some (.broken _) => .error .unencodable
  | some _ => .error .levelNotText

def echoRecord (r : Record) : Action time Unit := do
  Action.echo (← Action.orHalt .crashed (recordLine r))

/-- Does what a command says. -/
def Command.execute (lib : Libraries) : Command → Action time Unit
  | .eval formula assignments project json => do
    let (cfg, bindings) ← loadProject lib project
    let bindings ← Action.orHalt (.failed ∘ AssignmentError.message) (bindings.assign assignments)
    let c ← Action.ofSession (.crashed ∘ .calculation) (·.calculate cfg (.text formula) bindings)
    if json then
      Action.echo (Json.indented 0 (calculationDatum formula c))
      unless c.succeeded do throw .unsuccessful
    else
      match c.failure? with
      | some f => throw (.failed (f.message ++ " (" ++ f.code ++ ")"))
      | none => Action.echo (showValue c.value?)
  | .tokens formula project json => do
    let (cfg, _) ← loadProject lib project
    let tokens := Token.scan cfg formula
    if json then Action.echo (Json.indented 0 (.list (tokens.map tokenDatum)))
    else tokens.forM fun t => Action.echo (Help.padRight 10 t.kind.name ++ " " ++ t.text)
  | .vars formula project => do
    let (cfg, _) ← loadProject lib project
    match cfg.variableNames formula with
    | [] => Action.echo "No variables."
    | names => names.forM Action.echo
  | .markup formula display clean project => do
    let (cfg, _) ← loadProject lib project
    let markup := if display then Markup.display cfg formula else Markup.ofFormula cfg formula
    Action.echo (if clean then Markup.clean markup else markup)
  | .functions project => do
    let (cfg, _) ← loadProject lib project
    Action.echo ("Functions: " ++ ", ".intercalate cfg.functions.keys)
    Action.echo "Operators:"
    cfg.operators.entries.forM fun (symbol, op) =>
      Action.echo ("  " ++ symbol ++ "  precedence " ++ toString op.precedence)
  | .init dir => do
    Action.ofSession scaffoldHalt fun s =>
      let (files, x) := Project.scaffold s.files dir
      (x, { s with files })
    Action.echo ("Created project at " ++ dir.toText)
  | .events dir filter => do
    let j ← Action.ofSession (.crashed ∘ .file) fun s =>
      let (files, x) := Journal.openAt s.files dir false none
      (x, { s with files })
    match ← Action.orHalt (.crashed ∘ .journal) (j.read (← get).session.files filter) with
    | [] => Action.echo "No events found."
    | rs => rs.forM echoRecord

end

/-- What a run of the program leaves. -/
structure Outcome where
  status : Nat
  output : String
  errors : String
  crash : Option Crash
  files : FileTree

namespace Outcome

/-- The run of a command, with an error stream that takes the message of a failure. -/
def ofCommand {time : Type} [Clock time] (lib : Libraries) (c : Command) (s : Session time) : Outcome :=
  let (x, sh) := c.execute lib ⟨s, ""⟩
  let leave (status : Nat) (errors : String) (crash : Option Crash) : Outcome :=
    ⟨status, sh.output, sh.session.errors ++ errors, crash, sh.session.files⟩
  match x with
  | .ok () => leave 0 "" none
  | .error (.failed message) =>
    leave 1 (Text.withoutControlSequences ("Error: " ++ message ++ "\n")) none
  | .error .unsuccessful => leave 1 "" none
  | .error (.crashed crash) => leave 1 "" (some crash)

end Outcome

/-- A run of the program with the given arguments. -/
def run {time : Type} [Clock time] (lib : Libraries) (args : List String) (s : Session time) : Outcome :=
  let leave (status : Nat) (output errors : String) : Outcome :=
    ⟨status, Text.withoutControlSequences output, Text.withoutControlSequences errors, none, s.files⟩
  match Request.ofList s.files args with
  | .run c => .ofCommand lib c s
  | .showVersion => leave 0 (programName ++ ", version " ++ version ++ "\n") ""
  | .showHelp page => leave 0 (Help.text page) ""
  | .nothing => leave 2 "" (Help.text none)
  | .refused page e => leave 2 "" (Help.refusal page e)

end Formulary.CommandLine
