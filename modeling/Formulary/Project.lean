import Formulary.Calculation
import Formulary.Catalog
import Formulary.DocumentReader
import Formulary.FileTree
/-!
# Project directories

A project directory holds an optional settings file, which chooses functions and operators, binds
variables and sets options of the journal. Its settings are merged over the default ones.
-/

set_option autoImplicit false
namespace Formulary

/-- Settings of a project: values under keys. -/
abbrev Settings := List (Datum × Datum)

/-- Why settings cannot be loaded. -/
inductive LoadError where
  | config (error : ConfigError)
  | file (fault : FileFault)
  /-- The reader of the file ends with the error of this name. -/
  | raised (name : String)

/-- Why settings give no configuration or no bindings. -/
inductive SettingsError where
  | config (error : ConfigError)
  /-- In place of the name of a preset stands a value that can be no key. -/
  | presetNotKey
  /-- The value of a variable lies beyond the range of numbers. -/
  | variableTooLarge
  /-- An integer has too many digits to be written in a name or a message. -/
  | unshowable

namespace Project

def settingsFile : String := "formulacalc.yaml"
def journalDirectory : String := "logs"

def settingsPath (dir : Path) : Path := dir ++ [settingsFile]

/-- Size of the part of a journal that is read, unless the settings say otherwise: two MiB. -/
def defaultTailBytes : Int := 2097152

/-- What holds for a project without a settings file. -/
def defaultSettings : Settings :=
  [(.text "preset", .text "standard"), (.text "functions", .null), (.text "operators", .null),
   (.text "variables", .map []), (.text "logging_enabled", .bool true),
   (.text "logging_fsync", .bool false), (.text "logging_tail_bytes", .int defaultTailBytes)]

/-- The settings of a file's text, merged over the default ones. A file with nothing in it changes
nothing. -/
def readSettings (read : DocumentReader) (path : Path) (text : String) : Except LoadError Settings :=
  match read text with
  | .error (.malformed reason) => .error (.config (.unreadable path.toText reason))
  | .error (.raised name) => .error (.raised name)
  | .ok d =>
    if !d.truthy then .ok defaultSettings
    else
      match d with
      | .map entries => .ok (Datum.enterAll entries defaultSettings)
      | _ => .error (.config (.notMap path.toText))

/-- The settings of a project directory. -/
def loadSettings (read : DocumentReader) (t : FileTree) (dir : Path) : Except LoadError Settings :=
  let path := settingsPath dir
  match t.pathExists path with
  | .error f => .error (.file f)
  | .ok false => .ok defaultSettings
  | .ok true => do
    let text ← (t.read path).mapError .file
    readSettings read path text

end Project

/-- The variables of a project. Those whose names are no sequences of characters stand by themselves: no
formula has them. -/
structure Variables where
  bindings : Bindings
  broken : Table BrokenText Float

namespace Variables

def empty : Variables := ⟨.empty, .empty⟩

def insert (vs : Variables) (name : Datum) (x : Float) : Variables :=
  match name with
  | .broken t => { vs with broken := vs.broken.insert t x }
  | d => { vs with bindings := vs.bindings.insert d.plain (.float x) }

end Variables

namespace Settings

def field? (s : Settings) (name : String) : Option Datum := Datum.field? name s

/-- A setting; one that is missing is null. -/
def field (s : Settings) (name : String) : Datum := (s.field? name).getD .null

/-- The preset that the settings name. -/
def preset (s : Settings) : Except SettingsError Preset :=
  let d := s.field "preset"
  let unknown : Except SettingsError Preset :=
    if d.isShowable then .error (.config (.unknownPreset d)) else .error .unshowable
  if !d.truthy then .ok .standard
  else if !d.isKey then .error .presetNotKey
  else
    match d with
    | .text name => ((Preset.find? name).map .ok).getD unknown
    | _ => unknown

/-- The items of a list in the settings, if there is a list. -/
def items? (d : Datum) (error : ConfigError) : Except SettingsError (Option (List Datum)) :=
  match d with
  | .null => .ok none
  | .list items => .ok (some items)
  | _ => .error (.config error)

/-- The texts of items up to the first one that is no sequence of characters, and that one. -/
def texts : List Datum → List String × Option BrokenText
  | [] => ([], none)
  | .broken t :: _ => ([], some t)
  | d :: ds => (d.plain :: (texts ds).1, (texts ds).2)

/-- The texts of items, or the default ones if there is no list. -/
def names (items : Option (List Datum)) (default : List String) :
    Except SettingsError (List String × Option BrokenText) :=
  match items with
  | none => .ok (default, none)
  | some items => if items.all Datum.isShowable then .ok (texts items) else .error .unshowable

/-- The configuration of names. What is no sequence of characters is the name of nothing. -/
def configureNames (c : Catalog) (functions operators : List String × Option BrokenText) :
    Except ConfigError Config :=
  match functions.2, operators.2 with
  | none, none => c.configure functions.1 operators.1
  | some t, _ => do
    let _ ← c.selectFunctions functions.1
    .error (.unknownBroken "function" t)
  | none, some t => do
    let _ ← c.selectFunctions functions.1
    let _ ← c.selectOperators operators.1
    .error (.unknownBroken "operator" t)

/-- The configuration that the settings describe. -/
def config (s : Settings) (c : Catalog) : Except SettingsError Config := do
  let p ← s.preset
  let functions ← items? (s.field "functions") .functionsNotList
  let operators ← items? (s.field "operators") .operatorsNotList
  let functions ← names functions p.functions
  let operators ← names operators p.operators
  (configureNames c functions operators).mapError .config

/-- Binds the variables of the settings one after the other. -/
def bindVariables (vs : Variables) : List (Datum × Datum) → Except SettingsError Variables
  | [] => .ok vs
  | (name, value) :: rest =>
    match value.toFloat with
    | .ok x => if name.isShowable then bindVariables (vs.insert name x) rest else .error .unshowable
    | .error .tooLarge => .error .variableTooLarge
    | .error _ =>
      if name.isShowable && value.isShowable then
        .error (.config (.variableNotNumber name value))
      else .error .unshowable

/-- The variables that the settings bind. -/
def boundVariables (s : Settings) : Except SettingsError Variables :=
  let d := s.field "variables"
  if !d.truthy then .ok .empty
  else
    match d with
    | .map entries => bindVariables .empty entries
    | _ => .error (.config .variablesNotMap)

/-- Whether events are recorded. -/
def recordsEvents (s : Settings) : Bool := ((s.field? "logging_enabled").getD (.bool true)).truthy

end Settings
end Formulary
