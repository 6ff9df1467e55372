import Formulary.Catalog.Elementary
import Formulary.Datum.Shown
/-!
# Catalogs and presets

A catalog is the supply of functions and operators from which configurations are built. Registering a
name again replaces its entry. A preset names the functions and operators of a usual configuration.
-/

set_option autoImplicit false
namespace Formulary

/-- Why there is no configuration. -/
inductive ConfigError where
  | unknownPreset (preset : Datum)
  | unknownFunction (name : String)
  | unknownOperator (symbol : String)
  /-- In place of the name of a function or operator stands a text that is no sequence of characters. -/
  | unknownBroken (what : String) (name : BrokenText)
  | invalid (faults : List FieldFault)
  /-- The settings file is no well-formed document, for the reason that its reader gives. -/
  | unreadable (path reason : String)
  /-- The settings file holds something else than a map. -/
  | notMap (path : String)
  | functionsNotList
  | operatorsNotList
  | variablesNotMap
  | variableNotNumber (name value : Datum)

/-- Why a single look-up in a catalog fails. -/
inductive LookupError where
  | function (name : String)
  | operator (symbol : String)
  deriving DecidableEq, Repr

def LookupError.message : LookupError → String
  | function name => "Unknown function: " ++ Text.quoted name
  | operator symbol => "Unknown operator: " ++ Text.quoted symbol

/-- The supply of functions and operators, in the order of registration. -/
structure Catalog where
  functions : Table String Function
  operators : Table String Operator

/-- A usual choice of functions and operators. -/
structure Preset where
  name : String
  functions : List String
  operators : List String

namespace Preset

def standard : Preset where
  name := "standard"
  functions := ["sin", "cos", "tan", "log10", "log", "exp", "sqrt", "abs", "asin", "acos", "atan"]
  operators := ["+", "-", "*", "/", "^"]

/-- Longer names come before the names that begin them. -/
def extended : Preset where
  name := "extended"
  functions := ["sinh", "cosh", "tanh", "asinh", "acosh", "atanh"] ++ standard.functions ++
    ["cot", "sec", "csc"]
  operators := standard.operators ++ ["%"]

/-- All presets, in the order of their names. -/
def all : List Preset := [extended, standard]

def find? (name : String) : Option Preset := all.find? (·.name == name)

end Preset

namespace Catalog

/-- The catalog of the elementary functions and operators. -/
def elementary : Catalog where
  functions := Table.ofList (Elementary.functions.map fun f => (f.1, fun x => .ok (f.2 x)))
  operators := Table.ofList Elementary.operators

def registerFunction (c : Catalog) (name : String) (f : Function) : Catalog :=
  { c with functions := c.functions.insert name f }

def registerOperator (c : Catalog) (symbol : String) (op : Operator) : Catalog :=
  { c with operators := c.operators.insert symbol op }

def function (c : Catalog) (name : String) : Except LookupError Function :=
  match c.functions.get? name with
  | some f => .ok f
  | none => .error (.function name)

def operator (c : Catalog) (symbol : String) : Except LookupError Operator :=
  match c.operators.get? symbol with
  | some op => .ok op
  | none => .error (.operator symbol)

/-- The functions under the given names, or the first name that is not registered. -/
def selectFunctions (c : Catalog) : List String → Except ConfigError (List (String × Function))
  | [] => .ok []
  | name :: names =>
    match c.functions.get? name with
    | some f => (c.selectFunctions names).map ((name, f) :: ·)
    | none => .error (.unknownFunction name)

/-- The operators under the given symbols, or the first symbol that is not registered. -/
def selectOperators (c : Catalog) : List String → Except ConfigError (List Config.OperatorEntry)
  | [] => .ok []
  | symbol :: symbols =>
    match c.operators.get? symbol with
    | some op => (c.selectOperators symbols).map (⟨symbol, symbol, op⟩ :: ·)
    | none => .error (.unknownOperator symbol)

/-- The configuration of the given names and symbols, in their order. -/
def configure (c : Catalog) (functions operators : List String) : Except ConfigError Config := do
  let functions ← c.selectFunctions functions
  let operators ← c.selectOperators operators
  (Config.build functions operators Config.defaultFunctionPrecedence
    Config.defaultImplicitOperator).mapError .invalid

/-- The configuration of a preset that is given by its name. -/
def configurePreset (c : Catalog) (name : String) : Except ConfigError Config :=
  match Preset.find? name with
  | some p => c.configure p.functions p.operators
  | none => .error (.unknownPreset (.text name))

end Catalog

namespace ConfigError

/-- The stable name of all these errors. -/
def code : String := "invalid_config"

/-- The wording of an error. The faults of a configuration are worded by the library that checks its
fields. -/
def message (faultText : List FieldFault → String) : ConfigError → String
  | unknownPreset preset =>
    "Unknown preset: " ++ preset.shown ++ ". Available: " ++
      Datum.shownTexts (Preset.all.map Preset.name)
  | unknownFunction name => "Unknown function in config: " ++ Text.quoted name
  | unknownOperator symbol => "Unknown operator in config: " ++ Text.quoted symbol
  | unknownBroken what name => "Unknown " ++ what ++ " in config: " ++ (Datum.broken name).shown
  | invalid faults => faultText faults
  | unreadable path reason => "Invalid YAML in " ++ path ++ ": " ++ reason
  | notMap path => path ++ " must contain a mapping"
  | functionsNotList => "'functions' must be a list of names"
  | operatorsNotList => "'operators' must be a list of symbols"
  | variablesNotMap => "'variables' must be a mapping of name to number"
  | variableNotNumber name value =>
    "Variable " ++ name.shown ++ " must be a number, got " ++ value.shown

end ConfigError

/-- The configuration of the standard preset from the elementary catalog. -/
def Config.standard : Config :=
  (Catalog.elementary.configurePreset "standard").toOption.get (by decide +kernel)

end Formulary
