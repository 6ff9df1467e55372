import Formulary.Fault
import Formulary.FieldFault
import Formulary.Table
import Formulary.Text.Alphanumeric
import Formulary.Text.Blank
/-!
# Configurations

A configuration holds the functions and operators of a formula language. The order of the functions
matters: the first name that fits the text is taken. Every name and symbol of a configuration is
well formed, so it can be told apart from numbers, blanks and parentheses.
-/

set_option autoImplicit false
namespace Formulary

/-- What a configured function computes. -/
abbrev Function := Float → Except Fault Float

/-- A configured operator between two operands; a higher precedence binds tighter. -/
structure Operator where
  precedence : Int
  apply : Float → Float → Except Fault Float

/-- A letter and then letters, digits and low lines. -/
def isFunctionName (s : String) : Bool :=
  match s.toList with
  | [] => false
  | c :: cs => c.isAlpha && cs.all fun d => d.isAlphanum || d == '_'

/-- A single character that is no letter, numeral, blank, parenthesis or point. -/
def isOperatorSymbol (s : String) : Bool :=
  match s.toList with
  | [c] => !Text.isAlphanumeric c && !Text.isBlank c && c != '(' && c != ')' && c != '.'
  | _ => false

/-- The functions and operators of a formula language. -/
structure Config where
  functions : Table String Function
  operators : Table String Operator
  /-- Precedence of the application of a function. -/
  functionPrecedence : Int
  /-- The operator between factors that stand side by side. -/
  implicitOperator : String
  functions_valid : ∀ name ∈ functions.keys, isFunctionName name = true
  operators_valid : ∀ symbol ∈ operators.keys, isOperatorSymbol symbol = true

namespace Config

def defaultFunctionPrecedence : Int := 4
def defaultImplicitOperator : String := "*"

def isFunction (cfg : Config) (name : String) : Bool := cfg.functions.contains name
def isOperator (cfg : Config) (symbol : String) : Bool := cfg.operators.contains symbol

/-- Binding strength of a function or operator; zero for any other text. -/
def precedence (cfg : Config) (s : String) : Int :=
  if cfg.isFunction s then cfg.functionPrecedence
  else
    match cfg.operators.get? s with
    | some op => op.precedence
    | none => 0

/-- A configured operator together with the symbol that it names itself by. -/
structure OperatorEntry where
  key : String
  symbol : String
  operator : Operator

/-- What is wrong with an operator under its key, if anything. -/
def OperatorEntry.fault? (e : OperatorEntry) : Option String :=
  if !isOperatorSymbol e.key then some ("invalid operator symbol: " ++ Text.quoted e.key)
  else if e.symbol ≠ e.key then
    some ("operator " ++ Text.quoted e.symbol ++ " registered as " ++ Text.quoted e.key)
  else none

/-- The first wrong function name and the first wrong operator, if any. -/
def faults (functions : Table String Function) (operators : Table String OperatorEntry) :
    List FieldFault :=
  (functions.keys.find? fun n => !isFunctionName n).toList.map
      (fun n => .refused "functions" ("invalid function name: " ++ Text.quoted n)) ++
    (operators.values.findSome? OperatorEntry.fault?).toList.map (.refused "operators")

/-- A configuration of the given functions and operators, if all of them are well formed. Of a
repeated name the last entry counts, in the place of the first. -/
def build (functions : List (String × Function)) (operators : List OperatorEntry)
    (functionPrecedence : Int) (implicitOperator : String) : Except (List FieldFault) Config :=
  let functions := Table.ofList functions
  let entries := Table.ofList (operators.map fun e => (e.key, e))
  let operators := entries.map OperatorEntry.operator
  if h : (∀ name ∈ functions.keys, isFunctionName name = true) ∧
      (∀ symbol ∈ operators.keys, isOperatorSymbol symbol = true) ∧
      entries.values.all (·.fault?.isNone) = true then
    .ok ⟨functions, operators, functionPrecedence, implicitOperator, h.1, h.2.1⟩
  else .error (faults functions entries)

end Config
end Formulary
