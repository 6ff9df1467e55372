import Formulary.Decimal.Shortest
import Formulary.Evaluation
import Formulary.Markup
/-!
# Calculations

A calculation first checks that every variable of the formula is bound and then evaluates it. Errors
of the formula become part of the calculation; a binding that is no number ends it.
-/

set_option autoImplicit false
namespace Formulary

/-- Values of variables by name. -/
abbrev Bindings := Table String Datum

namespace Environment

def ofBindings (b : Bindings) : Environment :=
  fun name => (b.get? name).map fun d => d.toFloat.mapError .number

/-- The environment of someone who has no bindings at all: no name can be looked up. -/
def absent : Environment := fun _ => some (.error .noBindings)

end Environment

/-- Why a calculation has no value. -/
inductive Failure where
  /-- Variables without a binding, in the order of the formula. -/
  | unbound (names : List String)
  | evaluation (error : EvalError)
  deriving DecidableEq, Repr

namespace Failure

def code : Failure → String
  | unbound _ => "unbound_variables"
  | evaluation e => e.code

def message : Failure → String
  | unbound names => "Please define all variables: " ++ ", ".intercalate names
  | evaluation e => e.message

end Failure

/-- What came of a formula: a value, no value because the formula has none, or a failure. -/
structure Calculation where
  outcome : Except Failure (Option Float)
  markup : String
  variableNames : List String

namespace Calculation

def value? (c : Calculation) : Option Float := c.outcome.toOption.join

def failure? (c : Calculation) : Option Failure :=
  match c.outcome with
  | .error f => some f
  | .ok _ => none

def succeeded (c : Calculation) : Bool := c.failure?.isNone

end Calculation

/-- The variables of a formula, or those of them that are not bound. -/
def Config.checkBindings (cfg : Config) (isBound : String → Bool) (formula : String) :
    Except (List String) (List String) :=
  let names := cfg.variableNames formula
  let unbound := names.filter fun name => !isBound name
  if unbound.isEmpty then .ok names else .error unbound

/-- Checks the variables of a formula and evaluates it. -/
def Config.outcome (cfg : Config) (formula : String) (b : Bindings) :
    Except OperandError (Except Failure (Option Float)) :=
  match cfg.checkBindings b.contains formula with
  | .error names => .ok (.error (.unbound names))
  | .ok _ =>
    match evaluate cfg (.ofBindings b) (Token.scan cfg formula) with
    | .ok value => .ok (.ok value)
    | .error (.formula e) => .ok (.error (.evaluation e))
    | .error (.operand e) => .error e

/-- Runs the whole calculation of a formula. -/
def Config.calculate (cfg : Config) (formula : String) (b : Bindings) :
    Except OperandError Calculation :=
  (cfg.outcome formula b).map fun outcome =>
    { outcome
      markup := Markup.display cfg formula
      variableNames := cfg.variableNames formula }

/-- Why a value is no formula text. -/
inductive FormulaError where
  | notText
  | list
  | map
  /-- A text that is no sequence of characters; what comes of it is left open. -/
  | broken
  deriving DecidableEq, Repr

/-- The text of a formula that is given as data; a value that counts as not given is the empty
text. -/
def Datum.formulaText : Datum → Except FormulaError String
  | .text s => .ok s
  | d =>
    if !d.truthy then .ok ""
    else
      match d with
      | .list _ | .tuple _ => .error .list
      | .map _ => .error .map
      | .broken _ => .error .broken
      | _ => .error .notText

/-- A number as a result is shown: integral values without a fraction, and names for the values
that are no ordinary number. -/
def showValue : Option Float → String
  | none => "No result"
  | some x =>
    match Binary64.shape x with
    | .nan => "NaN"
    | .infinite negative => if negative then "-Infinity" else "Infinity"
    | .finite .. =>
      if Binary64.isIntegral x then toString ((Binary64.truncate? x).getD 0) else Decimal.text x

end Formulary
