import Formulary.Datum.Number
/-!
# Faults of an evaluation

An evaluation ends early either with an error in the formula, which a calculation reports, or because
a value it needs is no number, which a calculation hands on to its caller.
-/

set_option autoImplicit false
namespace Formulary

/-- An error in a formula that shows when it is evaluated. -/
inductive EvalError where
  /-- The divisor is exactly zero. -/
  | divisionByZero (operator : String)
  /-- The name of a function is not followed by an opening parenthesis. -/
  | argumentNotParenthesized (function : String)
  /-- The argument of a function has no closing parenthesis after it. -/
  | unclosedCall (function : String)
  /-- The operator is not configured. -/
  | unknownOperator (symbol : String)
  deriving DecidableEq, Repr

namespace EvalError

def code : EvalError → String
  | divisionByZero _ => "division_by_zero"
  | argumentNotParenthesized _ => "function_argument_not_parenthesized"
  | unclosedCall _ => "mismatched_parentheses"
  | unknownOperator _ => "unknown_operator"

def message : EvalError → String
  | divisionByZero _ => "Division by zero"
  | argumentNotParenthesized f => "Function argument must be enclosed in parentheses: " ++ Text.quoted f
  | unclosedCall f => "Mismatched parentheses in call to " ++ Text.quoted f
  | unknownOperator s => "Invalid operator: " ++ Text.quoted s

end EvalError

/-- Why a variable or a literal has no value. -/
inductive OperandError where
  /-- There are no bindings to look a name up in. -/
  | noBindings
  | number (cause : NumberError)
  deriving DecidableEq, Repr

/-- What ends an evaluation early. -/
inductive Fault where
  | formula (error : EvalError)
  | operand (error : OperandError)
  deriving DecidableEq, Repr

end Formulary
