import Formulary.Calculation
import Formulary.Text.Blank
/-!
# Assignments

Bindings can be given as texts of the form `name=value`. Blanks around the name do not count, and of
several assignments to a name the last one does.
-/

set_option autoImplicit false
namespace Formulary

/-- Why a text is no assignment. -/
inductive AssignmentError where
  | noEqualsSign (item : String)
  | notNumber (name value : String)
  deriving DecidableEq, Repr

def AssignmentError.message : AssignmentError → String
  | noEqualsSign item => "Invalid --var format: " ++ Text.quoted item ++ ". Use name=value."
  | notNumber name value =>
    "Invalid value for " ++ Text.quoted name ++ ": " ++ Text.quoted value ++ " is not a number"

/-- The texts in front of the first equals sign and behind it. -/
def splitAssignment (item : String) : Option (String × String) :=
  let name := item.toList.takeWhile (· != '=')
  match item.toList.drop name.length with
  | [] => none
  | _ :: value => some (String.ofList name, String.ofList value)

/-- The name and the number of an assignment. -/
def readAssignment (item : String) : Except AssignmentError (String × Float) :=
  match splitAssignment item with
  | none => .error (.noEqualsSign item)
  | some (name, value) =>
    match Numeral.readFloat? value with
    | some x => .ok (Text.trim name, x)
    | none => .error (.notNumber (Text.trim name) value)

/-- Adds the bindings of assignments, from the first to the last. -/
def Bindings.assign (b : Bindings) : List String → Except AssignmentError Bindings
  | [] => .ok b
  | item :: items =>
    match readAssignment item with
    | .ok (name, x) => assign (b.insert name (.float x)) items
    | .error e => .error e

end Formulary
