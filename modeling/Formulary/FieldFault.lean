/-!
# Faults of fields

A record that is built from outside is checked field by field; each field with a wrong value gives
one fault, in the order of the fields.
-/

set_option autoImplicit false
namespace Formulary

/-- A field with a wrong value, and what is wrong with it. -/
structure FieldFault where
  field : String
  message : String
  deriving DecidableEq, Repr

namespace FieldFault

def missing (field : String) : FieldFault := ⟨field, "Field required"⟩
def notText (field : String) : FieldFault := ⟨field, "Input should be a valid string"⟩
def notMap (field : String) : FieldFault := ⟨field, "Input should be a valid dictionary"⟩

/-- A value that one of the library's own checks refused. -/
def refused (field reason : String) : FieldFault := ⟨field, "Value error, " ++ reason⟩

/-- Names in quotes, with the last one set off by the word "or". -/
def alternatives : List String → String
  | [] => ""
  | [a] => "'" ++ a ++ "'"
  | [a, b] => "'" ++ a ++ "' or '" ++ b ++ "'"
  | a :: rest => "'" ++ a ++ "', " ++ alternatives rest

def notOneOf (field : String) (names : List String) : FieldFault :=
  ⟨field, "Input should be " ++ alternatives names⟩

end FieldFault
end Formulary
