import Formulary.Config
/-!
# Elementary functions and operators

The functions and operators that every catalog begins with. They follow the arithmetic of 64-bit
numbers: outside its domain a function gives not-a-number, at a pole or on overflow an infinity. Only
a division by zero is an error.
-/

set_option autoImplicit false
namespace Formulary.Elementary

def cot (x : Float) : Float := 1.0 / x.tan
def sec (x : Float) : Float := 1.0 / x.cos
def csc (x : Float) : Float := 1.0 / x.sin

/-- The power function. A negative power of zero is positive infinity, whatever the sign of zero. -/
def power (base exponent : Float) : Float :=
  if base == 0.0 && exponent < 0.0 then Binary64.infinity else base.pow exponent

def divide (a b : Float) : Except Fault Float :=
  if b == 0.0 then .error (.formula (.divisionByZero "/")) else .ok (a / b)

def modulo (a b : Float) : Except Fault Float :=
  if b == 0.0 then .error (.formula (.divisionByZero "%")) else .ok (Binary64.remainder a b)

/-- The functions, in the order of the catalog. -/
def functions : List (String × (Float → Float)) :=
  [("sin", Float.sin), ("cos", Float.cos), ("tan", Float.tan), ("log", Float.log),
   ("log10", Float.log10), ("exp", Float.exp), ("sqrt", Float.sqrt), ("abs", Float.abs),
   ("asin", Float.asin), ("acos", Float.acos), ("atan", Float.atan), ("cot", cot), ("sec", sec),
   ("csc", csc), ("sinh", Float.sinh), ("cosh", Float.cosh), ("tanh", Float.tanh),
   ("asinh", Float.asinh), ("acosh", Float.acosh), ("atanh", Float.atanh)]

/-- The operators, in the order of the catalog. -/
def operators : List (String × Operator) :=
  [("+", ⟨1, fun a b => .ok (a + b)⟩), ("-", ⟨1, fun a b => .ok (a - b)⟩),
   ("*", ⟨2, fun a b => .ok (a * b)⟩), ("/", ⟨2, divide⟩),
   ("^", ⟨3, fun a b => .ok (power a b)⟩), ("%", ⟨2, modulo⟩)]

end Formulary.Elementary
