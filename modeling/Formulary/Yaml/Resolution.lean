import Formulary.Json.Parser
import Formulary.Yaml.Timestamp
/-!
# Values of plain scalars

A plain scalar is null, a truth value, a number, a date or a moment when it has the form of one, and a
text otherwise. Low lines in numbers are skipped, integers may be binary, octal or hexadecimal, and
colons separate digits in base sixty.
-/

set_option autoImplicit false
namespace Formulary.Yaml

def nullWords : List String := ["", "~", "null", "Null", "NULL"]

def trueWords : List String := ["yes", "Yes", "YES", "true", "True", "TRUE", "on", "On", "ON"]

def falseWords : List String := ["no", "No", "NO", "false", "False", "FALSE", "off", "Off", "OFF"]

def isDigitOrLine (c : Char) : Bool := c.isDigit || c == '_'

/-- The parts of a text between colons. -/
def colonParts (cs : List Char) : List (List Char) := cs.splitOn ':'

/-- A digit in base sixty: one or two decimal digits below sixty. -/
def isBase60Digit : List Char → Bool
  | [d] => d.isDigit
  | [a, d] => a.isDigit && a.toNat < 54 && d.isDigit
  | _ => false

/-- A decimal integer without a needless zero. -/
def isPlainInteger : List Char → Bool
  | ['0'] => true
  | c :: cs => c.isDigit && c != '0' && cs.all isDigitOrLine
  | [] => false

def withoutLines (cs : List Char) : List Char := cs.filter (· != '_')

/-- The value of digits in a base, if there are any. -/
def valueIn? (base : Nat) (cs : List Char) : Except Error Nat :=
  match withoutLines cs with
  | [] => .error .noSuchValue
  | ds => .ok (ds.foldl (fun n d => base * n + (Json.hexValue? d).getD 0) 0)

/-- The value of decimal digits, of which there must not be too many. -/
def decimalValue (cs : List Char) : Except Error Nat :=
  if Numeral.maxDigits < (withoutLines cs).length then .error .noSuchValue else valueIn? 10 cs

/-- An unsigned integer, if the characters have the form of one. -/
def integer? (cs : List Char) : Option (Except Error Nat) :=
  match cs with
  | '0' :: 'b' :: d :: ds =>
    if (d :: ds).all fun c => c == '0' || c == '1' || c == '_' then some (valueIn? 2 (d :: ds)) else none
  | '0' :: 'x' :: d :: ds =>
    if (d :: ds).all fun c => (Json.hexValue? c).isSome || c == '_' then some (valueIn? 16 (d :: ds))
    else none
  | '0' :: d :: ds =>
    if (d :: ds).all fun c => ('0' ≤ c && c ≤ '7') || c == '_' then some (valueIn? 8 cs) else none
  | _ =>
    match colonParts cs with
    | [whole] => if isPlainInteger whole then some (decimalValue whole) else none
    | first :: rest =>
      if isPlainInteger first && first != ['0'] && rest.all isBase60Digit then
        some ((first :: rest).foldlM (fun n part => (decimalValue part).map (60 * n + ·)) 0)
      else none
    | [] => none

/-- The digits of a decimal behind its point, with an exponent that has a sign, if there is one. -/
def isFraction (cs : List Char) : Bool :=
  match cs.dropWhile isDigitOrLine with
  | [] => true
  | mark :: sign :: ds =>
    (mark == 'e' || mark == 'E') && (sign == '-' || sign == '+') && !ds.isEmpty && ds.all Char.isDigit
  | _ => false

/-- Digits and low lines, a digit first. -/
def isGrouped : List Char → Bool
  | c :: cs => c.isDigit && cs.all isDigitOrLine
  | [] => false

/-- A decimal in base sixty: the parts before the last colon, and the last part with its point. -/
def isBase60Decimal (cs : List Char) : Bool :=
  match (colonParts cs).reverse with
  | last :: second :: before =>
    let whole := last.takeWhile Char.isDigit
    let middle := (second :: before).dropLast
    isBase60Digit whole && middle.all isBase60Digit &&
      isGrouped ((second :: before).getLast?.getD []) &&
      (match last.drop whole.length with
        | '.' :: fraction => fraction.all isDigitOrLine
        | _ => false)
  | _ => false

def partValue (cs : List Char) : Float :=
  (Numeral.readFloat? (String.ofList (withoutLines cs))).getD 0.0

/-- The value of parts in base sixty, the last part being worth itself. -/
def base60Value (parts : List (List Char)) : Float :=
  (parts.reverse.foldl
    (fun (sum, base) part => (sum + partValue part * Binary64.ofInt base, base * 60))
    ((0.0, 1) : Float × Int)).1

/-- A decimal, if the characters behind an optional sign have the form of one. -/
def decimal? (signed : Bool) (cs : List Char) : Option Float :=
  if cs = ['.', 'i', 'n', 'f'] ∨ cs = ['.', 'I', 'n', 'f'] ∨ cs = ['.', 'I', 'N', 'F'] then
    some Binary64.infinity
  else if !signed ∧ (cs = ['.', 'n', 'a', 'n'] ∨ cs = ['.', 'N', 'a', 'N'] ∨ cs = ['.', 'N', 'A', 'N']) then
    some Binary64.nan
  else if isBase60Decimal cs then some (base60Value (colonParts cs))
  else
    let whole := cs.takeWhile (· != '.')
    match cs.drop whole.length with
    | '.' :: fraction =>
      let fits :=
        if whole.isEmpty then !signed && fraction.head?.any Char.isDigit && isFraction fraction
        else isGrouped whole && isFraction fraction
      if fits then some (partValue cs) else none
    | _ => none

/-- The value of a plain scalar. -/
def resolve (s : String) : Except Error Datum :=
  if s ∈ nullWords then .ok .null
  else if s ∈ trueWords then .ok (.bool true)
  else if s ∈ falseWords then .ok (.bool false)
  else
    let cs := s.toList
    let (negative, body) := Numeral.takeSign cs
    match decimal? (body.length < cs.length) body with
    | some x => .ok (.float (if negative then -x else x))
    | none =>
      match integer? body with
      | some n => n.map fun n => .int (if negative then -(n : Int) else n)
      | none => (timestamp? cs).getD (.ok (.text s))

end Formulary.Yaml
