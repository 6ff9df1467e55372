import Formulary.Datum
import Formulary.Decimal.Numeral
/-!
# Reading JSON

A text is read as one JSON value. The names of the numbers that are not ordinary are accepted, and of
a repeated key the last value counts, in the place of the first. Escapes stand for units of UTF-16; the
halves of a pair that follow each other are one character, and a half without the other stays one.
-/

set_option autoImplicit false
namespace Formulary.Json

inductive ParseError where
  | malformed
  /-- An integer has more digits than are read. -/
  | tooManyDigits
  deriving DecidableEq, Repr

def isSpace (c : Char) : Bool := c == ' ' || c == '\t' || c == '\n' || c == '\r'

def skipSpace (cs : List Char) : List Char := cs.dropWhile isSpace

def hexValue? (c : Char) : Option Nat :=
  if c.isDigit then some (c.toNat - 48)
  else if 'a' ≤ c ∧ c ≤ 'f' then some (c.toNat - 87)
  else if 'A' ≤ c ∧ c ≤ 'F' then some (c.toNat - 55)
  else none

/-- Four hexadecimal digits. -/
def readUnit? : List Char → Option (Nat × List Char)
  | a :: b :: c :: d :: rest => do
    let n := ((← hexValue? a) * 16 + (← hexValue? b)) * 256 + (← hexValue? c) * 16 + (← hexValue? d)
    some (n, rest)
  | _ => none

/-- The code point of one unit of UTF-16. -/
def ofUnit (n : Nat) : CodePoint :=
  if 0xd800 ≤ n ∧ n < 0xdc00 then .high (Fin.ofNat 1024 (n - 0xd800))
  else if 0xdc00 ≤ n ∧ n < 0xe000 then .low (Fin.ofNat 1024 (n - 0xdc00))
  else .char (Char.ofNat n)

/-- The code point of an escape, behind its backslash. -/
def readEscape? : List Char → Option (CodePoint × List Char)
  | 'u' :: rest => (readUnit? rest).map fun (n, rest) => (ofUnit n, rest)
  | '\"' :: rest => some (.char '\"', rest)
  | '\\' :: rest => some (.char '\\', rest)
  | '/' :: rest => some (.char '/', rest)
  | 'b' :: rest => some (.char (Char.ofNat 8), rest)
  | 'f' :: rest => some (.char (Char.ofNat 12), rest)
  | 'n' :: rest => some (.char '\n', rest)
  | 'r' :: rest => some (.char '\r', rest)
  | 't' :: rest => some (.char '\t', rest)
  | _ => none

/-- The units of a string up to its closing mark, behind those already read, which stand in reverse
order. Each step takes at least one character, so as many steps suffice. -/
def readString? : Nat → List CodePoint → List Char → Option (List CodePoint × List Char)
  | 0, _, _ => none
  | _ + 1, _, [] => none
  | n + 1, done, c :: cs =>
    if c = '\"' then some (done.reverse, cs)
    else if c = '\\' then
      match readEscape? cs with
      | some (p, rest) => readString? n (p :: done) rest
      | none => none
    else if c.toNat < 32 then none
    else readString? n (.char c :: done) cs

/-- The part of a number behind its integer: a fraction and an exponent, each if it is complete. -/
def readFraction (cs : List Char) : List Char × List Char :=
  match cs with
  | '.' :: rest =>
    let ds := rest.takeWhile Char.isDigit
    if ds.isEmpty then ([], cs) else ('.' :: ds, rest.dropWhile Char.isDigit)
  | _ => ([], cs)

def readExponent (cs : List Char) : List Char × List Char :=
  match cs with
  | mark :: rest =>
    if mark = 'e' ∨ mark = 'E' then
      let (sign, body) :=
        match rest with
        | '+' :: body => (['+'], body)
        | '-' :: body => (['-'], body)
        | body => ([], body)
      let ds := body.takeWhile Char.isDigit
      if ds.isEmpty then ([], cs) else ('e' :: sign ++ ds, body.dropWhile Char.isDigit)
    else ([], cs)
  | [] => ([], cs)

/-- A minus in front, and the rest. -/
def takeMinus : List Char → Bool × List Char
  | '-' :: rest => (true, rest)
  | rest => (false, rest)

/-- The digits of an integer in front; a zero there stands alone. -/
def wholeDigits : List Char → List Char
  | '0' :: _ => ['0']
  | cs => cs.takeWhile Char.isDigit

/-- A number: an integer without needless zeros, with a fraction or an exponent a decimal. -/
def readNumber (cs : List Char) : Except ParseError (Datum × List Char) :=
  let (negative, body) := takeMinus cs
  let whole := wholeDigits body
  if whole.isEmpty then .error .malformed
  else
    let (fraction, rest) := readFraction (body.drop whole.length)
    let (exponent, rest) := readExponent rest
    if fraction.isEmpty && exponent.isEmpty then
      if Numeral.maxDigits < whole.length then .error .tooManyDigits
      else
        let n := Numeral.digitsValue whole
        .ok (.int (if negative then -(n : Int) else n), rest)
    else
      match Numeral.readUnsigned? negative (whole ++ fraction ++ exponent) with
      | some x => .ok (.float x, rest)
      | none => .error .malformed

/-- The words that stand for values. -/
def words : List (String × Datum) :=
  [("null", .null), ("true", .bool true), ("false", .bool false), ("NaN", .float Binary64.nan),
   ("Infinity", .float Binary64.infinity), ("-Infinity", .float (-Binary64.infinity))]

def readWord? (cs : List Char) : Option (Datum × List Char) :=
  (words.find? fun w => w.1.toList.isPrefixOf cs).map fun w => (w.2, cs.drop w.1.length)

mutual

/-- A value at the beginning of the text. Every call takes a character or is the only one at its
place, so twice as many nested calls as there are characters suffice. -/
def readValue : Nat → List Char → Except ParseError (Datum × List Char)
  | 0, _ => .error .malformed
  | n + 1, cs =>
    match cs with
    | '\"' :: rest =>
      match readString? (rest.length + 1) [] rest with
      | some (units, rest) => .ok (.ofUnits units, rest)
      | none => .error .malformed
    | '[' :: rest =>
      match skipSpace rest with
      | ']' :: rest => .ok (.list [], rest)
      | rest => (readItems n rest).map fun (items, rest) => (.list items, rest)
    | '\x7b' :: rest =>
      match skipSpace rest with
      | '\x7d' :: rest => .ok (.map [], rest)
      | rest => (readFields n [] rest).map fun (fields, rest) => (.map fields, rest)
    | _ =>
      match readWord? cs with
      | some r => .ok r
      | none => readNumber cs

/-- One or more items, up to the bracket behind the last one. -/
def readItems : Nat → List Char → Except ParseError (List Datum × List Char)
  | 0, _ => .error .malformed
  | n + 1, cs =>
    match readValue n cs with
    | .error e => .error e
    | .ok (item, rest) =>
      match skipSpace rest with
      | ',' :: rest => (readItems n (skipSpace rest)).map fun (items, rest) => (item :: items, rest)
      | ']' :: rest => .ok ([item], rest)
      | _ => .error .malformed

/-- One or more fields behind those already read, up to the bracket behind the last one. -/
def readFields : Nat → List (Datum × Datum) → List Char →
    Except ParseError (List (Datum × Datum) × List Char)
  | 0, _, _ => .error .malformed
  | n + 1, done, cs =>
    match cs with
    | '\"' :: rest =>
      match readString? (rest.length + 1) [] rest with
      | none => .error .malformed
      | some (key, rest) =>
        match skipSpace rest with
        | ':' :: rest =>
          match readValue n (skipSpace rest) with
          | .error e => .error e
          | .ok (value, rest) =>
            let done := Datum.putEntry (.ofUnits key) value done
            match skipSpace rest with
            | ',' :: rest => readFields n done (skipSpace rest)
            | '\x7d' :: rest => .ok (done, rest)
            | _ => .error .malformed
        | _ => .error .malformed
    | _ => .error .malformed

end

/-- Reads a text that is one JSON value, with white space around it. -/
def parse (cs : List Char) : Except ParseError Datum :=
  match readValue (2 * cs.length + 2) (skipSpace cs) with
  | .error e => .error e
  | .ok (value, rest) => if (skipSpace rest).isEmpty then .ok value else .error .malformed

end Formulary.Json
