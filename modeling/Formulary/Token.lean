import Formulary.Datum.Number
import Formulary.FieldFault
import Formulary.Text.Alphanumeric
/-!
# Tokens

The lexical units of a formula. An identifier is a variable or the name of a function; which of the
two is decided only when the formula is evaluated.
-/

set_option autoImplicit false
namespace Formulary

inductive TokenKind where
  | number
  | identifier
  | operator
  | lparen
  | rparen
  deriving DecidableEq, Repr

namespace TokenKind

def all : List TokenKind := [number, identifier, operator, lparen, rparen]

def name : TokenKind → String
  | number => "number"
  | identifier => "identifier"
  | operator => "operator"
  | lparen => "lparen"
  | rparen => "rparen"

def ofName? (s : String) : Option TokenKind := all.find? (·.name == s)

end TokenKind

/-- One lexical unit of a formula. -/
structure Token where
  kind : TokenKind
  text : String
  deriving DecidableEq, Repr

/-- A decimal literal: digits with at most one point among or after them, or a point and digits. -/
def isNumeral (cs : List Char) : Bool :=
  match cs.dropWhile Char.isDigit with
  | [] => !cs.isEmpty
  | '.' :: fraction => fraction.all Char.isDigit && (cs.head? != some '.' || !fraction.isEmpty)
  | _ => false

/-- Why a token has no number. -/
inductive TokenError where
  | notNumeral (token : Token)
  | number (cause : NumberError)
  deriving DecidableEq, Repr

namespace Token

def lparen : Token := ⟨.lparen, "("⟩
def rparen : Token := ⟨.rparen, ")"⟩

/-- Classifies one piece of formula text: parentheses, decimal literals, single symbols, and
identifiers for all the rest. -/
def ofText (s : String) : Token :=
  if s = "(" then lparen
  else if s = ")" then rparen
  else if isNumeral s.toList then ⟨.number, s⟩
  else
    match s.toList with
    | [c] =>
      if !Text.isAlphanumeric c && !Text.isBlank c then ⟨.operator, s⟩ else ⟨.identifier, s⟩
    | _ => ⟨.identifier, s⟩

/-- The value of a decimal literal. -/
def number (t : Token) : Except TokenError Float :=
  if t.kind = .number then (Numeral.float t.text).mapError .number
  else .error (.notNumeral t)

/-- Builds a token from the data for its two fields. -/
def ofData (kind text : Datum) : Except (List FieldFault) Token :=
  let kind? := match kind with
    | .text s => TokenKind.ofName? s
    | _ => none
  match kind?, text with
  | some k, .text s => .ok ⟨k, s⟩
  | some _, _ => .error [.notText "text"]
  | none, .text _ => .error [.notOneOf "kind" (TokenKind.all.map TokenKind.name)]
  | none, _ => .error [.notOneOf "kind" (TokenKind.all.map TokenKind.name), .notText "text"]

end Token

/-- What a message says about a token that has no number. -/
def TokenError.notNumeralMessage (t : Token) : String :=
  t.kind.name ++ " token has no numeric value: " ++ Text.quoted t.text

end Formulary
