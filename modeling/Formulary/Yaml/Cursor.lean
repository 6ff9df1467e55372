/-!
# A place in a document

The rest of a document together with the line and the column where it begins. Lines are ended by a
line feed, a next-line character, or one of the two separators.
-/

set_option autoImplicit false
namespace Formulary.Yaml

/-- Why a document cannot be read. -/
inductive Error where
  /-- It breaks a rule of the format. -/
  | malformed
  /-- A scalar has the form of a value that does not exist: an integer without digits or with too many
  of them, a date that no calendar has, a character beyond the last one. -/
  | noSuchValue
  /-- The number of a character does not fit into 31 bits. -/
  | escapeTooLarge
  deriving DecidableEq, Repr

/-- A place in a document. -/
structure Cursor where
  rest : List Char
  index : Nat
  line : Nat
  column : Nat

def isBreak (c : Char) : Bool := [0xa, 0x85, 0x2028, 0x2029].contains c.toNat

/-- White space or the end of the document. -/
def isGap : Option Char → Bool
  | none => true
  | some c => c == ' ' || c == '\t' || isBreak c

/-- A mark of the byte order takes no column. -/
def byteOrderMark : Char := Char.ofNat 0xfeff

namespace Cursor

def start (cs : List Char) : Cursor := ⟨cs, 0, 0, 0⟩

def peek (c : Cursor) : Option Char := c.rest.head?
def peekAt (c : Cursor) (n : Nat) : Option Char := c.rest[n]?

/-- Goes behind the next character. -/
def advance (c : Cursor) : Cursor :=
  match c.rest with
  | [] => c
  | ch :: rest =>
    if isBreak ch then ⟨rest, c.index + 1, c.line + 1, 0⟩
    else ⟨rest, c.index + 1, c.line, if ch = byteOrderMark then c.column else c.column + 1⟩

def advanceBy : Nat → Cursor → Cursor
  | 0, c => c
  | n + 1, c => advanceBy n c.advance

/-- The longest run of characters with a property, and the place behind it. -/
def takeWhile (p : Char → Bool) (c : Cursor) : List Char × Cursor :=
  let cs := c.rest.takeWhile p
  (cs, c.advanceBy cs.length)

def atBreak (c : Cursor) : Bool := c.peek.any isBreak

/-- The text of the line break at the place: the separators stand for themselves, the other breaks
for a line feed. -/
def breakChar (c : Cursor) : Char :=
  match c.peek with
  | some ch => if ch.toNat = 0x2028 ∨ ch.toNat = 0x2029 then ch else '\n'
  | none => '\n'

/-- Whether a mark of a document's start or end stands here. -/
def atDocumentMark (c : Cursor) : Bool :=
  (c.rest.take 3 == ['-', '-', '-'] || c.rest.take 3 == ['.', '.', '.']) && isGap (c.peekAt 3)

end Cursor
end Formulary.Yaml
