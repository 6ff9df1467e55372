import Formulary.Text.Printable
import Formulary.Text.Surrogates
/-!
# Quoted text

How a message shows a text: between quotation marks, with the marks, backslashes, line ends and
unprintable characters escaped. Halves of surrogate pairs are never printable, and of bytes only those
that stand for printable ASCII characters are.
-/

set_option autoImplicit false
namespace Formulary.Text

/-- Hexadecimal digits of `n`, with zeros in front up to `width`. -/
def hexDigits (width n : Nat) : List Char :=
  let ds := Nat.toDigits 16 n
  List.replicate (width - ds.length) '0' ++ ds

/-- The escape of an unprintable character: two, four or eight hexadecimal digits. -/
def numericEscape (c : Char) : List Char :=
  let n := c.toNat
  if n < 0x100 then '\\' :: 'x' :: hexDigits 2 n
  else if n < 0x10000 then '\\' :: 'u' :: hexDigits 4 n
  else '\\' :: 'U' :: hexDigits 8 n

/-- A character between quotation marks of the kind `mark`. -/
def escaped (mark c : Char) : List Char :=
  if c = '\\' ∨ c = mark then ['\\', c]
  else if c = '\n' then ['\\', 'n']
  else if c = '\r' then ['\\', 'r']
  else if c = '\t' then ['\\', 't']
  else if isPrintable c then [c]
  else numericEscape c

/-- Single quotation marks, unless the text has a single mark and no double one. -/
def quotationMark (cs : List Char) : Char :=
  if '\'' ∈ cs ∧ '\"' ∉ cs then '\"' else '\''

/-- A text between quotation marks. -/
def quoted (s : String) : String :=
  let mark := quotationMark s.toList
  String.ofList (mark :: s.toList.flatMap (escaped mark) ++ [mark])

/-- A code point between quotation marks of the kind `mark`. -/
def escapedCode (mark : Char) : CodePoint → List Char
  | .char c => escaped mark c
  | p => '\\' :: 'u' :: hexDigits 4 p.toNat

/-- Code points between quotation marks. -/
def quotedCodes (ps : List CodePoint) : String :=
  let mark := quotationMark (ps.filterMap CodePoint.char?)
  String.ofList (mark :: ps.flatMap (escapedCode mark) ++ [mark])

/-- A byte between quotation marks of the kind `mark`. -/
def escapedByte (mark : Char) (b : UInt8) : List Char :=
  if b < 128 then escaped mark (Char.ofNat b.toNat) else '\\' :: 'x' :: hexDigits 2 b.toNat

/-- Bytes between quotation marks, with a letter in front. -/
def quotedBytes (bs : List UInt8) : String :=
  let mark := quotationMark (bs.map fun b => Char.ofNat b.toNat)
  String.ofList ('b' :: mark :: bs.flatMap (escapedByte mark) ++ [mark])

end Formulary.Text
