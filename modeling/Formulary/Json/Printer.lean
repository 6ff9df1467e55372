import Formulary.Datum.Shown
/-!
# Writing JSON

Data are written as JSON in ASCII: characters outside the printable range are escaped as UTF-16
units, and what JSON has no form for is a text. `line` writes one line with sorted keys, `indented` one
item a line in the order of the data. Both are about data that can be written, which `DumpError` says
more about.
-/

set_option autoImplicit false
namespace Formulary.Json

/-- A code unit of sixteen bits as an escape. -/
def unitEscape (n : Nat) : List Char := '\\' :: 'u' :: Text.hexDigits 4 n

/-- A character inside of a JSON string. -/
def escaped (c : Char) : List Char :=
  if c = '\"' then ['\\', '\"']
  else if c = '\\' then ['\\', '\\']
  else if c = '\n' then ['\\', 'n']
  else if c = '\r' then ['\\', 'r']
  else if c = '\t' then ['\\', 't']
  else
    let n := c.toNat
    if n = 8 then ['\\', 'b']
    else if n = 12 then ['\\', 'f']
    else if 32 ≤ n ∧ n < 127 then [c]
    else if n < 0x10000 then unitEscape n
    else unitEscape (0xd800 + (n - 0x10000) / 0x400) ++ unitEscape (0xdc00 + (n - 0x10000) % 0x400)

/-- A JSON string. -/
def string (s : String) : String :=
  String.ofList ('\"' :: s.toList.flatMap escaped ++ ['\"'])

/-- A code point inside of a JSON string. -/
def escapedCode : CodePoint → List Char
  | .char c => escaped c
  | p => unitEscape p.toNat

/-- A JSON string of code points. -/
def codeString (ps : List CodePoint) : String :=
  String.ofList ('\"' :: ps.flatMap escapedCode ++ ['\"'])

/-- A number; the values that are no ordinary number have names. -/
def number (x : Float) : String :=
  match Binary64.shape x with
  | .nan => "NaN"
  | .infinite negative => if negative then "-Infinity" else "Infinity"
  | .finite .. => Decimal.text x

/-- Why data cannot be written as JSON. -/
inductive DumpError where
  /-- An integer has more digits than are written. -/
  | tooManyDigits
  /-- A key is a text that is no sequence of characters. -/
  | brokenKey (t : BrokenText)
  /-- Bytes are no text in UTF-8. -/
  | notUtf8 (bs : List UInt8)
  deriving DecidableEq, Repr

/-- The text whose form in UTF-8 the bytes are. -/
def utf8? (bs : List UInt8) : Option String := String.fromUTF8? ⟨bs.toArray⟩

namespace DumpError

def name : DumpError → String
  | tooManyDigits => "ValueError"
  | brokenKey _ => "UnicodeEncodeError"
  | notUtf8 _ => "UnicodeDecodeError"

/-- The place of the first half of a surrogate pair, and how many of them follow each other there. -/
def firstHalves (ps : List CodePoint) : Nat × List CodePoint :=
  let isChar (p : CodePoint) := p.char?.isSome
  ((ps.takeWhile isChar).length, (ps.dropWhile isChar).takeWhile fun p => !isChar p)

/-- How many bytes in front are a text in UTF-8. -/
def validBytes (bs : List UInt8) : Nat :=
  ((List.range bs.length).reverse.find? fun n => (utf8? (bs.take n)).isSome).getD 0

def message : DumpError → String
  | tooManyDigits => "Exceeds the limit (" ++ toString Numeral.maxDigits ++
      " digits) for integer string conversion; use sys.set_int_max_str_digits() to increase the limit"
  | brokenKey t =>
    let (start, halves) := firstHalves t.codes
    "'utf-8' codec can't encode " ++
      (match halves with
        | [p] => "character '" ++ String.ofList (Text.escapedCode '\'' p) ++ "' in position " ++
            toString start
        | ps => "characters in position " ++ toString start ++ "-" ++ toString (start + ps.length - 1)) ++
      ": surrogates not allowed"
  | notUtf8 bs =>
    let n := validBytes bs
    "'utf-8' codec can't decode byte 0x" ++ String.ofList (Text.hexDigits 2 (bs.getD n 0).toNat) ++
      " in position " ++ toString n ++ ": invalid utf-8"

end DumpError

mutual

/-- The text that stands for a key that can be written. -/
def keyText : Datum → String
  | .bool b => if b then "true" else "false"
  | .bytes bs => (utf8? bs).getD ""
  | .tuple items => ",".intercalate (keyTexts items)
  | d => d.plain

def keyTexts : List Datum → List String
  | [] => []
  | d :: ds => keyText d :: keyTexts ds

end

mutual

/-- What keeps a key from being written. -/
def keyError? : Datum → Option DumpError
  | .int n => if n.natAbs < tenTo Numeral.maxDigits then none else some .tooManyDigits
  | .broken t => some (.brokenKey t)
  | .bytes bs => if (utf8? bs).isSome then none else some (.notUtf8 bs)
  | .tuple items => keysError? items
  | _ => none

def keysError? : List Datum → Option DumpError
  | [] => none
  | d :: ds => (keyError? d).or (keysError? ds)

end

mutual

/-- What keeps the keys and the bytes in data from being written. -/
def dumpError? : Datum → Option DumpError
  | .bytes bs => if (utf8? bs).isSome then none else some (.notUtf8 bs)
  | .list items | .tuple items | .set items => itemsError? items
  | .map entries => entriesError? entries
  | _ => none

def itemsError? : List Datum → Option DumpError
  | [] => none
  | d :: ds => (dumpError? d).or (itemsError? ds)

def entriesError? : List (Datum × Datum) → Option DumpError
  | [] => none
  | (k, v) :: es => (keyError? k).or ((dumpError? v).or (entriesError? es))

end

/-- The order of keys is that of their code points. -/
def sortByKey (fields : List (String × String)) : List (String × String) :=
  fields.mergeSort fun a b => decide (a.1 ≤ b.1)

mutual

/-- One line, with sorted keys. -/
def line : Datum → String
  | .null => "null"
  | .bool b => if b then "true" else "false"
  | .int n => toString n
  | .float x => number x
  | .text s => string s
  | .broken t => codeString t.codes
  | .list items | .tuple items => "[" ++ ", ".intercalate (lineItems items) ++ "]"
  | .map entries =>
    "\x7b" ++ ", ".intercalate ((sortByKey (lineEntries entries)).map Prod.snd) ++ "\x7d"
  | d => string d.plain

def lineItems : List Datum → List String
  | [] => []
  | d :: ds => line d :: lineItems ds

/-- Each entry with its key, for sorting. -/
def lineEntries : List (Datum × Datum) → List (String × String)
  | [] => []
  | (k, v) :: es => (keyText k, string (keyText k) ++ ": " ++ line v) :: lineEntries es

end

/-- Items on lines of their own between brackets; no lines when there are no items. -/
def block (depth : Nat) (opening closing : String) (items : List String) : String :=
  if items.isEmpty then opening ++ closing
  else
    let margin (n : Nat) := "\n" ++ String.ofList (List.replicate (2 * n) ' ')
    opening ++ margin (depth + 1) ++ ("," ++ margin (depth + 1)).intercalate items ++
      margin depth ++ closing

mutual

/-- One item a line, two more spaces at each level, in the order of the data. -/
def indented (depth : Nat) : Datum → String
  | .list items | .tuple items => block depth "[" "]" (indentedItems (depth + 1) items)
  | .map entries => block depth "\x7b" "\x7d" (indentedEntries (depth + 1) entries)
  | .null => "null"
  | .bool b => if b then "true" else "false"
  | .int n => toString n
  | .float x => number x
  | .text s => string s
  | .broken t => codeString t.codes
  | d => string d.plain

def indentedItems (depth : Nat) : List Datum → List String
  | [] => []
  | d :: ds => indented depth d :: indentedItems depth ds

def indentedEntries (depth : Nat) : List (Datum × Datum) → List String
  | [] => []
  | (k, v) :: es =>
    (string (keyText k) ++ ": " ++ indented depth v) :: indentedEntries depth es

end

end Formulary.Json
