import Formulary.Yaml.Scalar
/-!
# Tokens of a document

A document is cut into indicators and scalars. In a block, indentation opens and closes collections:
a column further right opens one, a column further left closes those that lie behind it. A scalar or
flow collection that a colon follows on its line is a key, and the tokens that open its mapping are
entered in front of it. A place that cannot be read is a token too, the last one: what stands before it
is complete, so that the first fault of a document is the one that counts.
-/

set_option autoImplicit false
namespace Formulary.Yaml

inductive Token where
  | documentStart
  | documentEnd
  | streamEnd
  | blockSequenceStart
  | blockMappingStart
  | blockEnd
  | flowSequenceStart
  | flowSequenceEnd
  | flowMappingStart
  | flowMappingEnd
  | blockEntry
  | flowEntry
  | key
  | value
  | scalar (text : String) (plain : Bool)
  /-- Nothing can be read from here on. -/
  | fault (error : Error)
  deriving DecidableEq, Repr

/-- A place where a key may begin: the index of its first token, and whether it must be a key because
it stands at the indentation of a mapping. -/
structure PossibleKey where
  token : Nat
  required : Bool
  index : Nat
  line : Nat
  column : Nat

/-- The state of a scan. `keys` holds at most one possible key for each depth of flow collections. -/
structure Scan where
  cursor : Cursor
  depth : Nat
  indent : Int
  indents : List Int
  keyAllowed : Bool
  keys : List (Nat × PossibleKey)
  tokens : Array Token

/-- A key stands on one line and has no more characters than these. -/
def maxKeyLength : Nat := 1024

namespace Scan

def start (cs : List Char) : Scan := ⟨.start cs, 0, -1, [], true, [], #[]⟩

def emit (s : Scan) (t : Token) : Scan := { s with tokens := s.tokens.push t }

/-- Emits an indicator of `n` characters. -/
def emitOver (s : Scan) (n : Nat) (t : Token) : Scan :=
  { s.emit t with cursor := s.cursor.advanceBy n }

/-- Enters a token in front of the token with index `i`. -/
def enterAt (s : Scan) (i : Nat) (t : Token) : Scan :=
  { s with tokens := s.tokens.extract 0 i ++ #[t] ++ s.tokens.extract i s.tokens.size }

def inFlow (s : Scan) : Bool := s.depth != 0

/-- Whether a key can no longer be followed by its colon. -/
def isStale (s : Scan) (k : PossibleKey) : Bool :=
  k.line != s.cursor.line || maxKeyLength < s.cursor.index - k.index

/-- Forgets the keys that can no longer be followed by their colon. -/
def forgetStale (s : Scan) : Except Error Scan :=
  if s.keys.any fun k => s.isStale k.2 && k.2.required then .error .malformed
  else .ok { s with keys := s.keys.filter fun k => !s.isStale k.2 }

/-- Forgets the possible key at the present depth; a required one must not be forgotten. -/
def forgetKey (s : Scan) : Except Error Scan :=
  if s.keys.any fun k => k.1 == s.depth && k.2.required then .error .malformed
  else .ok { s with keys := s.keys.filter fun k => k.1 != s.depth }

/-- Remembers that the next token may begin a key. -/
def rememberKey (s : Scan) : Except Error Scan :=
  if s.keyAllowed then do
    let s ← s.forgetKey
    let key : PossibleKey :=
      { token := s.tokens.size
        required := !s.inFlow && s.indent == s.cursor.column
        index := s.cursor.index
        line := s.cursor.line
        column := s.cursor.column }
    .ok { s with keys := (s.depth, key) :: s.keys }
  else .ok s

/-- Closes the block collections behind a column. -/
def unwindFrom (column : Int) : Int → List Int → Array Token → Int × List Int × Array Token
  | indent, [], ts => (indent, [], ts)
  | indent, outer :: rest, ts =>
    if column < indent then unwindFrom column outer rest (ts.push .blockEnd)
    else (indent, outer :: rest, ts)

def unwind (s : Scan) (column : Int) : Scan :=
  if s.inFlow then s
  else
    let (indent, indents, tokens) := unwindFrom column s.indent s.indents s.tokens
    { s with indent, indents, tokens }

/-- Indents to a column, if it lies further right. -/
def indentTo? (s : Scan) (column : Nat) : Option Scan :=
  if s.indent < column then some { s with indent := column, indents := s.indent :: s.indents }
  else none

/-- Opens a block collection at the present column, if it lies further right. -/
def openBlock (s : Scan) (t : Token) : Scan :=
  match s.indentTo? s.cursor.column with
  | some s => s.emit t
  | none => s

/-- Goes over spaces, comments and breaks; a break in a block allows a key. -/
def skipFrom : Nat → Scan → Scan
  | 0, s => s
  | n + 1, s =>
    let (_, c) := s.cursor.takeWhile (· == ' ')
    let c := if c.peek = some '#' then (c.takeWhile fun ch => !isBreak ch).2 else c
    if c.atBreak then
      skipFrom n { s with cursor := c.advance, keyAllowed := s.keyAllowed || !s.inFlow }
    else { s with cursor := c }

def skip (s : Scan) : Scan :=
  let s :=
    if s.cursor.index = 0 ∧ s.cursor.peek = some byteOrderMark then
      { s with cursor := s.cursor.advance }
    else s
  skipFrom (s.cursor.rest.length + 1) s

def document (s : Scan) (t : Token) : Except Error Scan := do
  let s ← (s.unwind (-1)).forgetKey
  .ok ({ s with keyAllowed := false }.emitOver 3 t)

def flowStart (s : Scan) (t : Token) : Except Error Scan := do
  let s ← s.rememberKey
  .ok ({ s with depth := s.depth + 1, keyAllowed := true }.emitOver 1 t)

def flowEnd (s : Scan) (t : Token) : Except Error Scan := do
  let s ← s.forgetKey
  .ok ({ s with depth := s.depth - 1, keyAllowed := false }.emitOver 1 t)

def flowEntry (s : Scan) : Except Error Scan := do
  let s ← { s with keyAllowed := true }.forgetKey
  .ok (s.emitOver 1 .flowEntry)

def blockEntry (s : Scan) : Except Error Scan := do
  if !s.inFlow && !s.keyAllowed then .error .malformed
  let s := if s.inFlow then s else s.openBlock .blockSequenceStart
  let s ← { s with keyAllowed := true }.forgetKey
  .ok (s.emitOver 1 .blockEntry)

/-- The indicator of a key that is written out. -/
def explicitKey (s : Scan) : Except Error Scan := do
  if !s.inFlow && !s.keyAllowed then .error .malformed
  let s := if s.inFlow then s else s.openBlock .blockMappingStart
  let s ← { s with keyAllowed := !s.inFlow }.forgetKey
  .ok (s.emitOver 1 .key)

/-- The indicator of a value, behind a possible key or behind a key that is written out. -/
def value (s : Scan) : Except Error Scan :=
  match s.keys.lookup s.depth with
  | some key =>
    let s := { s with keys := s.keys.filter fun k => k.1 != s.depth }
    let s := s.enterAt key.token .key
    let s :=
      if s.inFlow then s
      else
        match s.indentTo? key.column with
        | some s => s.enterAt key.token .blockMappingStart
        | none => s
    .ok ({ s with keyAllowed := false }.emitOver 1 .value)
  | none => do
    if !s.inFlow && !s.keyAllowed then .error .malformed
    let s := if s.inFlow then s else s.openBlock .blockMappingStart
    let s ← { s with keyAllowed := !s.inFlow }.forgetKey
    .ok (s.emitOver 1 .value)

def quoted (s : Scan) (mark : Char) : Except Error Scan := do
  let s ← s.rememberKey
  let (cs, cursor) ← quotedFrom mark (s.cursor.rest.length + 1) [] s.cursor.advance
  .ok ({ s with keyAllowed := false, cursor }.emit (.scalar (String.ofList cs) false))

def plain (s : Scan) : Except Error Scan := do
  let s ← s.rememberKey
  let (cs, broken, cursor) :=
    plainFrom s.inFlow (s.indent + 1) (s.cursor.rest.length + 1) [] [] false s.cursor
  .ok ({ s with keyAllowed := broken, cursor }.emit (.scalar (String.ofList cs) true))

/-- Indicators that begin no plain scalar. -/
def indicators : List Char :=
  ['-', '?', ':', ',', '[', ']', '\x7b', '\x7d', '#', '&', '*', '!', '|', '>', '\'', '\"', '%', '@',
   Char.ofNat 0x60]

/-- Whether a plain scalar begins here: behind no indicator, or behind one that no gap follows. -/
def atPlain (s : Scan) (ch : Char) : Bool :=
  (!isGap (some ch) && !indicators.contains ch) ||
    (!isGap (s.cursor.peekAt 1) && (ch == '-' || (!s.inFlow && (ch == '?' || ch == ':'))))

/-- Scans the token at the present place; none is left at the end of the document. -/
def token (s : Scan) (ch : Char) : Except Error Scan :=
  let gapNext := isGap (s.cursor.peekAt 1)
  if ch = '%' ∧ s.cursor.column = 0 then .error .malformed
  else if s.cursor.column = 0 ∧ s.cursor.atDocumentMark then
    s.document (if ch = '-' then .documentStart else .documentEnd)
  else if ch = '[' then s.flowStart .flowSequenceStart
  else if ch = '\x7b' then s.flowStart .flowMappingStart
  else if ch = ']' then s.flowEnd .flowSequenceEnd
  else if ch = '\x7d' then s.flowEnd .flowMappingEnd
  else if ch = ',' then s.flowEntry
  else if ch = '-' ∧ gapNext then s.blockEntry
  else if ch = '?' ∧ (s.inFlow ∨ gapNext) then s.explicitKey
  else if ch = ':' ∧ (s.inFlow ∨ gapNext) then s.value
  else if ch = '\'' ∨ ch = '\"' then s.quoted ch
  else if s.atPlain ch then s.plain
  else .error .malformed

/-- Scans the next token, and says whether it was the last one. -/
def step (s : Scan) : Except Error (Scan × Bool) := do
  let s ← s.skip.forgetStale
  let s := s.unwind s.cursor.column
  match s.cursor.peek with
  | none =>
    let s ← (s.unwind (-1)).forgetKey
    .ok (s.emit .streamEnd, true)
  | some ch => .ok (← s.token ch, false)

/-- The number of tokens whose role is settled: those in front of every possible key. -/
def settled (s : Scan) : Nat :=
  (s.keys.filter fun k => !s.isStale k.2).foldl (fun n k => min n k.2.token) s.tokens.size

/-- The tokens of a scan that cannot go on. -/
def failed (s : Scan) (e : Error) : List Token := s.tokens.toList.take s.settled ++ [.fault e]

/-- Scans up to the end. Each step takes a character. -/
def finish : Nat → Scan → List Token
  | 0, s => s.failed .malformed
  | n + 1, s =>
    match s.step with
    | .error e => s.failed e
    | .ok (s, true) => s.tokens.toList
    | .ok (s, false) => finish n s

end Scan

/-- Characters that a document may hold. -/
def isAllowed (c : Char) : Bool :=
  let n := c.toNat
  n == 9 || n == 10 || n == 13 || (0x20 ≤ n && n ≤ 0x7e) || n == 0x85 || (0xa0 ≤ n && n ≤ 0xfffd) ||
    0x10000 ≤ n

/-- The tokens of a document. -/
def Token.scan (cs : List Char) : List Token :=
  if cs.all isAllowed then Scan.finish (cs.length + 1) (.start cs) else [.fault .malformed]

end Formulary.Yaml
