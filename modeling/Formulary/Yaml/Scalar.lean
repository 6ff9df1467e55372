import Formulary.Json.Parser
import Formulary.Yaml.Cursor
/-!
# Scalars

The texts of plain and quoted scalars. A line break inside a scalar is folded: a single one becomes a
space, and of several the first goes.
-/

set_option autoImplicit false
namespace Formulary.Yaml

/-- The breaks of the blank lines in front of the next text. Each step takes a character. -/
def blankLines : Nat → Cursor → List Char → Option (List Char) × Cursor
  | 0, c, breaks => (some breaks, c)
  | n + 1, c, breaks =>
    if c.peek = some ' ' then blankLines n c.advance breaks
    else if c.atBreak then
      let next := c.advance
      if next.atDocumentMark then (none, next)
      else blankLines n next (breaks ++ [c.breakChar])
    else (some breaks, c)

/-- A break and the breaks of the blank lines behind it, folded. -/
def folded (first : Char) (breaks : List Char) : List Char :=
  (if first ≠ '\n' then [first] else if breaks.isEmpty then [' '] else []) ++ breaks

/-- The white space behind a piece of a plain scalar, folded, and whether it has a break. Nothing is
left of it in front of a mark of a document. -/
def plainGap (c : Cursor) : List Char × Bool × Cursor :=
  let (spaces, c) := c.takeWhile (· == ' ')
  if c.atBreak then
    let next := c.advance
    if next.atDocumentMark then ([], true, next)
    else
      match blankLines next.rest.length next [] with
      | (some breaks, after) => (folded c.breakChar breaks, true, after)
      | (none, after) => ([], true, after)
  else (spaces, false, c)

/-- The characters of a plain scalar up to white space or an indicator. -/
def plainPiece (inFlow : Bool) : List Char → List Char
  | [] => []
  | ch :: rest =>
    let stops :=
      isGap (some ch) ||
      (ch == ':' && (isGap rest.head? ||
        (inFlow && rest.head?.any fun d => d ∈ [',', '[', ']', '\x7b', '\x7d']))) ||
      (inFlow && ch ∈ [',', '?', '[', ']', '\x7b', '\x7d'])
    if stops then [] else ch :: plainPiece inFlow rest

/-- A plain scalar behind the part `done` of it and the folded space `gap`: its text, whether a break
was passed at its end, and the place behind it. In a block its further lines are indented by `indent`
at least. -/
def plainFrom (inFlow : Bool) (indent : Int) :
    Nat → List Char → List Char → Bool → Cursor → List Char × Bool × Cursor
  | 0, done, _, broken, c => (done, broken, c)
  | n + 1, done, gap, broken, c =>
    let piece := if c.peek = some '#' then [] else plainPiece inFlow c.rest
    if piece.isEmpty then (done, broken, c)
    else
      let done := done ++ gap ++ piece
      let (gap, broken, next) := plainGap (c.advanceBy piece.length)
      if gap.isEmpty || next.peek == some '#' || (!inFlow && next.column < indent) then
        (done, broken, next)
      else plainFrom inFlow indent n done gap broken next

/-- The breaks and margins between two lines of a quoted scalar. -/
def quotedBreaks : Nat → Cursor → List Char → Except Error (List Char × Cursor)
  | 0, c, breaks => .ok (breaks, c)
  | n + 1, c, breaks =>
    if c.atDocumentMark then .error .malformed
    else
      let (_, c) := c.takeWhile fun ch => ch == ' ' || ch == '\t'
      if c.atBreak then quotedBreaks n c.advance (breaks ++ [c.breakChar]) else .ok (breaks, c)

/-- White space inside a quoted scalar, folded if it has a break. -/
def quotedGap (c : Cursor) : Except Error (List Char × Cursor) :=
  let (spaces, c) := c.takeWhile fun ch => ch == ' ' || ch == '\t'
  if c.rest.isEmpty then .error .malformed
  else if c.atBreak then do
    let (breaks, next) ← quotedBreaks (c.rest.length + 1) c.advance []
    .ok (folded c.breakChar breaks, next)
  else .ok (spaces, c)

/-- Escapes of one character. -/
def shortEscapes : List (Char × Nat) :=
  [('0', 0), ('a', 7), ('b', 8), ('t', 9), ('\t', 9), ('n', 10), ('v', 11), ('f', 12), ('r', 13),
   ('e', 27), (' ', 32), ('\"', 34), ('\\', 92), ('/', 47), ('N', 0x85), ('_', 0xa0),
   ('L', 0x2028), ('P', 0x2029)]

/-- Escapes by a number of hexadecimal digits. -/
def longEscapes : List (Char × Nat) := [('x', 2), ('u', 4), ('U', 8)]

/-- The character of an escape, behind its backslash. -/
def readEscape (c : Cursor) : Except Error (Char × Cursor) :=
  match c.peek with
  | none => .error .malformed
  | some ch =>
    match shortEscapes.lookup ch with
    | some n => .ok (Char.ofNat n, c.advance)
    | none =>
      match longEscapes.lookup ch with
      | none => .error .malformed
      | some width =>
        let ds := (c.rest.drop 1).take width
        match ds.mapM Json.hexValue? with
        | none => .error .malformed
        | some vs =>
          if vs.length < width then .error .malformed
          else
            let n := vs.foldl (fun n v => 16 * n + v) 0
            if 0x80000000 ≤ n then .error .escapeTooLarge
            else if 0x110000 ≤ n then .error .noSuchValue
            else .ok (Char.ofNat n, c.advanceBy (width + 1))

/-- A quoted scalar behind its opening mark and the part `done` of it. Each step takes a
character. -/
def quotedFrom (mark : Char) : Nat → List Char → Cursor → Except Error (List Char × Cursor)
  | 0, _, _ => .error .malformed
  | n + 1, done, c =>
    match c.peek with
    | none => .error .malformed
    | some ch =>
      if isGap (some ch) then do
        let (gap, c) ← quotedGap c
        quotedFrom mark n (done ++ gap) c
      else if ch = mark then
        if mark = '\'' ∧ c.peekAt 1 = some '\'' then quotedFrom mark n (done ++ ['\'']) (c.advanceBy 2)
        else .ok (done, c.advance)
      else if ch = '\\' ∧ mark = '\"' then
        let c := c.advance
        if c.atBreak then do
          let (breaks, c) ← quotedBreaks (c.rest.length + 1) c.advance []
          quotedFrom mark n (done ++ breaks) c
        else do
          let (d, c) ← readEscape c
          quotedFrom mark n (done ++ [d]) c
      else quotedFrom mark n (done ++ [ch]) c.advance

end Formulary.Yaml
