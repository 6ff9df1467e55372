import Formulary.Event
import Formulary.Json.Parser
import Formulary.Project
import Formulary.Text.Lines
/-!
# Journals

The journal of a project is a file with one JSON object a line. Events are only ever added at its
end. It is read from the last bytes of the file, newest event first; lines that are no JSON objects
are skipped.
-/

set_option autoImplicit false
namespace Formulary

/-- The journal of a project. -/
structure Journal where
  path : Path
  /-- Whether each event is forced to the disk. -/
  fsync : Bool
  /-- How many bytes at the end of the file are read. -/
  tailBytes : Int
  deriving DecidableEq, Repr

/-- Why an event is not written to a journal. -/
inductive WriteError where
  | data (error : Json.DumpError)
  | file (fault : FileFault)
  deriving DecidableEq, Repr

namespace WriteError

def name : WriteError → String
  | data e => e.name
  | file f => f.error.name

def message : WriteError → String
  | data e => e.message
  | file f => f.message

end WriteError

/-- Why a journal cannot be read. -/
inductive ReadError where
  | file (fault : FileFault)
  /-- An integer in a line has more digits than are read. -/
  | tooManyDigits
  /-- The context of a record is no map, though a formula is looked for in it. -/
  | contextNotMap
  /-- The part to be read begins beyond any place in a file. -/
  | cutTooFar
  deriving DecidableEq, Repr

/-- A line of a journal as data: values by name. -/
abbrev Record := List (Datum × Datum)

/-- Which records are wanted. -/
structure Filter where
  level : Option Datum
  kind : Option Datum
  errorCode : Option Datum
  formula : Option Datum
  limit : Int

namespace Filter

def defaultLimit : Int := 200

/-- No more records than these are given. -/
def maxLimit : Int := 2000

/-- All records, up to the default limit. -/
def any : Filter := ⟨none, none, none, none, defaultLimit⟩

/-- Whether a value is the wanted one, if one is wanted. -/
def wants (wanted : Option Datum) (value : Option Datum) : Bool :=
  wanted.all fun w => (value.getD .null).sameScalar w

/-- Whether a record is wanted. The formula is looked at last. -/
def accepts (f : Filter) (r : Record) : Except ReadError Bool :=
  if wants f.level (Datum.field? "level" r) && wants f.kind (Datum.field? "event_type" r) &&
      wants f.errorCode (Datum.field? "error_code" r) then
    match f.formula with
    | none => .ok true
    | some formula =>
      match (Datum.field? "context" r).getD (.map []) with
      | .map context => .ok (wants (some formula) (Datum.field? "formula" context))
      | _ => .error .contextNotMap
  else .ok false

/-- How many records end a search; it always goes on to the first one. -/
def count (f : Filter) : Nat := (max 1 (min f.limit maxLimit)).toNat

/-- The first `n` wanted records. -/
def select (f : Filter) : Nat → List Record → Except ReadError (List Record)
  | _, [] => .ok []
  | n, r :: rs =>
    match f.accepts r with
    | .error e => .error e
    | .ok false => f.select n rs
    | .ok true =>
      if n ≤ 1 then .ok [r] else (f.select (n - 1) rs).map (r :: ·)

end Filter

namespace Journal

def fileName : String := "events.ndjson"

/-- The journal of a project directory; its own directory is made if it is missing. -/
def openAt (t : FileTree) (dir : Path) (fsync : Bool) (tailBytes : Option Int) :
    FileTree × Except FileFault Journal :=
  let place := dir ++ [Project.journalDirectory]
  let (t, x) := t.makeDirectories place
  (t, x.map fun () => ⟨place ++ [fileName], fsync, tailBytes.getD Project.defaultTailBytes⟩)

/-- The line of an event. -/
def lineOf (e : Event) : String := Json.line e.record ++ "\n"

/-- Adds an event at the end. -/
def write (j : Journal) (t : FileTree) (e : Event) : Except WriteError FileTree :=
  match e.dumpError? with
  | some error => .error (.data error)
  | none => (t.append j.path (lineOf e)).mapError .file

/-- The text behind the first line end that lies at or behind the byte with offset `n`. -/
def afterCut : Nat → List Char → List Char
  | _, [] => []
  | n, c :: cs => if n = 0 ∧ c = '\n' then cs else afterCut (n - c.utf8Size) cs

/-- Where the part of a text that is read begins. -/
def cutAt (tailBytes : Int) (text : String) : Int := (text.utf8ByteSize : Int) - tailBytes

/-- No place in a file lies further from its start. -/
def maxOffset : Int := 9223372036854775807

/-- The end of a text that is read: all of it if it fits, else the whole lines that begin behind the
cut. -/
def tail (tailBytes : Int) (text : String) : List Char :=
  let start := cutAt tailBytes text
  if 0 < start then afterCut start.toNat text.toList else text.toList

/-- The records of the lines that are JSON objects, in front of those of the lines before them, so
that the last one comes first. -/
def recordsFrom (earlier : List Record) : List (List Char) → Except ReadError (List Record)
  | [] => .ok earlier
  | l :: ls =>
    match Json.parse l with
    | .ok (.map r) => recordsFrom (r :: earlier) ls
    | .error .tooManyDigits => .error .tooManyDigits
    | _ => recordsFrom earlier ls

/-- All records in the part that is read, newest first. -/
def records (j : Journal) (t : FileTree) : Except ReadError (List Record) :=
  match t.pathExists j.path with
  | .error f => .error (.file f)
  | .ok false => .ok []
  | .ok true => do
    let text ← (t.read j.path).mapError .file
    if maxOffset < cutAt j.tailBytes text then .error .cutTooFar
    recordsFrom [] (Text.splitLines (tail j.tailBytes text))

/-- The wanted records, newest first. -/
def read (j : Journal) (t : FileTree) (f : Filter) : Except ReadError (List Record) := do
  let rs ← j.records t
  f.select f.count rs

end Journal
end Formulary
