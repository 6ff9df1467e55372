import Formulary.DocumentReader
import Formulary.Yaml.Node
import Formulary.Yaml.Resolution
/-!
# Data of a document

Plain scalars stand for values, quoted ones for texts. A mapping may take over the entries of others
under the merge key. Collections are filled level by level from the root on: of several faults the one
that is least deep counts, and of equally deep ones the first. This is a reader of documents without
anchors, tags, block scalars and directives.
-/

set_option autoImplicit false
namespace Formulary.Yaml

/-- A fault inside of a node, and how many collections lie around it in that node. -/
structure Flaw where
  depth : Nat
  error : Error
  deriving DecidableEq, Repr

/-- The flaw as it lies in the collection around the node. -/
def Flaw.deeper (f : Flaw) : Flaw := { f with depth := f.depth + 1 }

/-- What a node stands for, or the flaw that counts. -/
abbrev Reading (α : Type) : Type := Except Flaw α

namespace Reading
variable {α β : Type}

/-- Two readings; of two flaws that are equally deep the first counts. -/
def both : Reading α → Reading β → Reading (α × β)
  | .ok a, .ok b => .ok (a, b)
  | .error f, .error g => .error (if f.depth ≤ g.depth then f else g)
  | .error f, .ok _ | .ok _, .error f => .error f

/-- All of the readings. -/
def all (rs : List (Reading α)) : Reading (List α) :=
  rs.foldr (fun r rs => (both r rs).map fun (a, as) => a :: as) (.ok [])

/-- The readings inside of a collection. -/
def inside (rs : List (Reading α)) : Reading (List α) := (all rs).mapError Flaw.deeper

end Reading

/-- The key whose value is merged into the mapping around it. -/
def mergeKey : String := "<<"

/-- A plain scalar that is a mark and no value; as a key it is a text. -/
def valueMark : String := "="

def isMergeKey : Node → Bool
  | .scalar text plain => plain && text == mergeKey
  | _ => false

/-- The value of a scalar. -/
def scalarDatum (text : String) (plain : Bool) : Except Error Datum :=
  if !plain then .ok (.text text)
  else if text == mergeKey || text == valueMark then .error .malformed
  else resolve text

/-- The value of a key, which is a scalar. -/
def Node.keyDatum : Node → Reading Datum
  | .scalar text plain =>
    if plain && text == valueMark then .ok (.text text)
    else (scalarDatum text plain).mapError (⟨0, ·⟩)
  | _ => .error ⟨0, .malformed⟩

mutual

/-- The value of a node. -/
def Node.datum : Node → Reading Datum
  | .scalar text plain => (scalarDatum text plain).mapError (⟨0, ·⟩)
  | .sequence items => (Reading.inside (itemData items)).map .list
  | .mapping entries =>
    match entryData entries with
    | none => .error ⟨1, .malformed⟩
    | some (merged, own) =>
      (Reading.inside (merged ++ own)).map fun entries => .map (Datum.enterAll entries [])

def itemData : List Node → List (Reading Datum)
  | [] => []
  | d :: ds => d.datum :: itemData ds

/-- The entries that a mapping takes over, and its own ones; none if it would take over something that
has no entries. -/
def entryData :
    List (Node × Node) → Option (List (Reading (Datum × Datum)) × List (Reading (Datum × Datum)))
  | [] => some ([], [])
  | (k, v) :: es =>
    if isMergeKey k then
      match v.mergedData, entryData es with
      | some entries, some (merged, own) => some (entries ++ merged, own)
      | _, _ => none
    else (entryData es).map fun (merged, own) => (merged, Reading.both k.keyDatum v.datum :: own)

/-- The entries to be taken over from a mapping, or from a sequence of mappings, the first of which
counts most. -/
def Node.mergedData : Node → Option (List (Reading (Datum × Datum)))
  | .scalar _ _ => none
  | .sequence items => mergedItems items
  | .mapping entries => (entryData entries).map fun (merged, own) => merged ++ own

def mergedItems : List Node → Option (List (Reading (Datum × Datum)))
  | [] => some []
  | .mapping entries :: ds =>
    match entryData entries, mergedItems ds with
    | some (merged, own), some more => some (more ++ merged ++ own)
    | _, _ => none
  | _ :: _ => none

end

/-- Ends every line with a line feed alone. -/
def unifyBreaks : List Char → List Char
  | '\r' :: '\n' :: rest => '\n' :: unifyBreaks rest
  | '\r' :: rest => '\n' :: unifyBreaks rest
  | c :: rest => c :: unifyBreaks rest
  | [] => []

/-- The value of a document; nothing written is null. -/
def read (s : String) : Except Error Datum := do
  match ← Node.ofTokens (Token.scan (unifyBreaks s.toList)) with
  | none => .ok .null
  | some node => node.datum.mapError Flaw.error

/-- What the error means to those who use the reader. -/
def Error.toDocumentError : Error → DocumentError
  | .malformed => .malformed "the document is not well formed"
  | .noSuchValue => .raised "ValueError"
  | .escapeTooLarge => .raised "OverflowError"

/-- The reader of plain documents. -/
def reader : DocumentReader := fun s => (read s).mapError Error.toDocumentError

end Formulary.Yaml
