import Formulary.Calendar
import Formulary.Text.Surrogates
/-!
# Dynamic data

The values that settings files and event contexts hold: scalars, lists, tuples, sets and maps. A map
keeps its entries in order, and a set its items in the order in which they are gone through. Two keys
are the same when they are equal scalars, and numbers of different kinds are equal when their values
are. Not-a-number equals nothing, but as a key it is one key.
-/

set_option autoImplicit false
namespace Formulary

/-- A value of a settings file or an event context. -/
inductive Datum where
  | null
  | bool (b : Bool)
  | int (n : Int)
  | float (x : Float)
  | text (s : String)
  /-- A text that is no sequence of characters. -/
  | broken (t : BrokenText)
  | bytes (bs : List UInt8)
  | date (d : Date)
  | moment (m : Moment)
  | list (items : List Datum)
  | tuple (items : List Datum)
  | set (items : List Datum)
  | map (entries : List (Datum × Datum))
  deriving Inhabited

namespace Datum

/-- Whether a value counts as given: it is not empty, zero, false or null. -/
def truthy : Datum → Bool
  | null => false
  | bool b => b
  | int n => n != 0
  | float x => x != 0.0
  | text s => !s.isEmpty
  | bytes bs => !bs.isEmpty
  | broken _ | date _ | moment _ => true
  | list items | tuple items | set items => !items.isEmpty
  | map entries => !entries.isEmpty

/-- Whether an integer and a number of 64 bits have the same value. -/
def sameNumber (n : Int) (x : Float) : Bool :=
  Binary64.isIntegral x && Binary64.truncate? x == some n

/-- Equality of scalars; what holds other values equals no scalar. -/
def sameScalar : Datum → Datum → Bool
  | null, null => true
  | text s, text t => s == t
  | broken s, broken t => s == t
  | bytes a, bytes b => a == b
  | float x, float y => x == y
  | float x, bool b | bool b, float x => sameNumber b.toNat x
  | float x, int n | int n, float x => sameNumber n x
  | bool b, bool c => b == c
  | bool b, int n | int n, bool b => n == b.toNat
  | int m, int n => m == n
  | date d, date e => d == e
  | moment a, moment b => a.same b
  | _, _ => false

/-- Whether two scalars are the same key. -/
def sameKey : Datum → Datum → Bool
  | float x, float y => x == y || (x != x && y != y)
  | k, l => k.sameScalar l

/-- Whether a value holds no other values. -/
def isScalar : Datum → Bool
  | list _ | tuple _ | set _ | map _ => false
  | _ => true

/-- Whether a value is a text that is no sequence of characters. -/
def isBroken : Datum → Bool
  | broken _ => true
  | _ => false

mutual

/-- Whether a value can be the key of a map. -/
def isKey : Datum → Bool
  | list _ | set _ | map _ => false
  | tuple items => areKeys items
  | _ => true

def areKeys : List Datum → Bool
  | [] => true
  | d :: ds => isKey d && areKeys ds

end

/-- Replaces the value of a key that occurs, in its place, and adds a new key at the end. -/
def putEntry (k v : Datum) : List (Datum × Datum) → List (Datum × Datum)
  | [] => [(k, v)]
  | e :: es => if e.1.sameKey k then (e.1, v) :: es else e :: putEntry k v es

/-- Enters entries one after the other. -/
def enterAll (entries into : List (Datum × Datum)) : List (Datum × Datum) :=
  entries.foldl (fun es e => putEntry e.1 e.2 es) into

/-- The value under a text key. -/
def field? (name : String) : List (Datum × Datum) → Option Datum
  | [] => none
  | (text k, v) :: es => if k = name then some v else field? name es
  | _ :: es => field? name es

/-- A map with text keys. -/
def ofFields (fields : List (String × Datum)) : Datum :=
  map (fields.map fun f => (text f.1, f.2))

/-- The text of code points. -/
def ofCodes (ps : List CodePoint) (h : CodePoint.isUnpaired ps = true) : Datum :=
  match hchars : CodePoint.chars? ps with
  | some cs => text (String.ofList cs)
  | none => broken ⟨ps, h, hchars⟩

theorem ofCodes_of_chars? {ps : List CodePoint} {h : CodePoint.isUnpaired ps = true} {cs : List Char}
    (hcs : CodePoint.chars? ps = some cs) : ofCodes ps h = .text (String.ofList cs) := by
  unfold ofCodes
  split
  · rename_i cs' hcs'
    rw [hcs, Option.some_inj] at hcs'
    rw [hcs']
  · rename_i hnone
    rw [hcs] at hnone
    cases hnone

theorem ofCodes_codes (t : BrokenText) : ofCodes t.codes t.unpaired = .broken t := by
  unfold ofCodes
  split
  · rename_i cs hcs
    rw [t.broken] at hcs
    cases hcs
  · rfl

/-- The text of units of UTF-16. -/
def ofUnits (ps : List CodePoint) : Datum := ofCodes (CodePoint.pair ps) (CodePoint.isUnpaired_pair ps)

/-- Induction over the values inside of a value; the keys of maps are left alone. -/
@[elab_as_elim]
theorem value_induction {motive : Datum → Prop} (scalar : ∀ d, d.isScalar = true → motive d)
    (list : ∀ items, (∀ d ∈ items, motive d) → motive (.list items))
    (tuple : ∀ items, (∀ d ∈ items, motive d) → motive (.tuple items))
    (set : ∀ items, (∀ d ∈ items, motive d) → motive (.set items))
    (map : ∀ entries, (∀ e ∈ entries, motive e.2) → motive (.map entries)) : ∀ d, motive d
  | .list items => list items fun d _ => value_induction scalar list tuple set map d
  | .tuple items => tuple items fun d _ => value_induction scalar list tuple set map d
  | .set items => set items fun d _ => value_induction scalar list tuple set map d
  | .map entries => map entries fun e _ => value_induction scalar list tuple set map e.2
  | .null => scalar _ rfl
  | .bool _ => scalar _ rfl
  | .int _ => scalar _ rfl
  | .float _ => scalar _ rfl
  | .text _ => scalar _ rfl
  | .broken _ => scalar _ rfl
  | .bytes _ => scalar _ rfl
  | .date _ => scalar _ rfl
  | .moment _ => scalar _ rfl
termination_by d => sizeOf d
decreasing_by
  iterate 3
    rename_i hmem
    have hitem := List.sizeOf_lt_of_mem hmem
    simp only [Datum.list.sizeOf_spec, Datum.tuple.sizeOf_spec, Datum.set.sizeOf_spec]
    omega
  · rename_i hmem
    have hentry := List.sizeOf_lt_of_mem hmem
    have hvalue : sizeOf e = 1 + sizeOf e.1 + sizeOf e.2 := rfl
    rw [Datum.map.sizeOf_spec]
    omega

end Datum
end Formulary
