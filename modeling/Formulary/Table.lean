/-!
# Tables in insertion order

A finite map from keys to values that remembers the order in which its keys were first entered.
Entering a key again replaces its value and keeps its place; `keys_insert` says so.
-/

set_option autoImplicit false
namespace Formulary

/-- A finite map from keys to values, in the order of first entry. -/
structure Table (κ α : Type) where
  entries : List (κ × α)
  nodup : (entries.map Prod.fst).Nodup

namespace Table
variable {κ α β : Type}

section
variable [DecidableEq κ]

/-- Replaces the value of a key that occurs, in its place, and adds a new key at the end. -/
def put (k : κ) (v : α) : List (κ × α) → List (κ × α)
  | [] => [(k, v)]
  | e :: es => if e.1 = k then (k, v) :: es else e :: put k v es

theorem map_fst_put (k : κ) (v : α) (es : List (κ × α)) :
    (put k v es).map Prod.fst =
      if k ∈ es.map Prod.fst then es.map Prod.fst else es.map Prod.fst ++ [k] := by
  induction es with
  | nil => rfl
  | cons e es ih =>
    by_cases h : e.1 = k
    · simp [put, h]
    · have h' : ¬k = e.1 := fun hk => h hk.symm
      simp only [put, h, if_false, List.map_cons, ih, List.mem_cons, h', false_or]
      split <;> simp

end

/-- The keys, in order. -/
def keys (t : Table κ α) : List κ := t.entries.map Prod.fst

/-- The values, in order. -/
def values (t : Table κ α) : List α := t.entries.map Prod.snd

/-- A table without keys. -/
def empty : Table κ α := ⟨[], List.nodup_nil⟩

instance : Inhabited (Table κ α) := ⟨empty⟩
instance : EmptyCollection (Table κ α) := ⟨empty⟩

/-- Applies a function to every value. -/
def map (f : α → β) (t : Table κ α) : Table κ β where
  entries := t.entries.map fun e => (e.1, f e.2)
  nodup := by
    have h : (Prod.fst ∘ fun e : κ × α => (e.1, f e.2)) = Prod.fst := rfl
    rw [List.map_map, h]
    exact t.nodup

variable [DecidableEq κ]

/-- Enters a value under a key. -/
def insert (t : Table κ α) (k : κ) (v : α) : Table κ α where
  entries := put k v t.entries
  nodup := by
    rw [map_fst_put]
    split
    · exact t.nodup
    · rename_i h
      refine List.nodup_append.2 ⟨t.nodup, by simp, ?_⟩
      intro a ha b hb hab
      rw [List.mem_singleton] at hb
      exact h (hb ▸ hab ▸ ha)

/-- Enters all pairs, one after the other. -/
def insertAll (t : Table κ α) (es : List (κ × α)) : Table κ α :=
  es.foldl (fun t e => t.insert e.1 e.2) t

/-- The table of a list of pairs; of a repeated name the last value counts. -/
def ofList (es : List (κ × α)) : Table κ α := insertAll empty es

/-- The value under a key. -/
def get? (t : Table κ α) (k : κ) : Option α := t.entries.lookup k

/-- Whether a key occurs. -/
def contains (t : Table κ α) (k : κ) : Bool := (t.get? k).isSome

theorem keys_insert (t : Table κ α) (k : κ) (v : α) :
    (t.insert k v).keys = if k ∈ t.keys then t.keys else t.keys ++ [k] :=
  map_fst_put k v t.entries

theorem lookup_put (k k' : κ) (v : α) (es : List (κ × α)) :
    (put k v es).lookup k' = if k' = k then some v else es.lookup k' := by
  induction es with
  | nil =>
    by_cases h : k' = k
    · simp [put, h]
    · simp [put, List.lookup_cons, beq_eq_false_iff_ne.2 h, h]
  | cons e es ih =>
    obtain ⟨a, b⟩ := e
    by_cases h : a = k
    · subst h
      by_cases h' : k' = a
      · simp [put, h']
      · simp [put, List.lookup_cons, beq_eq_false_iff_ne.2 h', h']
    · by_cases h' : k' = a
      · subst h'
        simp [put, h]
      · simp only [put, h, if_false, List.lookup_cons, beq_eq_false_iff_ne.2 h', ih]

@[simp] theorem get?_insert (t : Table κ α) (k k' : κ) (v : α) :
    (t.insert k v).get? k' = if k' = k then some v else t.get? k' :=
  lookup_put k k' v t.entries

end Table
end Formulary
