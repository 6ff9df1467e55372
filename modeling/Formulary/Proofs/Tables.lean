import Formulary.Table
/-!
# What tables hold

A key occurs in a table when it has a value there; what a table of a list holds is in the list; and a
function that is applied to every value is applied to the one that is found.
-/

set_option autoImplicit false
namespace Formulary.Table
variable {κ α β : Type} [DecidableEq κ]

theorem contains_iff_mem_keys (t : Table κ α) (k : κ) : t.contains k = true ↔ k ∈ t.keys := by
  unfold contains get? keys
  rw [List.lookup_isSome_iff]
  constructor
  · rintro ⟨e, he, hk⟩
    exact List.mem_map.2 ⟨e, he, (eq_of_beq hk).symm⟩
  · intro h
    obtain ⟨e, he, rfl⟩ := List.mem_map.1 h
    exact ⟨e, he, beq_self_eq_true _⟩

theorem contains_of_get? {t : Table κ α} {k : κ} {v : α} (h : t.get? k = some v) :
    t.contains k = true := by
  unfold contains
  rw [h]
  rfl

theorem contains_eq_false_iff {t : Table κ α} {k : κ} : t.contains k = false ↔ t.get? k = none := by
  unfold contains
  rw [Option.isSome_eq_false_iff, Option.isNone_iff_eq_none]

theorem mem_keys_of_get? {t : Table κ α} {k : κ} {v : α} (h : t.get? k = some v) : k ∈ t.keys :=
  (contains_iff_mem_keys t k).1 (contains_of_get? h)

theorem exists_of_mem_keys {t : Table κ α} {k : κ} (h : k ∈ t.keys) : ∃ v, t.get? k = some v :=
  Option.isSome_iff_exists.1 ((contains_iff_mem_keys t k).2 h)

theorem mem_values_of_get? {t : Table κ α} {k : κ} {v : α} (h : t.get? k = some v) : v ∈ t.values := by
  obtain ⟨before, after, hentries, -⟩ := List.lookup_eq_some_iff.1 h
  have hmem : (k, v) ∈ t.entries := hentries ▸ List.mem_append_right _ List.mem_cons_self
  exact List.mem_map_of_mem hmem

theorem get?_of_mem {t : Table κ α} {k : κ} {v : α} (h : (k, v) ∈ t.entries) : t.get? k = some v := by
  obtain ⟨before, after, hentries⟩ := List.append_of_mem h
  refine List.lookup_eq_some_iff.2 ⟨before, after, hentries, fun e he => ?_⟩
  have hnodup := t.nodup
  rw [hentries, List.map_append, List.map_cons] at hnodup
  have hne := List.nodup_append.1 hnodup
  refine bne_iff_ne.2 fun heq => ?_
  exact hne.2.2 _ (List.mem_map_of_mem he) _ List.mem_cons_self heq.symm

theorem get?_of_mem_values {t : Table κ α} {v : α} (h : v ∈ t.values) : ∃ k, t.get? k = some v := by
  obtain ⟨⟨k, v⟩, hmem, rfl⟩ := List.mem_map.1 h
  exact ⟨k, get?_of_mem hmem⟩

/-- Where the values know their keys, the keys can be read off them. -/
theorem keys_eq_map_values {t : Table κ α} {key : α → κ} (h : ∀ k v, t.get? k = some v → key v = k) :
    t.keys = t.values.map key := by
  change t.entries.map Prod.fst = (t.entries.map Prod.snd).map key
  rw [List.map_map]
  exact List.map_congr_left fun e he => (h e.1 e.2 (get?_of_mem he)).symm

omit [DecidableEq κ] in
theorem eq_of_entries {t t' : Table κ α} (h : t.entries = t'.entries) : t = t' := by
  cases t
  cases t'
  cases h
  rfl

theorem put_put (k : κ) (v w : α) (es : List (κ × α)) : put k w (put k v es) = put k w es := by
  induction es with
  | nil => exact if_pos rfl
  | cons e es ih =>
    by_cases h : e.1 = k
    · simp only [put, h, if_true]
    · simp only [put, h, if_false, ih]

/-- Of two values under one key the second one stays. -/
theorem insert_insert (t : Table κ α) (k : κ) (v w : α) : (t.insert k v).insert k w = t.insert k w :=
  eq_of_entries (put_put k v w t.entries)

theorem put_map (f : α → β) (k : κ) (v : α) (es : List (κ × α)) :
    (put k v es).map (fun e => (e.1, f e.2)) = put k (f v) (es.map fun e => (e.1, f e.2)) := by
  induction es with
  | nil => rfl
  | cons e es ih =>
    by_cases h : e.1 = k
    · simp only [put, h, List.map_cons, if_true]
    · simp only [put, h, List.map_cons, if_false, ih]

theorem map_insert (f : α → β) (t : Table κ α) (k : κ) (v : α) :
    (t.insert k v).map f = (t.map f).insert k (f v) := eq_of_entries (put_map f k v t.entries)

omit [DecidableEq κ] in
theorem values_map (f : α → β) (t : Table κ α) : (t.map f).values = t.values.map f := by
  change (t.entries.map fun e => (e.1, f e.2)).map Prod.snd = (t.entries.map Prod.snd).map f
  rw [List.map_map, List.map_map]
  rfl

omit [DecidableEq κ] in
theorem keys_map (f : α → β) (t : Table κ α) : (t.map f).keys = t.keys := by
  change (t.entries.map fun e => (e.1, f e.2)).map Prod.fst = t.entries.map Prod.fst
  rw [List.map_map]
  rfl

theorem get?_map (f : α → β) (t : Table κ α) (k : κ) : (t.map f).get? k = (t.get? k).map f := by
  change (t.entries.map fun e => (e.1, f e.2)).lookup k = (t.entries.lookup k).map f
  induction t.entries with
  | nil => rfl
  | cons e es ih =>
    rw [List.map_cons, List.lookup_cons, List.lookup_cons, ih]
    cases k == e.1 <;> rfl

theorem contains_map (f : α → β) (t : Table κ α) (k : κ) : (t.map f).contains k = t.contains k := by
  unfold contains
  rw [get?_map, Option.isSome_map]

theorem contains_insert_of_ne {t : Table κ α} {k k' : κ} {v : α} (h : k' ≠ k) :
    (t.insert k v).contains k' = t.contains k' := by
  unfold contains
  rw [get?_insert, if_neg h]

theorem get?_insert_eq_some_iff {t : Table κ α} {k k' : κ} {v v' : α} :
    (t.insert k v).get? k' = some v' ↔ (k' = k ∧ v' = v) ∨ k ≠ k' ∧ t.get? k' = some v' := by
  rw [get?_insert]
  by_cases h : k' = k
  · simp [h, eq_comm]
  · simp [h, Ne.symm h]

theorem get?_insertAll {t : Table κ α} {es : List (κ × α)} {k : κ} {v : α}
    (h : (t.insertAll es).get? k = some v) : (k, v) ∈ es ∨ t.get? k = some v := by
  induction es generalizing t with
  | nil => exact .inr h
  | cons e es ih =>
    rcases ih h with hes | ht
    · exact .inl (List.mem_cons_of_mem e hes)
    · rw [get?_insert] at ht
      split at ht
      · rename_i hk
        cases ht
        rw [hk]
        exact .inl List.mem_cons_self
      · exact .inr ht

theorem get?_insertAll_of_not_mem {es : List (κ × α)} {k : κ} (h : k ∉ es.map Prod.fst)
    (t : Table κ α) : (t.insertAll es).get? k = t.get? k := by
  induction es generalizing t with
  | nil => rfl
  | cons e es ih =>
    rw [List.map_cons, List.mem_cons, not_or] at h
    have hrest : (t.insertAll (e :: es)).get? k = (t.insert e.1 e.2).get? k := ih h.2 _
    rw [hrest, get?_insert, if_neg h.1]

theorem mem_of_get?_ofList {es : List (κ × α)} {k : κ} {v : α} (h : (ofList es).get? k = some v) :
    (k, v) ∈ es := by
  rcases get?_insertAll h with hes | hempty
  · exact hes
  · cases hempty

end Formulary.Table
