import Formulary.Event
import Formulary.Proofs.JsonReading
/-!
# Strict data

The context of an event is recorded with texts for keys, each of them once, without numbers that are not
finite, and with lists for tuples and sets. So it can be read back unless one of its integers has too many
digits to be written.
-/

set_option autoImplicit false
namespace Formulary

namespace Datum

theorem sameKey_text_self (s : String) : (text s).sameKey (.text s) = true := beq_self_eq_true s

theorem keys_putEntry (name : String) (v : Datum) (es : List (Datum × Datum)) :
    (putEntry (.text name) v es).map Prod.fst = es.map Prod.fst ∨
      .text name ∉ es.map Prod.fst ∧
        (putEntry (.text name) v es).map Prod.fst = es.map Prod.fst ++ [.text name] := by
  induction es with
  | nil => exact .inr ⟨List.not_mem_nil, rfl⟩
  | cons e es ih =>
    rw [putEntry]
    split
    · exact .inl rfl
    · rename_i hsame
      have hne : ¬ text name = e.1 := by
        intro heq
        rw [← heq] at hsame
        exact hsame (sameKey_text_self name)
      rw [List.map_cons, List.map_cons, List.cons_append]
      rcases ih with hkeys | ⟨hnew, hkeys⟩
      · exact .inl (congrArg _ hkeys)
      · exact .inr ⟨fun hmem => (List.mem_cons.1 hmem).elim hne hnew, congrArg _ hkeys⟩

theorem mem_putEntry {k v : Datum} {es : List (Datum × Datum)} {e : Datum × Datum}
    (h : e ∈ putEntry k v es) : e ∈ es ∨ e.2 = v := by
  induction es with
  | nil => exact .inr (congrArg Prod.snd (List.mem_singleton.1 h))
  | cons f fs ih =>
    rw [putEntry] at h
    split at h
    · rcases List.mem_cons.1 h with rfl | hfs
      · exact .inr rfl
      · exact .inl (List.mem_cons_of_mem f hfs)
    · rcases List.mem_cons.1 h with rfl | hfs
      · exact .inl List.mem_cons_self
      · exact (ih hfs).imp_left (List.mem_cons_of_mem f)

/-- Whether entries have different texts for keys. -/
structure TextKeys (es : List (Datum × Datum)) : Prop where
  text : ∀ k ∈ es.map Prod.fst, ∃ name, k = .text name
  nodup : (es.map Prod.fst).Nodup

theorem textKeys_nil : TextKeys [] := ⟨List.forall_mem_nil _, List.nodup_nil⟩

theorem TextKeys.putEntry {es : List (Datum × Datum)} (h : TextKeys es) (name : String) (v : Datum) :
    TextKeys (Datum.putEntry (.text name) v es) := by
  rcases keys_putEntry name v es with hkeys | ⟨hnew, hkeys⟩
  · refine ⟨?_, hkeys ▸ h.nodup⟩
    rw [hkeys]
    exact h.text
  · refine ⟨?_, ?_⟩
    · rw [hkeys]
      exact List.forall_mem_append.2 ⟨h.text, List.forall_mem_singleton.2 ⟨name, rfl⟩⟩
    · rw [hkeys]
      exact List.nodup_append.2 ⟨h.nodup, List.nodup_singleton _, fun a ha b hb heq =>
        hnew (List.mem_singleton.1 hb ▸ heq ▸ ha)⟩

end Datum

namespace Context

theorem strictEntries_fields {fields : List (String × Datum)} (done : List (Datum × Datum))
    (hn : (done.map Prod.fst ++ fields.map fun f => Datum.text f.1).Nodup) :
    strictEntries done (fields.map fun f => (.text f.1, f.2)) =
      done ++ fields.map fun f => (.text f.1, strict f.2) := by
  induction fields generalizing done with
  | nil => exact (List.append_nil done).symm
  | cons f fs ih =>
    have hnew : .text f.1 ∉ done.map Prod.fst := by
      rw [List.map_cons, List.nodup_append] at hn
      exact fun hmem => hn.2.2 _ hmem _ List.mem_cons_self rfl
    have hput := Json.putEntry_of_new (strict f.2) hnew
    have hrest := ih (done ++ [(.text f.1, strict f.2)]) (by
      rw [List.map_append, List.append_assoc]
      exact hn)
    rw [List.map_cons, strictEntries, show Json.keyText (.text f.1) = f.1 from rfl, hput, hrest,
      List.append_assoc]
    rfl

/-- Fields with different names stay as they are but for their values. -/
theorem strict_ofFields {fields : List (String × Datum)} (hn : (fields.map Prod.fst).Nodup) :
    strict (.ofFields fields) = .ofFields (fields.map fun f => (f.1, strict f.2)) := by
  have hkeys : (fields.map fun f => Datum.text f.1).Nodup := by
    have hmap := hn.map fun _ _ heq => Datum.text.inj heq
    rw [List.map_map] at hmap
    exact hmap
  unfold Datum.ofFields
  rw [strict, strictEntries_fields [] hkeys, List.map_map]
  rfl

theorem textKeys_strictEntries {done : List (Datum × Datum)} (h : Datum.TextKeys done)
    (es : List (Datum × Datum)) : Datum.TextKeys (strictEntries done es) := by
  induction es generalizing done with
  | nil => exact h
  | cons e es ih => exact ih (h.putEntry _ _)

theorem mem_strictEntries {done es : List (Datum × Datum)} {e : Datum × Datum}
    (h : e ∈ strictEntries done es) : e ∈ done ∨ ∃ f ∈ es, e.2 = strict f.2 := by
  induction es generalizing done with
  | nil => exact .inl h
  | cons f fs ih =>
    rcases ih h with hput | ⟨g, hg, heq⟩
    · exact (Datum.mem_putEntry hput).imp_right fun heq => ⟨f, List.mem_cons_self, heq⟩
    · exact .inr ⟨g, List.mem_cons_of_mem f hg, heq⟩

theorem strictItems_eq (items : List Datum) : strictItems items = items.map strict := by
  induction items with
  | nil => rfl
  | cons d ds ih => rw [strictItems, List.map_cons, ih]

/-- Strict data can be read back unless an integer has too many digits. -/
theorem legible_strict (d : Datum) (h : (strict d).isShowable = true) : (strict d).Legible := by
  induction d using Datum.value_induction with
  | scalar d hscalar =>
    cases d with
    | null => exact .null
    | bool b => exact .bool b
    | int n =>
      rw [strict, Datum.isShowable_int] at h
      exact .int h
    | float x =>
      rw [strict]
      split
      · rename_i hfinite
        exact .float hfinite
      · exact .null
    | text s => exact .text s
    | broken t => exact .broken t
    | bytes bs => exact .text _
    | date d => exact .date d
    | moment m => exact .moment m
    | list | tuple | set | map => cases hscalar
  | list items ih | tuple items ih | set items ih =>
    rw [strict, strictItems_eq] at h ⊢
    refine .list fun d hd => ?_
    have hshow := Datum.isShowable_of_mem_list h d hd
    obtain ⟨item, hitem, rfl⟩ := List.mem_map.1 hd
    exact ih item hitem hshow
  | map entries ih =>
    rw [strict] at h ⊢
    have hkeys := textKeys_strictEntries Datum.textKeys_nil entries
    refine .map (fun e he => hkeys.text e.1 (List.mem_map_of_mem he)) hkeys.nodup fun e he => ?_
    have hshow := (Datum.isShowable_of_mem_map h e he).2
    rcases mem_strictEntries he with hnone | ⟨f, hf, heq⟩
    · exact absurd hnone List.not_mem_nil
    · rw [heq] at hshow ⊢
      exact ih f hf hshow

end Context
end Formulary
