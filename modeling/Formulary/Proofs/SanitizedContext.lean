import Formulary.Event
import Formulary.Proofs.Tables
import Mathlib.Data.List.Forall2
/-!
# Sanitized contexts

Sanitizing keeps the lists, maps and keys of a context, makes lists of its tuples, and keeps all values in
them but numbers that are not finite, which become their names, and texts that are too long, which are cut.
What is sanitized stays as it is when it is sanitized again, although a text that was cut is longer than one
that need not be.
-/

set_option autoImplicit false
namespace Formulary

namespace CodePoint

theorem eq_map_of_chars? {ps : List CodePoint} {cs : List Char} (h : chars? ps = some cs) :
    ps = cs.map char := by
  induction ps generalizing cs with
  | nil =>
    cases h
    rfl
  | cons p ps ih =>
    rw [chars?] at h
    split at h
    · rename_i c cs' hc hcs
      cases h
      cases p with
      | char d =>
        cases hc
        exact congrArg _ (ih hcs)
      | high | low => cases hc
    · cases h

end CodePoint

namespace Datum

/-- Whether sanitizing does not look into a value: it is no list, tuple or map. -/
def isLeaf : Datum → Bool
  | list _ | tuple _ | map _ => false
  | _ => true

/-- Induction over the values that sanitizing looks into. -/
@[elab_as_elim]
theorem leaf_induction {motive : Datum → Prop} (leaf : ∀ d, d.isLeaf = true → motive d)
    (list : ∀ items, (∀ d ∈ items, motive d) → motive (.list items))
    (tuple : ∀ items, (∀ d ∈ items, motive d) → motive (.tuple items))
    (map : ∀ entries, (∀ e ∈ entries, motive e.2) → motive (.map entries)) (d : Datum) : motive d := by
  induction d using value_induction with
  | scalar d h =>
    refine leaf d ?_
    cases d with
    | list | tuple | set | map => cases h
    | _ => rfl
  | list items ih => exact list items ih
  | tuple items ih => exact tuple items ih
  | set items => exact leaf _ rfl
  | map entries ih => exact map entries ih

mutual

/-- The lists, tuples and maps of a value, with the keys of the maps; all else is left out. -/
def outline : Datum → Datum
  | list items => .list (outlineItems items)
  | tuple items => .tuple (outlineItems items)
  | map entries => .map (outlineEntries entries)
  | null | bool _ | int _ | float _ | text _ | broken _ | bytes _ | date _ | moment _ | set _ => .null

def outlineItems : List Datum → List Datum
  | [] => []
  | d :: ds => outline d :: outlineItems ds

def outlineEntries : List (Datum × Datum) → List (Datum × Datum)
  | [] => []
  | (k, v) :: es => (k, outline v) :: outlineEntries es

end

mutual

/-- A value with lists in place of its tuples. -/
def untupled : Datum → Datum
  | list items | tuple items => .list (untupledItems items)
  | map entries => .map (untupledEntries entries)
  | d => d

def untupledItems : List Datum → List Datum
  | [] => []
  | d :: ds => untupled d :: untupledItems ds

def untupledEntries : List (Datum × Datum) → List (Datum × Datum)
  | [] => []
  | (k, v) :: es => (k, untupled v) :: untupledEntries es

end

mutual

/-- The values inside of a value that are no lists, tuples or maps, in their order. -/
def leaves : Datum → List Datum
  | list items | tuple items => leavesOfItems items
  | map entries => leavesOfEntries entries
  | d => [d]

def leavesOfItems : List Datum → List Datum
  | [] => []
  | d :: ds => leaves d ++ leavesOfItems ds

def leavesOfEntries : List (Datum × Datum) → List Datum
  | [] => []
  | (_, v) :: es => leaves v ++ leavesOfEntries es

end

/-- How many code points a text has. -/
def textLength? : Datum → Option Nat
  | text s => some s.length
  | broken t => some t.codes.length
  | _ => none

theorem outlineItems_eq (ds : List Datum) : outlineItems ds = ds.map outline := by
  induction ds with
  | nil => rfl
  | cons d ds ih => rw [outlineItems, List.map_cons, ih]

theorem outlineEntries_eq (es : List (Datum × Datum)) :
    outlineEntries es = es.map fun e => (e.1, e.2.outline) := by
  induction es with
  | nil => rfl
  | cons e es ih => rw [outlineEntries, List.map_cons, ih]

theorem untupledItems_eq (ds : List Datum) : untupledItems ds = ds.map untupled := by
  induction ds with
  | nil => rfl
  | cons d ds ih => rw [untupledItems, List.map_cons, ih]

theorem untupledEntries_eq (es : List (Datum × Datum)) :
    untupledEntries es = es.map fun e => (e.1, e.2.untupled) := by
  induction es with
  | nil => rfl
  | cons e es ih => rw [untupledEntries, List.map_cons, ih]

theorem leavesOfItems_eq (ds : List Datum) : leavesOfItems ds = ds.flatMap leaves := by
  induction ds with
  | nil => rfl
  | cons d ds ih => rw [leavesOfItems, List.flatMap_cons, ih]

theorem leavesOfEntries_eq (es : List (Datum × Datum)) :
    leavesOfEntries es = es.flatMap fun e => e.2.leaves := by
  induction es with
  | nil => rfl
  | cons e es ih => rw [leavesOfEntries, List.flatMap_cons, ih]

theorem outline_of_isLeaf {d : Datum} (h : d.isLeaf = true) : d.outline = .null := by
  cases d with
  | list | tuple | map => cases h
  | _ => rfl

theorem leaves_of_isLeaf {d : Datum} (h : d.isLeaf = true) : d.leaves = [d] := by
  cases d with
  | list | tuple | map => cases h
  | _ => rfl

theorem isLeaf_of_mem_leaves {d l : Datum} (h : l ∈ d.leaves) : l.isLeaf = true := by
  induction d using leaf_induction with
  | leaf d hleaf =>
    rw [leaves_of_isLeaf hleaf, List.mem_singleton] at h
    rw [h]
    exact hleaf
  | list items ih | tuple items ih =>
    rw [leaves, leavesOfItems_eq, List.mem_flatMap] at h
    obtain ⟨d, hd, hl⟩ := h
    exact ih d hd hl
  | map entries ih =>
    rw [leaves, leavesOfEntries_eq, List.mem_flatMap] at h
    obtain ⟨e, he, hl⟩ := h
    exact ih e he hl

/-- Code points make up a text, of characters or broken. -/
theorem ofCodes_cases (ps : List CodePoint) (h : CodePoint.isUnpaired ps = true) :
    (∃ s : String, ps = s.toList.map .char ∧ ofCodes ps h = .text s) ∨
      ∃ t : BrokenText, ps = t.codes ∧ ofCodes ps h = .broken t := by
  unfold ofCodes
  split
  · rename_i cs hcs
    refine .inl ⟨String.ofList cs, ?_, rfl⟩
    rw [String.toList_ofList]
    exact CodePoint.eq_map_of_chars? hcs
  · exact .inr ⟨_, rfl, rfl⟩

theorem isLeaf_ofCodes {ps : List CodePoint} (h : CodePoint.isUnpaired ps = true) :
    (ofCodes ps h).isLeaf = true := by
  rcases ofCodes_cases ps h with ⟨s, -, htext⟩ | ⟨t, -, hbroken⟩
  · rw [htext]
    rfl
  · rw [hbroken]
    rfl

theorem textLength?_ofCodes {ps : List CodePoint} (h : CodePoint.isUnpaired ps = true) :
    (ofCodes ps h).textLength? = some ps.length := by
  rcases ofCodes_cases ps h with ⟨s, hps, htext⟩ | ⟨t, hps, hbroken⟩
  · rw [htext, hps, List.length_map, String.length_toList]
    rfl
  · rw [hbroken, hps]
    rfl

end Datum

namespace Context

theorem cleanItems_eq (ds : List Datum) : cleanItems ds = ds.map clean := by
  induction ds with
  | nil => rfl
  | cons d ds ih => rw [cleanItems, List.map_cons, ih]

theorem cleanEntries_eq (es : List (Datum × Datum)) :
    cleanEntries es = es.map fun e => (e.1, clean e.2) := by
  induction es with
  | nil => rfl
  | cons e es ih => rw [cleanEntries, List.map_cons, ih]

theorem clean_list (items : List Datum) : clean (.list items) = .list (items.map clean) := by
  rw [clean, cleanItems_eq]

theorem clean_tuple (items : List Datum) : clean (.tuple items) = .list (items.map clean) := by
  rw [clean, cleanItems_eq]

theorem clean_map (entries : List (Datum × Datum)) :
    clean (.map entries) = .map (entries.map fun e => (e.1, clean e.2)) := by
  rw [clean, cleanEntries_eq]

theorem clean_ofFields (fields : List (String × Datum)) :
    clean (.ofFields fields) = .ofFields (fields.map fun f => (f.1, clean f.2)) := by
  unfold Datum.ofFields
  rw [clean_map, List.map_map, List.map_map]
  rfl

theorem clean_broken (t : BrokenText) :
    clean (.broken t) = .ofCodes (cutCodes t.codes) (isUnpaired_cutCodes t.unpaired) := by
  rw [clean]

theorem isLeaf_clean {d : Datum} (h : d.isLeaf = true) : (clean d).isLeaf = true := by
  cases d with
  | float x =>
    rw [clean]
    split
    · rfl
    · rfl
  | broken t =>
    rw [clean_broken]
    exact Datum.isLeaf_ofCodes _
  | list | tuple | map => cases h
  | _ => exact h

/-- Sanitizing keeps lists, maps and keys, and makes lists of tuples. -/
theorem outline_clean (d : Datum) : (clean d).outline = d.outline.untupled := by
  induction d using Datum.leaf_induction with
  | leaf d h =>
    rw [Datum.outline_of_isLeaf h, Datum.outline_of_isLeaf (isLeaf_clean h)]
    rfl
  | list items ih =>
    rw [clean_list, Datum.outline, Datum.outline, Datum.untupled, Datum.outlineItems_eq,
      Datum.outlineItems_eq, Datum.untupledItems_eq, List.map_map, List.map_map]
    exact congrArg _ (List.map_congr_left ih)
  | tuple items ih =>
    rw [clean_tuple, Datum.outline, Datum.outline, Datum.untupled, Datum.outlineItems_eq,
      Datum.outlineItems_eq, Datum.untupledItems_eq, List.map_map, List.map_map]
    exact congrArg _ (List.map_congr_left ih)
  | map entries ih =>
    rw [clean_map, Datum.outline, Datum.outline, Datum.untupled, Datum.outlineEntries_eq,
      Datum.outlineEntries_eq, Datum.untupledEntries_eq, List.map_map, List.map_map]
    exact congrArg _ (List.map_congr_left fun e he => congrArg (Prod.mk e.1) (ih e he))

theorem leaves_clean (d : Datum) : (clean d).leaves = d.leaves.map clean := by
  induction d using Datum.leaf_induction with
  | leaf d h =>
    rw [Datum.leaves_of_isLeaf h, Datum.leaves_of_isLeaf (isLeaf_clean h), List.map_singleton]
  | list items ih =>
    rw [clean_list, Datum.leaves, Datum.leaves, Datum.leavesOfItems_eq, Datum.leavesOfItems_eq,
      List.flatMap_map, List.map_flatMap]
    exact List.flatMap_congr ih
  | tuple items ih =>
    rw [clean_tuple, Datum.leaves, Datum.leaves, Datum.leavesOfItems_eq, Datum.leavesOfItems_eq,
      List.flatMap_map, List.map_flatMap]
    exact List.flatMap_congr ih
  | map entries ih =>
    rw [clean_map, Datum.leaves, Datum.leaves, Datum.leavesOfEntries_eq, Datum.leavesOfEntries_eq,
      List.flatMap_map, List.map_flatMap]
    exact List.flatMap_congr ih

theorem cut_of_short {s : String} (h : s.length ≤ maxText) : cut s = s := if_neg (Nat.not_lt.2 h)

theorem toList_cut_of_long {s : String} (h : maxText < s.length) :
    (cut s).toList = s.toList.take maxText ++ cutMark.toList := by
  unfold cut
  rw [if_pos h, String.toList_append, String.toList_ofList]

theorem length_cut_of_long {s : String} (h : maxText < s.length) :
    (cut s).length = maxText + cutMark.length := by
  have htake : (s.toList.take maxText).length = maxText := by
    rw [List.length_take, String.length_toList]
    omega
  rw [← String.length_toList, toList_cut_of_long h, List.length_append, htake, String.length_toList]

theorem text_of_not_finite {x : Float} (h : Binary64.isFinite x = false) :
    Decimal.text x ∈ ["nan", "inf", "-inf"] := by
  unfold Binary64.isFinite at h
  unfold Decimal.text
  split
  · decide
  · rename_i negative _
    cases negative <;> decide
  · rename_i hshape
    rw [hshape] at h
    cases h

theorem clean_text (s : String) : clean (.text s) = .text (cut s) := by
  rw [clean]

theorem cutCodes_of_short {ps : List CodePoint} (h : ps.length ≤ maxText) : cutCodes ps = ps :=
  if_neg (Nat.not_lt.2 h)

theorem cutCodes_of_long {ps : List CodePoint} (h : maxText < ps.length) :
    cutCodes ps = ps.take maxText ++ cutMark.toList.map .char := if_pos h

theorem length_cutCodes_of_long {ps : List CodePoint} (h : maxText < ps.length) :
    (cutCodes ps).length = maxText + cutMark.length := by
  rw [cutCodes_of_long h, List.length_append, List.length_take, List.length_map, String.length_toList,
    Nat.min_eq_left (Nat.le_of_lt h)]

/-- What was cut is too long, and is cut at the same place again. -/
theorem cutCodes_cutCodes (ps : List CodePoint) : cutCodes (cutCodes ps) = cutCodes ps := by
  by_cases hlong : maxText < ps.length
  · have hagain : maxText < (cutCodes ps).length := by
      rw [length_cutCodes_of_long hlong]
      exact Nat.lt_add_of_pos_right (by decide)
    have htake : (ps.take maxText).length = maxText := by
      rw [List.length_take]
      omega
    rw [cutCodes_of_long hagain, cutCodes_of_long hlong,
      List.take_append_of_le_length (Nat.le_of_eq htake.symm), List.take_of_length_le (Nat.le_of_eq htake)]
  · rw [cutCodes_of_short (Nat.not_lt.1 hlong), cutCodes_of_short (Nat.not_lt.1 hlong)]

theorem cutCodes_map_char (s : String) : cutCodes (s.toList.map .char) = (cut s).toList.map .char := by
  have hlength : (s.toList.map CodePoint.char).length = s.length := by
    rw [List.length_map, String.length_toList]
  by_cases hlong : maxText < s.length
  · rw [cutCodes_of_long (hlength ▸ hlong), toList_cut_of_long hlong, List.map_append, List.map_take]
  · rw [cutCodes_of_short (hlength ▸ Nat.not_lt.1 hlong), cut_of_short (Nat.not_lt.1 hlong)]

theorem cut_cut (s : String) : cut (cut s) = cut s := by
  have hcodes : (cut (cut s)).toList.map CodePoint.char = (cut s).toList.map .char := by
    rw [← cutCodes_map_char, ← cutCodes_map_char, cutCodes_cutCodes]
  exact String.toList_inj.1 (List.map_injective_iff.2 (fun _ _ hc => CodePoint.char.inj hc) hcodes)

/-- A text is cut by its code points, whether it is broken or not. -/
theorem clean_ofCodes {ps : List CodePoint} (h : CodePoint.isUnpaired ps = true) :
    clean (.ofCodes ps h) = .ofCodes (cutCodes ps) (isUnpaired_cutCodes h) := by
  rcases Datum.ofCodes_cases ps h with ⟨s, rfl, htext⟩ | ⟨t, rfl, hbroken⟩
  · have hcut : CodePoint.chars? (cutCodes (s.toList.map .char)) = some (cut s).toList := by
      rw [cutCodes_map_char, CodePoint.chars?_map_char]
    rw [htext, clean_text, Datum.ofCodes_of_chars? hcut, String.ofList_toList]
  · rw [hbroken, clean_broken]

theorem clean_clean (d : Datum) : clean (clean d) = clean d := by
  induction d using Datum.leaf_induction with
  | leaf d h =>
    cases d with
    | float x =>
      rw [clean]
      split
      · rename_i hfinite
        rw [clean, if_pos hfinite]
      · rename_i hfinite
        have hshort : ∀ s ∈ ["nan", "inf", "-inf"], cut s = s := by decide
        rw [clean_text, hshort _ (text_of_not_finite (Bool.eq_false_iff.2 hfinite))]
    | text s => rw [clean_text, clean_text, cut_cut]
    | broken t =>
      rw [clean_broken, clean_ofCodes]
      simp only [cutCodes_cutCodes]
    | list | tuple | map => cases h
    | _ => rfl
  | list items ih =>
    rw [clean_list, clean_list, List.map_map]
    exact congrArg _ (List.map_congr_left ih)
  | tuple items ih =>
    rw [clean_tuple, clean_list, List.map_map]
    exact congrArg _ (List.map_congr_left ih)
  | map entries ih =>
    rw [clean_map, clean_map, List.map_map]
    exact congrArg _ (List.map_congr_left fun e he => congrArg (Prod.mk e.1) (ih e he))

/-- What sanitizing makes of a value that it does not look into. -/
inductive Cleans : Datum → Datum → Prop
  | same {d : Datum} (finite : ∀ x, d = .float x → Binary64.isFinite x = true)
    (short : ∀ n, d.textLength? = some n → n ≤ maxText) : Cleans d d
  | number {x : Float} (h : Binary64.isFinite x = false) : Cleans (.float x) (.text (Decimal.text x))
  | long {s : String} (h : maxText < s.length) :
    Cleans (.text s) (.text (String.ofList (s.toList.take maxText) ++ cutMark))
  | longBroken {t : BrokenText} (h : maxText < t.codes.length) :
    Cleans (.broken t) (.ofCodes (t.codes.take maxText ++ cutMark.toList.map .char)
      (CodePoint.isUnpaired_take_append maxText t.unpaired cutMark.toList))

theorem cleans_clean {d : Datum} (h : d.isLeaf = true) : Cleans d (clean d) := by
  cases d with
  | float x =>
    rw [clean]
    split
    · rename_i hfinite
      exact .same (fun y hy => by cases hy; exact hfinite) nofun
    · rename_i hfinite
      exact .number (Bool.eq_false_iff.2 hfinite)
  | text s =>
    rw [clean_text]
    by_cases hlong : maxText < s.length
    · have hcut : cut s = String.ofList (s.toList.take maxText) ++ cutMark := if_pos hlong
      rw [hcut]
      exact .long hlong
    · rw [cut_of_short (Nat.not_lt.1 hlong)]
      exact .same nofun fun n hn => by cases hn; exact Nat.not_lt.1 hlong
  | broken t =>
    rw [clean_broken]
    by_cases hlong : maxText < t.codes.length
    · simp only [cutCodes_of_long hlong]
      exact .longBroken hlong
    · simp only [cutCodes_of_short (Nat.not_lt.1 hlong), Datum.ofCodes_codes]
      exact .same nofun fun n hn => by cases hn; exact Nat.not_lt.1 hlong
  | list | tuple | map => cases h
  | _ => exact .same nofun nofun

theorem cleans_leaves (d : Datum) : List.Forall₂ Cleans d.leaves (clean d).leaves := by
  rw [leaves_clean, List.forall₂_map_right_iff, List.forall₂_same]
  exact fun l hl => cleans_clean (Datum.isLeaf_of_mem_leaves hl)

theorem cleans_of_mem_leaves {d l' : Datum} (h : l' ∈ (clean d).leaves) : ∃ l, Cleans l l' := by
  rw [leaves_clean] at h
  obtain ⟨l, hl, rfl⟩ := List.mem_map.1 h
  exact ⟨l, cleans_clean (Datum.isLeaf_of_mem_leaves hl)⟩

theorem Cleans.admitted {l l' : Datum} (h : Cleans l l') :
    (∀ x, l' = .float x → Binary64.isFinite x = true) ∧
      ∀ n, l'.textLength? = some n → n ≤ maxText + cutMark.length := by
  cases h with
  | same finite short => exact ⟨finite, fun n hn => Nat.le_add_right_of_le (short n hn)⟩
  | number h =>
    refine ⟨nofun, fun n hn => ?_⟩
    cases hn
    have hshort : ∀ s ∈ ["nan", "inf", "-inf"], s.length ≤ maxText + cutMark.length := by decide
    exact hshort _ (text_of_not_finite h)
  | @long s h =>
    refine ⟨nofun, fun n hn => ?_⟩
    cases hn
    have hcut : cut s = String.ofList (s.toList.take maxText) ++ cutMark := if_pos h
    exact hcut ▸ Nat.le_of_eq (length_cut_of_long h)
  | @longBroken t h =>
    refine ⟨fun x hx => ?_, fun n hn => ?_⟩
    · have hlength := Datum.textLength?_ofCodes
        (CodePoint.isUnpaired_take_append maxText t.unpaired cutMark.toList)
      rw [hx] at hlength
      cases hlength
    · rw [Datum.textLength?_ofCodes, ← cutCodes_of_long h, length_cutCodes_of_long h] at hn
      exact Nat.le_of_eq (Option.some_inj.1 hn).symm

/-- A context as a single value. -/
def datum (c : Context) : Datum := .ofFields c.entries

theorem datum_sanitize (c : Context) : c.sanitize.datum = clean c.datum :=
  (clean_ofFields c.entries).symm

theorem contains_sanitize (c : Context) (name : String) : c.sanitize.contains name = c.contains name :=
  Table.contains_map clean c name

theorem sanitize_insert (c : Context) (name : String) (d : Datum) :
    sanitize (c.insert name d) = c.sanitize.insert name (clean d) := Table.map_insert clean c name d

theorem sanitize_sanitize (c : Context) : c.sanitize.sanitize = c.sanitize := by
  refine Table.eq_of_entries ?_
  change (c.entries.map _).map _ = c.entries.map _
  rw [List.map_map]
  exact List.map_congr_left fun e _ => congrArg (Prod.mk e.1) (clean_clean e.2)

end Context
end Formulary
