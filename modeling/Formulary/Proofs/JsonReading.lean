import Formulary.Proofs.JsonText
/-!
# JSON lines read back

The line of legible data is read as the same data with the keys of every map in order. Legible are the
values that JSON has, with texts for keys, and dates and moments, which are read as texts.
-/

set_option autoImplicit false
namespace Formulary

/-- Data that can be read back: integers have no more digits than are read, numbers are finite, and the
keys of a map are different texts. -/
inductive Datum.Legible : Datum → Prop
  | null : Legible .null
  | bool (b : Bool) : Legible (.bool b)
  | int {n : Int} (h : n.natAbs < tenTo Numeral.maxDigits) : Legible (.int n)
  | float {x : Float} (h : Binary64.isFinite x = true) : Legible (.float x)
  | text (s : String) : Legible (.text s)
  | broken (t : BrokenText) : Legible (.broken t)
  | date (d : Date) : Legible (.date d)
  | moment (m : Moment) : Legible (.moment m)
  | list {items : List Datum} (h : ∀ d ∈ items, Legible d) : Legible (.list items)
  | map {entries : List (Datum × Datum)} (keys : ∀ e ∈ entries, ∃ k, e.1 = .text k)
    (nodup : (entries.map Prod.fst).Nodup) (h : ∀ e ∈ entries, Legible e.2) : Legible (.map entries)

namespace Json

/-- Entries in the order of their keys. -/
def sortEntries (entries : List (Datum × Datum)) : List (Datum × Datum) :=
  entries.mergeSort fun a b => decide (keyText a.1 ≤ keyText b.1)

mutual

/-- A value as it is read back: the entries of all its maps in the order of their keys, tuples as lists, and
what JSON has no form for as texts. -/
def normal : Datum → Datum
  | .list items | .tuple items => .list (normalItems items)
  | .map entries => .map (sortEntries (normalEntries entries))
  | .null => .null
  | .bool b => .bool b
  | .int n => .int n
  | .float x => .float x
  | .text s => .text s
  | .broken t => .broken t
  | d => .text d.plain

def normalItems : List Datum → List Datum
  | [] => []
  | d :: ds => normal d :: normalItems ds

def normalEntries : List (Datum × Datum) → List (Datum × Datum)
  | [] => []
  | (k, v) :: es => (k, normal v) :: normalEntries es

end

/-- A key, a colon and the value. -/
def entryText (e : Datum × Datum) : String := string (keyText e.1) ++ ": " ++ line e.2

theorem lineItems_eq (items : List Datum) : lineItems items = items.map line := by
  induction items with
  | nil => rfl
  | cons d ds ih => rw [lineItems, List.map_cons, ih]

theorem lineEntries_eq (entries : List (Datum × Datum)) :
    lineEntries entries = entries.map fun e => (keyText e.1, entryText e) := by
  induction entries with
  | nil => rfl
  | cons e es ih => rw [lineEntries, List.map_cons, ih]; rfl

theorem normalItems_eq (items : List Datum) : normalItems items = items.map normal := by
  induction items with
  | nil => rfl
  | cons d ds ih => rw [normalItems, List.map_cons, ih]

theorem normalEntries_eq (entries : List (Datum × Datum)) :
    normalEntries entries = entries.map fun e => (e.1, normal e.2) := by
  induction entries with
  | nil => rfl
  | cons e es ih => rw [normalEntries, List.map_cons, ih]

theorem toList_line_list (items : List Datum) :
    (line (.list items)).toList = '[' :: (joined (items.map line) ++ [']']) := by
  rw [line, String.toList_append, String.toList_append, toList_intercalate, lineItems_eq]
  rfl

theorem mergeSort_map {α β : Type} {f : α → β} {k : α → String} {l : β → String}
    (h : ∀ a, l (f a) = k a) (as : List α) :
    (as.map f).mergeSort (fun a b => decide (l a ≤ l b)) =
      (as.mergeSort fun a b => decide (k a ≤ k b)).map f :=
  (List.map_mergeSort fun a _ b _ => by rw [h, h]).symm

theorem sortByKey_lineEntries (entries : List (Datum × Datum)) :
    (sortByKey (lineEntries entries)).map Prod.snd = (sortEntries entries).map entryText := by
  unfold sortByKey sortEntries
  rw [lineEntries_eq, mergeSort_map (k := fun e => keyText e.1) (l := Prod.fst) fun _ => rfl, List.map_map]
  rfl

theorem toList_line_map (entries : List (Datum × Datum)) :
    (line (.map entries)).toList =
      '\x7b' :: (joined ((sortEntries entries).map entryText) ++ ['\x7d']) := by
  rw [line, String.toList_append, String.toList_append, toList_intercalate, sortByKey_lineEntries]
  rfl

theorem normal_map (entries : List (Datum × Datum)) :
    normal (.map entries) = .map ((sortEntries entries).map fun e => (e.1, normal e.2)) := by
  rw [normal, normalEntries_eq]
  unfold sortEntries
  rw [mergeSort_map (fun _ => rfl)]

/-! The reader at the first character of a value. -/

theorem skipSpace_cons {c : Char} (h : isSpace c = false) (cs : List Char) :
    skipSpace (c :: cs) = c :: cs :=
  List.dropWhile_cons_of_neg (by rw [h]; exact Bool.false_ne_true)

theorem readWord?_number (negative : Bool) {c : Char} (hc : c.isDigit = true) (cs : List Char) :
    readWord? ((if negative then ['-'] else []) ++ c :: cs) = none := by
  have hne (d : Char) (hd : d.isDigit = false) : d ≠ c := by
    rintro rfl
    rw [hc] at hd
    cases hd
  unfold readWord? words
  rw [Option.map_eq_none_iff, List.find?_eq_none]
  cases negative with
  | true => simp [hne 'I' rfl]
  | false =>
    simp [hne 'n' rfl, hne 't' rfl, hne 'f' rfl, hne 'N' rfl, hne 'I' rfl, hne '-' rfl]

theorem readWord?_null (rest : List Char) :
    readWord? ("null".toList ++ rest) = some (.null, rest) := rfl

theorem readWord?_bool (b : Bool) (rest : List Char) :
    readWord? ((if b then "true" else "false").toList ++ rest) = some (.bool b, rest) := by
  cases b <;> rfl

theorem readValue_of_head (n : Nat) {c : Char} (hstring : c ≠ '\"') (hlist : c ≠ '[')
    (hmap : c ≠ '\x7b') (cs : List Char) :
    readValue (n + 1) (c :: cs) = (readWord? (c :: cs)).elim (readNumber (c :: cs)) .ok := by
  rw [readValue]
  · cases readWord? (c :: cs) <;> rfl
  · rintro rest heq
    cases heq
    exact hstring rfl
  · rintro rest heq
    cases heq
    exact hlist rfl
  · rintro rest heq
    cases heq
    exact hmap rfl

theorem readValue_number (n : Nat) (negative : Bool) {c : Char} (hc : c.isDigit = true)
    (cs : List Char) :
    readValue (n + 1) ((if negative then ['-'] else []) ++ c :: cs) =
      readNumber ((if negative then ['-'] else []) ++ c :: cs) := by
  have hword := readWord?_number negative hc cs
  cases negative with
  | true =>
    simp only [if_true, List.cons_append, List.nil_append] at hword ⊢
    rw [readValue_of_head n (by decide) (by decide) (by decide), hword]
    rfl
  | false =>
    simp only [Bool.false_eq_true, if_false, List.nil_append] at hword ⊢
    rw [readValue_of_head n, hword]
    · rfl
    all_goals
      rintro rfl
      cases hc

theorem readValue_codeString (n : Nat) (ps : List CodePoint) (rest : List Char) :
    readValue (n + 1) ((codeString ps).toList ++ rest) = .ok (.ofUnits (ps.flatMap units), rest) := by
  obtain ⟨body, hbody, hread⟩ := readString?_codeString ps rest
  rw [hbody, readValue, hread]

/-- Whether a text is read as a value wherever it stands. -/
structure Reads (cs : List Char) (d : Datum) : Prop where
  starts : ∃ c tail, cs = c :: tail ∧ isSpace c = false ∧ c ≠ ']'
  read : ∀ n rest, 2 * cs.length ≤ n + 1 → EndsNumber rest →
    readValue (n + 1) (cs ++ rest) = .ok (d, rest)

theorem starts_number (negative : Bool) {c : Char} (hc : c.isDigit = true) (cs : List Char) :
    ∃ d tail, (if negative then ['-'] else []) ++ c :: cs = d :: tail ∧ isSpace d = false ∧ d ≠ ']' := by
  cases negative with
  | true => exact ⟨'-', c :: cs, rfl, rfl, by decide⟩
  | false =>
    refine ⟨c, cs, rfl, ?_, ?_⟩
    · unfold isSpace
      simp only [Bool.or_eq_false_iff, beq_eq_false_iff_ne]
      refine ⟨⟨⟨?_, ?_⟩, ?_⟩, ?_⟩ <;> rintro rfl <;> cases hc
    · rintro rfl
      cases hc

theorem reads_float {x : Float} (hx : Binary64.isFinite x = true) :
    Reads (Decimal.text x).toList (.float x) := by
  obtain ⟨negative, whole, fraction, exponent, hdecimal, htext, -⟩ := Decimal.text_eq_decimalText hx
  obtain ⟨c, cs, rfl, hc⟩ := exists_digit_cons hdecimal.whole_digit hdecimal.whole_ne_nil
  unfold decimalText at htext
  rw [List.cons_append] at htext
  refine ⟨htext ▸ starts_number negative hc _, fun n rest _ hrest => ?_⟩
  have hread := readNumber_float hx hrest
  rw [htext, List.append_assoc, List.cons_append] at hread ⊢
  rw [readValue_number n negative hc, hread]

theorem reads_int {m : Int} (hm : m.natAbs < tenTo Numeral.maxDigits) :
    Reads (toString m).toList (.int m) := by
  obtain ⟨c, cs, hdigits, hc⟩ := exists_digit_cons (isDigit_toDigits m.natAbs) Nat.toDigits_ne_nil
  have htext := toList_toString_int m
  rw [hdigits] at htext
  refine ⟨htext ▸ starts_number _ hc cs, fun n rest _ hrest => ?_⟩
  have hread := readNumber_int hm hrest
  rw [htext, List.append_assoc, List.cons_append] at hread ⊢
  rw [readValue_number n _ hc, hread]

theorem reads_word {d : Datum} (c : Char) (cs : List Char) (hc : c.isLower = true)
    (hword : ∀ rest, readWord? (c :: cs ++ rest) = some (d, rest)) : Reads (c :: cs) d := by
  have hne (e : Char) (he : e.isLower = false) : c ≠ e := by
    rintro rfl
    rw [hc] at he
    cases he
  refine ⟨⟨c, cs, rfl, ?_, hne ']' rfl⟩, fun n rest _ _ => ?_⟩
  · unfold isSpace
    simp only [Bool.or_eq_false_iff, beq_eq_false_iff_ne]
    exact ⟨⟨⟨hne ' ' rfl, hne '\t' rfl⟩, hne '\n' rfl⟩, hne '\r' rfl⟩
  · have hread := hword rest
    rw [List.cons_append] at hread ⊢
    rw [readValue_of_head n (hne '\"' rfl) (hne '[' rfl) (hne '\x7b' rfl), hread]
    rfl

theorem reads_codeString (ps : List CodePoint) :
    Reads (codeString ps).toList (.ofUnits (ps.flatMap units)) :=
  ⟨⟨_, _, toList_codeString ps, rfl, by decide⟩, fun n rest _ _ => readValue_codeString n ps rest⟩

theorem reads_string (s : String) : Reads (string s).toList (.text s) := by
  rw [string_eq_codeString, ← Datum.ofUnits_text]
  exact reads_codeString _

theorem reads_broken (t : BrokenText) : Reads (codeString t.codes).toList (.broken t) := by
  have hread := reads_codeString t.codes
  rw [Datum.ofUnits_units t.unpaired, Datum.ofCodes_codes] at hread
  exact hread

theorem joined_cons (t : String) (ts : List String) : ∃ more, joined (t :: ts) = t.toList ++ more := by
  cases ts with
  | nil => exact ⟨[], (joined_singleton t).trans (List.append_nil _).symm⟩
  | cons u us => exact ⟨_, joined_cons_cons t u us⟩

theorem skipSpace_joined {s : String} (h : ∀ rest, skipSpace (s.toList ++ rest) = s.toList ++ rest)
    (ss : List String) (rest : List Char) :
    skipSpace (joined (s :: ss) ++ rest) = joined (s :: ss) ++ rest := by
  obtain ⟨more, hjoined⟩ := joined_cons s ss
  rw [hjoined, List.append_assoc]
  exact h _

theorem endsNumber_cons {c : Char} (hdigit : c.isDigit = false) (hpoint : c ≠ '.')
    (hmark : c ≠ 'e' ∧ c ≠ 'E') (cs : List Char) : EndsNumber (c :: cs) where
  digit := noDigit_cons hdigit cs
  point h := hpoint (Option.some.inj h)
  mark := ⟨fun h => hmark.1 (Option.some.inj h), fun h => hmark.2 (Option.some.inj h)⟩

theorem skipSpace_space (cs : List Char) : skipSpace (' ' :: cs) = skipSpace cs :=
  List.dropWhile_cons_of_pos rfl

section
variable {n : Nat} {d : Datum} {cs more rest : List Char}

theorem readItems_last (h : readValue n (cs ++ ']' :: rest) = .ok (d, ']' :: rest)) :
    readItems (n + 1) (cs ++ ']' :: rest) = .ok ([d], rest) := by
  rw [readItems, h]
  rfl

theorem readItems_next (h : readValue n (cs ++ ',' :: ' ' :: more) = .ok (d, ',' :: ' ' :: more))
    (hmore : skipSpace more = more) :
    readItems (n + 1) (cs ++ ',' :: ' ' :: more) =
      (readItems n more).map fun (items, rest) => (d :: items, rest) := by
  rw [readItems, h]
  simp only [skipSpace_cons (show isSpace ',' = false from rfl), skipSpace_space, hmore]

end

theorem Reads.skipSpace_append {cs : List Char} {d : Datum} (h : Reads cs d) (rest : List Char) :
    skipSpace (cs ++ rest) = cs ++ rest := by
  obtain ⟨c, tail, rfl, hspace, -⟩ := h.starts
  exact skipSpace_cons hspace _

theorem Reads.length_pos {cs : List Char} {d : Datum} (h : Reads cs d) : 0 < cs.length := by
  obtain ⟨c, tail, rfl, -, -⟩ := h.starts
  exact Nat.succ_pos _

theorem endsNumber_comma (cs : List Char) : EndsNumber (',' :: cs) :=
  endsNumber_cons rfl (by decide) (by decide) cs

theorem readItems_joined {items : List Datum} (hne : items ≠ [])
    (h : ∀ d ∈ items, Reads (line d).toList (normal d)) (rest : List Char) {n : Nat}
    (hn : 2 * (joined (items.map line)).length + 1 ≤ n) :
    readItems n (joined (items.map line) ++ ']' :: rest) = .ok (items.map normal, rest) := by
  induction items generalizing n with
  | nil => exact absurd rfl hne
  | cons d ds ih =>
    obtain ⟨hd, hds⟩ := List.forall_mem_cons.1 h
    have hpos := hd.length_pos
    cases ds with
    | nil =>
      rw [List.map_singleton, joined_singleton] at hn ⊢
      obtain ⟨k, rfl⟩ : ∃ k, n = k + 2 := ⟨n - 2, by omega⟩
      exact readItems_last (hd.read k _ (by omega) (endsNumber_cons rfl (by decide) (by decide) _))
    | cons e es =>
      rw [List.map_cons, List.map_cons, joined_cons_cons] at hn ⊢
      rw [List.append_assoc, List.cons_append, List.cons_append]
      rw [List.length_append, List.length_cons, List.length_cons] at hn
      obtain ⟨k, rfl⟩ : ∃ k, n = k + 2 := ⟨n - 2, by omega⟩
      have hmore := skipSpace_joined (hds e List.mem_cons_self).skipSpace_append (es.map line)
        (']' :: rest)
      have hrest := ih (List.cons_ne_nil e es) hds (n := k + 1) (by
        rw [List.map_cons]
        omega)
      rw [readItems_next (hd.read k _ (by omega) (endsNumber_comma _)) hmore]
      rw [List.map_cons] at hrest
      rw [hrest]
      rfl

theorem sameKey_text {k : Datum} {name : String} (h : k.sameKey (.text name) = true) :
    k = .text name := by
  cases k with
  | text s => rw [show s = name from eq_of_beq h]
  | _ => cases h

theorem putEntry_of_new {name : String} (v : Datum) {done : List (Datum × Datum)}
    (h : .text name ∉ done.map Prod.fst) :
    Datum.putEntry (.text name) v done = done ++ [(.text name, v)] := by
  induction done with
  | nil => rfl
  | cons e es ih =>
    rw [List.map_cons, List.mem_cons, not_or] at h
    have hsame : ¬ e.1.sameKey (.text name) = true := fun heq => h.1 (sameKey_text heq).symm
    rw [Datum.putEntry, if_neg hsame, ih h.2, List.cons_append]

theorem readString?_entryText (name : String) (v : Datum) (more : List Char) :
    ∃ body, (entryText (.text name, v)).toList ++ more = '\"' :: body ∧
      readString? (body.length + 1) [] body =
        some ((name.toList.map .char).flatMap units, ':' :: ' ' :: ((line v).toList ++ more)) := by
  unfold entryText
  rw [String.toList_append, String.toList_append, List.append_assoc, List.append_assoc]
  exact readString?_string name (": ".toList ++ ((line v).toList ++ more))

section
variable {n : Nat} {name : String} {v d : Datum} {done : List (Datum × Datum)}
  {more rest : List Char}

theorem readFields_last
    (h : readValue n ((line v).toList ++ '\x7d' :: rest) = .ok (d, '\x7d' :: rest))
    (hv : skipSpace ((line v).toList ++ '\x7d' :: rest) = (line v).toList ++ '\x7d' :: rest) :
    readFields (n + 1) done ((entryText (.text name, v)).toList ++ '\x7d' :: rest) =
      .ok (Datum.putEntry (.text name) d done, rest) := by
  obtain ⟨body, hbody, hread⟩ := readString?_entryText name v ('\x7d' :: rest)
  rw [hbody, readFields, hread]
  simp only [skipSpace_cons (show isSpace ':' = false from rfl), skipSpace_space, hv, h,
    Datum.ofUnits_text]
  rfl

theorem readFields_next
    (h : readValue n ((line v).toList ++ ',' :: ' ' :: more) = .ok (d, ',' :: ' ' :: more))
    (hv : skipSpace ((line v).toList ++ ',' :: ' ' :: more) = (line v).toList ++ ',' :: ' ' :: more)
    (hmore : skipSpace more = more) :
    readFields (n + 1) done ((entryText (.text name, v)).toList ++ ',' :: ' ' :: more) =
      readFields n (Datum.putEntry (.text name) d done) more := by
  obtain ⟨body, hbody, hread⟩ := readString?_entryText name v (',' :: ' ' :: more)
  rw [hbody, readFields, hread]
  simp only [skipSpace_cons (show isSpace ':' = false from rfl),
    skipSpace_cons (show isSpace ',' = false from rfl), skipSpace_space, hv, h, hmore, Datum.ofUnits_text]

end

theorem skipSpace_entryText {e : Datum × Datum} (h : ∃ k, e.1 = .text k) (rest : List Char) :
    skipSpace ((entryText e).toList ++ rest) = (entryText e).toList ++ rest := by
  obtain ⟨key, v⟩ := e
  obtain ⟨name, rfl⟩ := h
  obtain ⟨body, hbody, -⟩ := readString?_entryText name v rest
  rw [hbody]
  exact skipSpace_cons rfl body

theorem length_entryText (name : String) (v : Datum) :
    (line v).toList.length + 2 ≤ (entryText (.text name, v)).toList.length := by
  have hcolon : ": ".toList.length = 2 := rfl
  unfold entryText
  rw [String.toList_append, String.toList_append, List.length_append, List.length_append, hcolon]
  simp only
  omega

theorem readFields_joined {entries : List (Datum × Datum)} (hne : entries ≠ [])
    (hkeys : ∀ e ∈ entries, ∃ k, e.1 = .text k)
    (h : ∀ e ∈ entries, Reads (line e.2).toList (normal e.2)) (rest : List Char) {n : Nat}
    (hn : 2 * (joined (entries.map entryText)).length + 1 ≤ n) (done : List (Datum × Datum))
    (hnodup : (done.map Prod.fst ++ entries.map Prod.fst).Nodup) :
    readFields n done (joined (entries.map entryText) ++ '\x7d' :: rest) =
      .ok (done ++ entries.map fun e => (e.1, normal e.2), rest) := by
  induction entries generalizing n done with
  | nil => exact absurd rfl hne
  | cons e es ih =>
    obtain ⟨he, hes⟩ := List.forall_mem_cons.1 h
    obtain ⟨⟨name, hname⟩, hkeys'⟩ := List.forall_mem_cons.1 hkeys
    obtain ⟨key, v⟩ := e
    simp only at hname he
    subst hname
    have hlength := length_entryText name v
    have hnew : .text name ∉ done.map Prod.fst := by
      rw [List.map_cons, List.nodup_append] at hnodup
      exact fun hmem => hnodup.2.2 _ hmem _ List.mem_cons_self rfl
    cases es with
    | nil =>
      rw [List.map_singleton, joined_singleton] at hn ⊢
      obtain ⟨k, rfl⟩ : ∃ k, n = k + 2 := ⟨n - 2, by omega⟩
      rw [readFields_last (he.read k _ (by omega) (endsNumber_cons rfl (by decide) (by decide) _))
        (he.skipSpace_append _), putEntry_of_new _ hnew]
      rfl
    | cons f fs =>
      rw [List.map_cons, List.map_cons, joined_cons_cons] at hn ⊢
      rw [List.append_assoc, List.cons_append, List.cons_append]
      rw [List.length_append, List.length_cons, List.length_cons] at hn
      obtain ⟨k, rfl⟩ : ∃ k, n = k + 2 := ⟨n - 2, by omega⟩
      have hmore := skipSpace_joined (skipSpace_entryText (hkeys' f List.mem_cons_self))
        (fs.map entryText) ('\x7d' :: rest)
      have hdone : ((done ++ [(Datum.text name, normal v)]).map Prod.fst ++ (f :: fs).map Prod.fst).Nodup := by
        rw [List.map_append, List.append_assoc]
        exact hnodup
      have hrest := ih (List.cons_ne_nil f fs) hkeys' hes (n := k + 1) (by
        rw [List.map_cons]
        omega) _ hdone
      rw [readFields_next (he.read k _ (by omega) (endsNumber_comma _)) (he.skipSpace_append _) hmore,
        putEntry_of_new _ hnew]
      rw [List.map_cons] at hrest
      rw [hrest, List.append_assoc]
      rfl

theorem readValue_list {n : Nat} {c : Char} {cs rest : List Char} {items : List Datum}
    (hspace : isSpace c = false) (hc : c ≠ ']') (h : readItems n (c :: cs) = .ok (items, rest)) :
    readValue (n + 1) ('[' :: c :: cs) = .ok (.list items, rest) := by
  rw [readValue, skipSpace_cons hspace]
  split
  · rename_i heq
    cases heq
    exact absurd rfl hc
  · rw [h]
    rfl

theorem readValue_map {n : Nat} {c : Char} {cs rest : List Char} {fields : List (Datum × Datum)}
    (hspace : isSpace c = false) (hc : c ≠ '\x7d') (h : readFields n [] (c :: cs) = .ok (fields, rest)) :
    readValue (n + 1) ('\x7b' :: c :: cs) = .ok (.map fields, rest) := by
  rw [readValue, skipSpace_cons hspace]
  split
  · rename_i heq
    cases heq
    exact absurd rfl hc
  · rw [h]
    rfl

theorem line_float {x : Float} (hx : Binary64.isFinite x = true) :
    line (.float x) = Decimal.text x := by
  obtain ⟨negative, m, e, hshape⟩ := Binary64.shape_of_isFinite hx
  rw [line, number, hshape]

theorem reads_list {items : List Datum} (h : ∀ d ∈ items, Reads (line d).toList (normal d)) :
    Reads (line (.list items)).toList (normal (.list items)) := by
  rw [toList_line_list, normal, normalItems_eq]
  refine ⟨⟨_, _, rfl, rfl, by decide⟩, fun n rest hn _ => ?_⟩
  rw [List.cons_append, List.append_assoc, List.singleton_append]
  rw [List.length_cons, List.length_append, List.length_singleton] at hn
  cases items with
  | nil => rfl
  | cons d ds =>
    have hitems := readItems_joined (List.cons_ne_nil d ds) h rest (n := n) (by omega)
    obtain ⟨⟨c, tail, hc, hspace, hclose⟩, -⟩ := h d List.mem_cons_self
    obtain ⟨more, hjoined⟩ := joined_cons (line d) (ds.map line)
    rw [List.map_cons, hjoined, hc] at hitems ⊢
    exact readValue_list hspace hclose hitems

theorem reads_map {entries : List (Datum × Datum)} (hkeys : ∀ e ∈ entries, ∃ k, e.1 = .text k)
    (hnodup : (entries.map Prod.fst).Nodup) (h : ∀ e ∈ entries, Reads (line e.2).toList (normal e.2)) :
    Reads (line (.map entries)).toList (normal (.map entries)) := by
  have hperm : (sortEntries entries).Perm entries := List.mergeSort_perm _ _
  have hmem (e : Datum × Datum) (he : e ∈ sortEntries entries) : e ∈ entries := hperm.mem_iff.1 he
  have hnodup' : ((sortEntries entries).map Prod.fst).Nodup := (hperm.map Prod.fst).nodup_iff.2 hnodup
  rw [toList_line_map, normal_map]
  refine ⟨⟨_, _, rfl, rfl, by decide⟩, fun n rest hn _ => ?_⟩
  rw [List.cons_append, List.append_assoc, List.singleton_append]
  rw [List.length_cons, List.length_append, List.length_singleton] at hn
  generalize sortEntries entries = es at *
  cases es with
  | nil => rfl
  | cons e es =>
    have hfields := readFields_joined (List.cons_ne_nil e es) (fun f hf => hkeys f (hmem f hf))
      (fun f hf => h f (hmem f hf)) rest (n := n) (by omega) [] hnodup'
    obtain ⟨name, hname⟩ := hkeys e (hmem e List.mem_cons_self)
    obtain ⟨more, hjoined⟩ := joined_cons (entryText e) (es.map entryText)
    obtain ⟨body, hbody, -⟩ := readString?_entryText name e.2 (more ++ '\x7d' :: rest)
    rw [← hname] at hbody
    rw [List.map_cons, hjoined, List.append_assoc, hbody] at hfields ⊢
    exact readValue_map rfl (by decide) hfields

/-- The line of legible data reads back. -/
theorem reads_line {d : Datum} (h : d.Legible) : Reads (line d).toList (normal d) := by
  induction h with
  | null => exact reads_word 'n' ['u', 'l', 'l'] rfl readWord?_null
  | bool b =>
    cases b
    · exact reads_word 'f' ['a', 'l', 's', 'e'] rfl (readWord?_bool false)
    · exact reads_word 't' ['r', 'u', 'e'] rfl (readWord?_bool true)
  | int h => exact reads_int h
  | float h =>
    rw [line_float h]
    exact reads_float h
  | text s => exact reads_string s
  | broken t => exact reads_broken t
  | date d => exact reads_string d.text
  | moment m => exact reads_string m.text
  | list _ ih => exact reads_list ih
  | map hkeys hnodup _ ih => exact reads_map hkeys hnodup ih

theorem parse_line {d : Datum} (h : d.Legible) : parse (line d).toList = .ok (normal d) := by
  have hread := reads_line h
  have hend : EndsNumber [] := ⟨noDigit_nil, by decide, by decide⟩
  have hspace := hread.skipSpace_append []
  have hvalue := hread.read (2 * (line d).toList.length + 1) [] (by omega) hend
  rw [List.append_nil] at hspace hvalue
  unfold parse
  rw [hspace, hvalue]
  rfl

end Json
end Formulary
