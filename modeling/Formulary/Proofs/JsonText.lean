import Formulary.Proofs.ConfigNames
import Formulary.Proofs.JsonNumber
import Formulary.Proofs.JsonString
/-!
# JSON lines are printable

Whatever data are written, the line holds printable ASCII characters only. So it has no line end of any
script, and as many bytes as characters.
-/

set_option autoImplicit false
namespace Formulary

theorem isPlainChar_of_all {cs : List Char} (h : cs.all (fun c => decide (IsPlainChar c)) = true) :
    ∀ c ∈ cs, IsPlainChar c :=
  fun c hc => of_decide_eq_true (List.all_eq_true.1 h c hc)

theorem isPlainChar_of_isDigit {c : Char} (h : c.isDigit = true) : IsPlainChar c := by
  have hc := Text.isDigit_iff.1 h
  unfold IsPlainChar
  omega

theorem isPlainChar_sign (negative : Bool) :
    ∀ c ∈ (if negative then ['-'] else [] : List Char), IsPlainChar c := by
  cases negative <;> exact isPlainChar_of_all (by decide)

theorem isPlainChar_decimalText {whole fraction : List Char} {exponent : Option Int}
    (h : IsDecimal whole fraction exponent) :
    ∀ c ∈ decimalText whole fraction exponent, IsPlainChar c := by
  refine List.forall_mem_append.2 ⟨fun c hc => isPlainChar_of_isDigit (h.whole_digit c hc),
    List.forall_mem_append.2 ⟨?_, ?_⟩⟩
  · split
    · exact List.forall_mem_nil _
    · exact List.forall_mem_cons.2
        ⟨by decide, fun c hc => isPlainChar_of_isDigit (h.fraction_digit c hc)⟩
  · cases exponent with
    | none => exact List.forall_mem_nil _
    | some n =>
      refine List.forall_mem_cons.2 ⟨by decide, List.forall_mem_cons.2 ⟨?_, ?_⟩⟩
      · split <;> decide
      · exact fun c hc => isPlainChar_of_isDigit ((padded_digits 2 n.natAbs).1 c hc)

namespace Json

theorem isPlainChar_number (x : Float) : ∀ c ∈ (number x).toList, IsPlainChar c := by
  unfold number
  cases hshape : Binary64.shape x with
  | nan =>
    change ∀ c ∈ "NaN".toList, IsPlainChar c
    exact isPlainChar_of_all (by decide)
  | infinite negative =>
    change ∀ c ∈ (if negative then "-Infinity" else "Infinity").toList, IsPlainChar c
    cases negative <;> exact isPlainChar_of_all (by decide)
  | finite negative m e =>
    have hx : Binary64.isFinite x = true := by
      unfold Binary64.isFinite
      rw [hshape]
    obtain ⟨negative, whole, fraction, exponent, hdecimal, htext, -⟩ := Decimal.text_eq_decimalText hx
    simp only [htext]
    exact List.forall_mem_append.2 ⟨isPlainChar_sign negative, isPlainChar_decimalText hdecimal⟩

theorem isPlainChar_int (n : Int) : ∀ c ∈ (toString n).toList, IsPlainChar c := by
  rw [toList_toString_int]
  exact List.forall_mem_append.2 ⟨isPlainChar_sign _, fun c hc =>
    isPlainChar_of_isDigit (isDigit_toDigits _ c hc)⟩

/-- Texts with a comma and a space between them. -/
def joined (ts : List String) : List Char := [',', ' '].intercalate (ts.map String.toList)

theorem toList_intercalate (ts : List String) : (", ".intercalate ts).toList = joined ts :=
  String.toList_intercalate

theorem joined_singleton (t : String) : joined [t] = t.toList := List.intercalate_singleton

theorem joined_cons_cons (t u : String) (us : List String) :
    joined (t :: u :: us) = t.toList ++ ',' :: ' ' :: joined (u :: us) := by
  unfold joined
  rw [List.map_cons, List.map_cons, List.intercalate_cons_cons, List.append_assoc]
  rfl

theorem isPlainChar_joined {ts : List String} (h : ∀ t ∈ ts, ∀ c ∈ t.toList, IsPlainChar c) :
    ∀ c ∈ joined ts, IsPlainChar c := by
  induction ts with
  | nil => exact List.forall_mem_nil _
  | cons t ts ih =>
    obtain ⟨ht, hts⟩ := List.forall_mem_cons.1 h
    cases ts with
    | nil =>
      rw [joined_singleton]
      exact ht
    | cons u us =>
      rw [joined_cons_cons]
      exact List.forall_mem_append.2 ⟨ht, List.forall_mem_cons.2 ⟨by decide,
        List.forall_mem_cons.2 ⟨by decide, ih hts⟩⟩⟩

mutual

theorem isPlainChar_line : ∀ d : Datum, ∀ c ∈ (line d).toList, IsPlainChar c
  | .null => by rw [line]; exact isPlainChar_of_all (by decide)
  | .bool b => by rw [line]; cases b <;> exact isPlainChar_of_all (by decide)
  | .int n => by rw [line]; exact isPlainChar_int n
  | .float x => by rw [line]; exact isPlainChar_number x
  | .text s => by rw [line]; exact isPlainChar_string s
  | .broken t => by rw [line]; exact isPlainChar_codeString _
  | .bytes _ | .date _ | .moment _ | .set _ => isPlainChar_string _
  | .list items | .tuple items => by
    rw [line, String.toList_append, String.toList_append, toList_intercalate]
    exact List.forall_mem_append.2 ⟨List.forall_mem_append.2 ⟨isPlainChar_of_all (by decide),
      isPlainChar_joined (isPlainChar_lineItems items)⟩, isPlainChar_of_all (by decide)⟩
  | .map entries => by
    rw [line, String.toList_append, String.toList_append, toList_intercalate]
    refine List.forall_mem_append.2 ⟨List.forall_mem_append.2 ⟨isPlainChar_of_all (by decide),
      isPlainChar_joined ?_⟩, isPlainChar_of_all (by decide)⟩
    intro t ht
    obtain ⟨e, he, rfl⟩ := List.mem_map.1 ht
    exact isPlainChar_lineEntries entries e (List.mem_mergeSort.1 he)

theorem isPlainChar_lineItems : ∀ ds : List Datum, ∀ t ∈ lineItems ds, ∀ c ∈ t.toList, IsPlainChar c
  | [] => List.forall_mem_nil _
  | d :: ds => List.forall_mem_cons.2 ⟨isPlainChar_line d, isPlainChar_lineItems ds⟩

theorem isPlainChar_lineEntries :
    ∀ es : List (Datum × Datum), ∀ t ∈ lineEntries es, ∀ c ∈ t.2.toList, IsPlainChar c
  | [] => List.forall_mem_nil _
  | (k, v) :: es => by
    refine List.forall_mem_cons.2 ⟨?_, isPlainChar_lineEntries es⟩
    simp only [String.toList_append]
    exact List.forall_mem_append.2
      ⟨List.forall_mem_append.2 ⟨isPlainChar_string _, isPlainChar_of_all (by decide)⟩,
      isPlainChar_line v⟩

end

end Json
end Formulary
