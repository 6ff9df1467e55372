import Formulary.Json.Parser
import Formulary.Proofs.DecimalReading
/-!
# Numbers in a JSON text

The reader takes a printed number as a whole wherever it stands, as long as no digit, point or mark of
an exponent follows it. An integer keeps its value and a finite number all its bits.
-/

set_option autoImplicit false
namespace Formulary

/-- Whether a text does not go on with a digit. -/
def NoDigit (rest : List Char) : Prop := ∀ c ∈ rest.head?, c.isDigit = false

/-- Whether a text does not go on with any part of a number. -/
structure EndsNumber (rest : List Char) : Prop where
  digit : NoDigit rest
  point : rest.head? ≠ some '.'
  mark : rest.head? ≠ some 'e' ∧ rest.head? ≠ some 'E'

theorem noDigit_nil : NoDigit [] := fun _ hc => absurd hc (Option.not_mem_none _)

theorem noDigit_cons {c : Char} (h : c.isDigit = false) (cs : List Char) : NoDigit (c :: cs) := by
  intro d hd
  cases hd
  exact h

theorem span_digits {ds rest : List Char} (hds : ∀ c ∈ ds, c.isDigit = true) (hrest : NoDigit rest) :
    (ds ++ rest).takeWhile Char.isDigit = ds ∧ (ds ++ rest).dropWhile Char.isDigit = rest := by
  rw [List.takeWhile_append_of_pos hds, List.dropWhile_append_of_pos hds]
  cases rest with
  | nil => exact ⟨List.append_nil ds, rfl⟩
  | cons c cs =>
    have hc : ¬ c.isDigit = true := by rw [hrest c rfl]; exact Bool.false_ne_true
    rw [List.takeWhile_cons_of_neg hc, List.dropWhile_cons_of_neg hc, List.append_nil]
    exact ⟨rfl, rfl⟩

theorem exists_digit_cons {ds : List Char} (hds : ∀ c ∈ ds, c.isDigit = true) (hne : ds ≠ []) :
    ∃ c cs, ds = c :: cs ∧ c.isDigit = true := by
  obtain ⟨c, cs, rfl⟩ := List.exists_cons_of_ne_nil hne
  exact ⟨c, cs, rfl, hds c List.mem_cons_self⟩

theorem noDigit_exponentText (exponent : Option Int) {rest : List Char} (hrest : NoDigit rest) :
    NoDigit (exponent.elim [] exponentText ++ rest) := by
  cases exponent with
  | none => exact hrest
  | some n => exact noDigit_cons rfl _

theorem head?_exponentText (exponent : Option Int) {rest : List Char} (hrest : rest.head? ≠ some '.') :
    (exponent.elim [] exponentText ++ rest).head? ≠ some '.' := by
  cases exponent with
  | none => exact hrest
  | some n =>
    intro h
    cases h

theorem noDigit_fraction (fraction : List Char) {rest : List Char} (hrest : NoDigit rest) :
    NoDigit ((if fraction.isEmpty then [] else '.' :: fraction) ++ rest) := by
  cases fraction with
  | nil => exact hrest
  | cons d ds => exact noDigit_cons rfl _

namespace Numeral

theorem readExponent?_exponentText (exponent : Option Int) :
    readExponent? (exponent.elim [] exponentText) = some (exponent.getD 0) := by
  cases exponent with
  | none => rfl
  | some n =>
    obtain ⟨hdigit, hne, hvalue⟩ := padded_digits 2 n.natAbs
    have hall : (Decimal.padded 2 n.natAbs).all Char.isDigit = true := List.all_eq_true.2 hdigit
    have hsome : (Decimal.padded 2 n.natAbs).isEmpty = false := List.isEmpty_eq_false_iff.2 hne
    by_cases hn : n < 0
    · simp only [Option.elim_some, exponentText, Option.getD_some, if_pos hn, readExponent?, takeSign,
        hall, hsome, hvalue]
      simp
      rw [abs_of_neg hn, neg_neg]
    · simp only [Option.elim_some, exponentText, Option.getD_some, if_neg hn, readExponent?, takeSign,
        hall, hsome, hvalue]
      simp
      exact not_lt.1 hn

theorem readUnsigned?_decimalText {whole fraction : List Char} {exponent : Option Int}
    (h : IsDecimal whole fraction exponent) (negative : Bool) :
    readUnsigned? negative (decimalText whole fraction exponent) =
      some (nearestDecimal negative (digitsValue (whole ++ fraction))
        (exponent.getD 0 - fraction.length)) := by
  have htail := noDigit_exponentText exponent noDigit_nil
  rw [List.append_nil] at htail
  have hwhole := h.whole_ne_nil
  unfold readUnsigned? decimalText
  cases fraction with
  | nil =>
    obtain ⟨htake, hdrop⟩ := span_digits h.whole_digit htail
    simp only [List.isEmpty_nil, if_true, List.nil_append, htake, hdrop]
    split
    · rename_i more heq
      cases exponent with
      | none => cases heq
      | some n => cases heq
    · simp [hwhole, readExponent?_exponentText]
  | cons d ds =>
    obtain ⟨htake, hdrop⟩ := span_digits h.whole_digit (noDigit_cons (c := '.') rfl
      (d :: ds ++ exponent.elim [] exponentText))
    obtain ⟨htake', hdrop'⟩ := span_digits h.fraction_digit htail
    simp only [List.isEmpty_cons, Bool.false_eq_true, if_false, List.cons_append] at htake hdrop htake' hdrop' ⊢
    simp only [htake, hdrop, htake', hdrop', readExponent?_exponentText]
    simp

end Numeral

namespace Json

theorem readFraction_of_digits {ds rest : List Char} (hds : ∀ c ∈ ds, c.isDigit = true)
    (hrest : NoDigit rest) (hpoint : rest.head? ≠ some '.') :
    readFraction ((if ds.isEmpty then [] else '.' :: ds) ++ rest) =
      (if ds.isEmpty then [] else '.' :: ds, rest) := by
  cases ds with
  | nil =>
    unfold readFraction
    split
    · rename_i heq
      exact absurd (congrArg List.head? heq) hpoint
    · rfl
  | cons d ds =>
    obtain ⟨htake, hdrop⟩ := span_digits hds hrest
    simp only [List.isEmpty_cons, Bool.false_eq_true, if_false, List.cons_append] at htake hdrop ⊢
    simp only [readFraction, htake, hdrop, List.isEmpty_cons, Bool.false_eq_true, if_false]

theorem readExponent_exponentText (exponent : Option Int) {rest : List Char}
    (hrest : EndsNumber rest) :
    readExponent (exponent.elim [] exponentText ++ rest) = (exponent.elim [] exponentText, rest) := by
  cases exponent with
  | none =>
    unfold readExponent
    split
    · rename_i mark more heq
      have hmark := hrest.mark
      rw [show rest = mark :: more from heq] at hmark
      rw [if_neg]
      · rfl
      · rintro (rfl | rfl)
        · exact hmark.1 rfl
        · exact hmark.2 rfl
    · rename_i heq
      rw [show rest = [] from heq]
      rfl
  | some n =>
    obtain ⟨hdigit, hne, -⟩ := padded_digits 2 n.natAbs
    obtain ⟨htake, hdrop⟩ := span_digits hdigit hrest.digit
    have hsome : (Decimal.padded 2 n.natAbs).isEmpty = false := List.isEmpty_eq_false_iff.2 hne
    simp only [Option.elim_some, exponentText, List.cons_append]
    by_cases hn : n < 0
    · simp [hn, readExponent, htake, hdrop, hsome]
    · simp [hn, readExponent, htake, hdrop, hsome]

theorem wholeDigits_append {whole rest : List Char} (hdigit : ∀ c ∈ whole, c.isDigit = true)
    (hne : whole ≠ []) (hzero : whole.head? = some '0' → whole = ['0']) (hrest : NoDigit rest) :
    wholeDigits (whole ++ rest) = whole := by
  obtain ⟨c, cs, rfl, hc⟩ := exists_digit_cons hdigit hne
  unfold wholeDigits
  split
  · rename_i heq
    cases heq
    exact (hzero rfl).symm
  · exact (span_digits hdigit hrest).1

theorem takeMinus_signed (negative : Bool) {whole : List Char} (hdigit : ∀ c ∈ whole, c.isDigit = true)
    (hne : whole ≠ []) (rest : List Char) :
    takeMinus ((if negative then ['-'] else []) ++ (whole ++ rest)) = (negative, whole ++ rest) := by
  obtain ⟨c, cs, rfl, hc⟩ := exists_digit_cons hdigit hne
  cases negative with
  | true => rfl
  | false =>
    unfold takeMinus
    split
    · rename_i heq
      cases heq
      cases hc
    · rfl

/-- What is read at an integer without a needless zero, and the fraction and the exponent behind it. -/
theorem readNumber_of_whole {whole after fraction more exponent rest : List Char}
    (hdigit : ∀ c ∈ whole, c.isDigit = true) (hne : whole ≠ [])
    (hzero : whole.head? = some '0' → whole = ['0']) (hafter : NoDigit after)
    (hfraction : readFraction after = (fraction, more)) (hexponent : readExponent more = (exponent, rest))
    (negative : Bool) :
    readNumber ((if negative then ['-'] else []) ++ (whole ++ after)) =
      if fraction.isEmpty && exponent.isEmpty then
        if Numeral.maxDigits < whole.length then .error .tooManyDigits
        else .ok (.int (if negative then -(Numeral.digitsValue whole : Int)
          else Numeral.digitsValue whole), rest)
      else
        (Numeral.readUnsigned? negative (whole ++ fraction ++ exponent)).elim (.error .malformed)
          fun x => .ok (.float x, rest) := by
  have hwhole := wholeDigits_append hdigit hne hzero hafter
  have hsign := takeMinus_signed negative hdigit hne after
  have hsome : whole.isEmpty = false := List.isEmpty_eq_false_iff.2 hne
  unfold readNumber
  simp only [hsign, hwhole, hsome, List.drop_left, hfraction, hexponent]
  cases Numeral.readUnsigned? negative (whole ++ fraction ++ exponent) with
  | none => rfl
  | some x => rfl

/-- A finite number reads back with all its bits. -/
theorem readNumber_float {x : Float} (hx : Binary64.isFinite x = true) {rest : List Char}
    (hrest : EndsNumber rest) :
    readNumber ((Decimal.text x).toList ++ rest) = .ok (.float x, rest) := by
  obtain ⟨negative, whole, fraction, exponent, hdecimal, htext, hvalue⟩ :=
    Decimal.text_eq_decimalText hx
  have hexponent := readExponent_exponentText exponent hrest
  have hafter := noDigit_exponentText exponent hrest.digit
  have hfraction := readFraction_of_digits hdecimal.fraction_digit hafter
    (head?_exponentText exponent hrest.point)
  have hread := Numeral.readUnsigned?_decimalText hdecimal negative
  have hmarked : ((if fraction.isEmpty then [] else '.' :: fraction).isEmpty &&
      (exponent.elim [] exponentText).isEmpty) = false := by
    rcases hdecimal.marked with h | h
    · rw [List.isEmpty_eq_false_iff.2 h]
      rfl
    · obtain ⟨n, rfl⟩ := Option.isSome_iff_exists.1 h
      exact Bool.and_false _
  unfold decimalText at htext hread
  rw [htext, List.append_assoc, List.append_assoc, List.append_assoc,
    readNumber_of_whole hdecimal.whole_digit hdecimal.whole_ne_nil hdecimal.leading_zero
      (noDigit_fraction fraction hafter) hfraction hexponent, hmarked, List.append_assoc, hread, hvalue]
  rfl

theorem toList_toString_int (n : Int) :
    (toString n).toList = (if decide (n < 0) then ['-'] else []) ++ Nat.toDigits 10 n.natAbs := by
  rw [Int.toString_eq_repr, Int.repr_eq_if]
  by_cases h : 0 ≤ n
  · have habs : n.toNat = n.natAbs := by omega
    rw [if_pos h, if_neg (by simpa using h), Nat.toList_repr, habs]
    rfl
  · have habs : (-n).toNat = n.natAbs := by omega
    rw [if_neg h, if_pos (by simpa using h), String.toList_append, Nat.toList_repr, habs]
    rfl

theorem length_toDigits_le {n k : Nat} (hk : 0 < k) (h : n < tenTo k) :
    (Nat.toDigits 10 n).length ≤ k :=
  (Nat.length_toDigits_le_iff (by decide) hk).2 h

/-- An integer that is not too long reads back. -/
theorem readNumber_int {n : Int} (hn : n.natAbs < tenTo Numeral.maxDigits) {rest : List Char}
    (hrest : EndsNumber rest) : readNumber ((toString n).toList ++ rest) = .ok (.int n, rest) := by
  have hzero : (Nat.toDigits 10 n.natAbs).head? = some '0' → Nat.toDigits 10 n.natAbs = ['0'] := by
    intro h
    have hnone : n.natAbs = 0 := by
      by_contra hne
      exact head?_toDigits_ne_zero (Nat.pos_of_ne_zero hne) h
    rw [hnone]
    rfl
  have hshort : ¬ Numeral.maxDigits < (Nat.toDigits 10 n.natAbs).length :=
    not_lt.2 (length_toDigits_le (by decide) hn)
  have hfraction : readFraction rest = ([], rest) :=
    readFraction_of_digits (List.forall_mem_nil _) hrest.digit hrest.point
  have hexponent : readExponent rest = ([], rest) := readExponent_exponentText none hrest
  have hsign : (if decide (n < 0) then -(n.natAbs : Int) else n.natAbs) = n := by
    by_cases h : n < 0
    · rw [if_pos (decide_eq_true h)]
      omega
    · rw [if_neg (by simpa using h)]
      omega
  rw [toList_toString_int, List.append_assoc, readNumber_of_whole (isDigit_toDigits _) Nat.toDigits_ne_nil hzero
    hrest.digit hfraction hexponent, if_pos (by rfl), if_neg hshort, Numeral.digitsValue_toDigits, hsign]

end Json
end Formulary
