import Formulary.Decimal.Numeral
import Formulary.Proofs.ShortestDecimal
/-!
# Printed numbers read back

A finite number is printed as a decimal text, and a reader of decimal texts makes the same number of
it again, the sign of zero included.
-/

set_option autoImplicit false
namespace Formulary

namespace Numeral

theorem digitsValue_toDigits (n : Nat) : digitsValue (Nat.toDigits 10 n) = n :=
  Nat.ofDigitChars_ten_toDigits

theorem digitsValue_append (ds es : List Char) :
    digitsValue (ds ++ es) = 10 ^ es.length * digitsValue ds + digitsValue es := by
  change Nat.ofDigitChars 10 (ds ++ es) 0 = _
  rw [Nat.ofDigitChars_append, Nat.ofDigitChars_eq_ofDigitChars_zero]
  rfl

theorem digitsValue_zeros (n : Nat) : digitsValue (List.replicate n '0') = 0 := by
  change Nat.ofDigitChars 10 (List.replicate n '0') 0 = 0
  rw [Nat.ofDigitChars_replicate_zero, Nat.mul_zero]

theorem length_toDigits_bounds {n : Nat} (hn : 0 < n) (k : Int) :
    (10 : ℚ) ^ ((Nat.toDigits 10 n).length + k - 1) ≤ n * 10 ^ k ∧
      (n * 10 ^ k : ℚ) < 10 ^ ((Nat.toDigits 10 n).length + k) := by
  have hlength := Nat.length_toDigits_pos (b := 10) (n := n)
  have hiff (l : Nat) (hl : 0 < l) := Nat.length_toDigits_le_iff (b := 10) (n := n) (by decide) hl
  generalize (Nat.toDigits 10 n).length = l at *
  have hupper : n < 10 ^ l := (hiff l hlength).1 le_rfl
  have hlower : 10 ^ (l - 1) ≤ n := by
    by_contra hlt
    have hshort := hiff (l - 1)
    have hone : l = 1 := by omega
    subst hone
    omega
  constructor
  · rw [show (l : Int) + k - 1 = ((l - 1 : Nat) : Int) + k by omega, zpow_add₀ (by norm_num),
      zpow_natCast]
    gcongr
    exact_mod_cast hlower
  · rw [zpow_add₀ (by norm_num), zpow_natCast]
    gcongr
    exact_mod_cast hupper

theorem two_pow_le_ten_pow (n : Nat) : (2 : ℚ) ^ (3 * n) ≤ 10 ^ n := by
  rw [pow_mul]
  gcongr
  norm_num

/-- What the interval of a number holds is neither so small nor so large that it is not expanded. -/
theorem bounds_of_contains {m : Nat} {e : Int} (h : Binary64.IsNumber m e) (hm : 0 < m) {y : ℚ}
    (hy : (Decimal.Interval.ofNumber m e).Contains (y / 2 ^ (e - 2))) :
    (2 : ℚ) ^ (-1075 : ℤ) ≤ y ∧ y < 2 ^ (1024 : ℤ) := by
  obtain ⟨hlt, hleast, hgreatest, -⟩ := h
  have hlow := (Decimal.Interval.low_ofNumber m e).trans hy.1
  have hhigh := hy.2.1.trans_eq (Decimal.Interval.high_ofNumber m e)
  rw [le_div_iff₀ (by positivity)] at hlow
  rw [div_le_iff₀ (by positivity)] at hhigh
  have hone : (1 : ℚ) ≤ m := by exact_mod_cast hm
  have hlt' : (m : ℚ) + 1 ≤ 2 ^ 53 := by exact_mod_cast hlt
  constructor
  · calc (2 : ℚ) ^ (-1075 : ℤ) ≤ 2 ^ (e - 1) := zpow_le_zpow_right₀ (by norm_num) (by omega)
      _ = 2 * 2 ^ (e - 2) := by rw [← zpow_one_add₀ (by norm_num)]; congr 1; omega
      _ ≤ (4 * m - 2) * 2 ^ (e - 2) := by gcongr; linarith
      _ ≤ y := hlow
  · calc y ≤ (4 * m + 2) * 2 ^ (e - 2) := hhigh
      _ < 2 ^ (55 : ℤ) * 2 ^ (e - 2) := by gcongr; norm_num; linarith
      _ = 2 ^ (55 + (e - 2)) := (zpow_add₀ (by norm_num) _ _).symm
      _ ≤ 2 ^ (1024 : ℤ) := zpow_le_zpow_right₀ (by norm_num) (by omega)

theorem exponent_bounds {y : ℚ} {k : Int} (hleft : (10 : ℚ) ^ (k - 1) ≤ y) (hright : y < 10 ^ k)
    (hsmall : (2 : ℚ) ^ (-1075 : ℤ) ≤ y) (hlarge : y < 2 ^ (1024 : ℤ)) : -400 ≤ k ∧ k ≤ 400 := by
  constructor
  · by_contra hcon
    obtain ⟨n, rfl⟩ := Int.exists_eq_neg_ofNat (show k ≤ 0 by omega)
    have htiny : (10 : ℚ) ^ (-n : ℤ) ≤ 2 ^ (-(3 * n : ℕ) : ℤ) := by
      rw [zpow_neg, zpow_neg, zpow_natCast, zpow_natCast]
      exact inv_anti₀ (by positivity) (two_pow_le_ten_pow n)
    have hless : (2 : ℚ) ^ (-(3 * n : ℕ) : ℤ) ≤ 2 ^ (-1075 : ℤ) :=
      zpow_le_zpow_right₀ (by norm_num) (by omega)
    linarith
  · by_contra hcon
    obtain ⟨n, hn⟩ := Int.eq_ofNat_of_zero_le (show 0 ≤ k - 1 by omega)
    have hhuge : (2 : ℚ) ^ ((3 * n : ℕ) : ℤ) ≤ 10 ^ (k - 1) := by
      rw [hn, zpow_natCast, zpow_natCast]
      exact two_pow_le_ten_pow n
    have hmore : (2 : ℚ) ^ (1024 : ℤ) ≤ 2 ^ ((3 * n : ℕ) : ℤ) :=
      zpow_le_zpow_right₀ (by norm_num) (by omega)
    linarith

/-- The decimals in the interval of a number are read as that number. -/
theorem nearestDecimal_eq {x : Float} {negative : Bool} {m : Nat} {e : Int}
    (h : Binary64.shape x = .finite negative m e) (hm : 0 < m) {digits : Nat} {exponent : Int}
    (hx : (Decimal.Interval.ofNumber m e).Contains (digits * 10 ^ exponent / 2 ^ (e - 2))) :
    nearestDecimal negative digits exponent = x := by
  obtain ⟨hsmall, hlarge⟩ := bounds_of_contains (Binary64.shape_cases h).1 hm hx
  have hdigits : 0 < digits := by
    by_contra hzero
    have hnone : digits = 0 := by omega
    rw [hnone, Nat.cast_zero, zero_mul] at hsmall
    exact absurd hsmall (not_le.2 (by positivity))
  obtain ⟨hleft, hright⟩ := length_toDigits_bounds hdigits exponent
  obtain ⟨hleast, hgreatest⟩ := exponent_bounds hleft hright hsmall hlarge
  unfold nearestDecimal
  simp only
  rw [if_neg (by omega), if_neg (by omega)]
  have hratio := Binary64.toNat_pow_div 10 exponent
  have hpos : 0 < digits * tenTo exponent.toNat := Nat.mul_pos hdigits (Nat.pow_pos (by decide))
  refine Binary64.nearest_eq h hpos (Nat.pow_pos (by decide)) ?_
  simp only [tenTo, Nat.pow_eq, Nat.cast_mul, Nat.cast_pow, Nat.cast_ofNat]
  rwa [mul_div_assoc, hratio]

end Numeral

/-- A mark, the sign and the digits of an exponent. -/
def exponentText (n : Int) : List Char :=
  'e' :: (if n < 0 then '-' else '+') :: Decimal.padded 2 n.natAbs

/-- The text of an unsigned decimal: digits, a fraction if it has digits, and an exponent if there is
one. -/
def decimalText (whole fraction : List Char) (exponent : Option Int) : List Char :=
  whole ++ ((if fraction.isEmpty then [] else '.' :: fraction) ++ exponent.elim [] exponentText)

/-- Whether a decimal text is written as it should be: digits without a needless zero in front, and
something that tells it from an integer. -/
structure IsDecimal (whole fraction : List Char) (exponent : Option Int) : Prop where
  whole_digit : ∀ c ∈ whole, c.isDigit = true
  whole_ne_nil : whole ≠ []
  leading_zero : whole.head? = some '0' → whole = ['0']
  fraction_digit : ∀ c ∈ fraction, c.isDigit = true
  marked : fraction ≠ [] ∨ exponent.isSome = true

theorem isDigit_zeros (n : Nat) : ∀ c ∈ List.replicate n '0', c.isDigit = true := by
  intro c hc
  rw [List.eq_of_mem_replicate hc]
  rfl

theorem isDigit_toDigits (n : Nat) : ∀ c ∈ Nat.toDigits 10 n, c.isDigit = true :=
  fun _ hc => Nat.isDigit_of_mem_toDigits (by decide) (by decide) hc

theorem head?_toDigits_ne_zero {n : Nat} (hn : 0 < n) : (Nat.toDigits 10 n).head? ≠ some '0' := by
  induction n using Nat.strongRecOn with
  | ind n ih =>
    rw [Nat.toDigits_eq_if (by decide)]
    split
    · rw [List.head?_cons, ne_eq, Option.some.injEq, Nat.digitChar_eq_zero]
      omega
    · rw [List.head?_append_of_ne_nil _ Nat.toDigits_ne_nil]
      exact ih (n / 10) (by omega) (by omega)

theorem padded_digits (width n : Nat) :
    (∀ c ∈ Decimal.padded width n, c.isDigit = true) ∧ Decimal.padded width n ≠ [] ∧
      Numeral.digitsValue (Decimal.padded width n) = n := by
  unfold Decimal.padded
  refine ⟨List.forall_mem_append.2 ⟨isDigit_zeros _, isDigit_toDigits n⟩, ?_, ?_⟩
  · exact List.append_ne_nil_of_right_ne_nil _ Nat.toDigits_ne_nil
  · rw [Numeral.digitsValue_append, Numeral.digitsValue_zeros, Nat.mul_zero, Nat.zero_add,
      Numeral.digitsValue_toDigits]

namespace Decimal

/-- Whether a text writes the decimal of some digits, in units of ten to the power `k`. -/
def Writes (ds : List Char) (k : Int) (text : List Char) : Prop :=
  ∃ whole fraction exponent, IsDecimal whole fraction exponent ∧
    text = decimalText whole fraction exponent ∧
    (Numeral.digitsValue (whole ++ fraction) : ℚ) * 10 ^ (exponent.getD 0 - fraction.length) =
      Numeral.digitsValue ds * 10 ^ k

section
variable {ds : List Char} (hdigit : ∀ c ∈ ds, c.isDigit = true) (hne : ds ≠ [])
include hdigit hne

theorem writes_small {place : Int} (hplace : place ≤ 0) :
    Writes ds (place - ds.length) (positional ds place) := by
  refine ⟨['0'], List.replicate (-place).toNat '0' ++ ds, none,
    ⟨?_, List.cons_ne_nil _ _, fun _ => rfl, ?_, ?_⟩, ?_, ?_⟩
  · exact List.forall_mem_singleton.2 rfl
  · exact List.forall_mem_append.2 ⟨isDigit_zeros _, hdigit⟩
  · exact .inl (List.append_ne_nil_of_right_ne_nil _ hne)
  · unfold positional
    rw [if_pos hplace]
    simp [decimalText, hne]
  · rw [List.singleton_append, ← List.cons_append, ← List.replicate_succ, Numeral.digitsValue_append,
      Numeral.digitsValue_zeros, Nat.mul_zero, Nat.zero_add, List.length_append, List.length_replicate,
      Option.getD_none]
    congr 2
    push_cast
    omega

theorem writes_large {place : Int} (hhead : ds.head? = some '0' → ds = ['0'] ∧ place = ds.length)
    (hplace : 0 < place) (hlen : ds.length ≤ place.toNat) :
    Writes ds (place - ds.length) (positional ds place) := by
  refine ⟨ds ++ List.replicate (place.toNat - ds.length) '0', ['0'], none,
    ⟨?_, List.append_ne_nil_of_left_ne_nil hne _, ?_, ?_, ?_⟩, ?_, ?_⟩
  · exact List.forall_mem_append.2 ⟨hdigit, isDigit_zeros _⟩
  · rw [List.head?_append_of_ne_nil _ hne]
    intro hzero
    obtain ⟨rfl, rfl⟩ := hhead hzero
    rfl
  · exact List.forall_mem_singleton.2 rfl
  · exact .inl (List.cons_ne_nil _ _)
  · unfold positional
    rw [if_neg (not_le.2 hplace), if_pos hlen]
    simp [decimalText]
  · obtain ⟨n, hn⟩ := Int.eq_ofNat_of_zero_le (show 0 ≤ place - ds.length by omega)
    have hgap : place.toNat - ds.length = n := by omega
    rw [hgap, hn, Numeral.digitsValue_append, Numeral.digitsValue_append, Numeral.digitsValue_zeros]
    simp [Numeral.digitsValue]
    ring

theorem writes_between {place : Int} (hhead : ds.head? = some '0' → ds = ['0'])
    (hplace : 0 < place) (hlen : place.toNat < ds.length) :
    Writes ds (place - ds.length) (positional ds place) := by
  refine ⟨ds.take place.toNat, ds.drop place.toNat, none,
    ⟨fun c hc => hdigit c (List.mem_of_mem_take hc), ?_, ?_,
      fun c hc => hdigit c (List.mem_of_mem_drop hc), .inl ?_⟩, ?_, ?_⟩
  · rw [ne_eq, List.take_eq_nil_iff]
    rintro (h | h)
    · omega
    · exact hne h
  · rw [List.head?_take, if_neg (by omega)]
    intro hzero
    rw [hhead hzero, List.length_singleton] at hlen
    omega
  · rw [ne_eq, List.drop_eq_nil_iff]
    omega
  · unfold positional
    rw [if_neg (not_le.2 hplace), if_neg (not_le.2 hlen)]
    simp [decimalText, hlen]
  · rw [List.take_append_drop, List.length_drop, Option.getD_none]
    congr 2
    omega

theorem writes_scientific (exponent : Int) :
    Writes ds (exponent + 1 - ds.length) (scientific 2 ds exponent) := by
  refine ⟨ds.take 1, ds.drop 1, some exponent, ⟨fun c hc => hdigit c (List.mem_of_mem_take hc), ?_, ?_,
    fun c hc => hdigit c (List.mem_of_mem_drop hc), .inr rfl⟩, ?_, ?_⟩
  · rw [ne_eq, List.take_eq_nil_iff]
    rintro (h | h)
    · cases h
    · exact hne h
  · obtain ⟨c, cs, rfl⟩ := List.exists_cons_of_ne_nil hne
    intro hzero
    cases hzero
    rfl
  · have hone : (ds.drop 1).isEmpty = decide (ds.length ≤ 1) := by
      rw [Bool.eq_iff_iff, List.isEmpty_iff, List.drop_eq_nil_iff, decide_eq_true_eq]
    unfold scientific decimalText
    rw [hone, List.append_assoc]
    simp only [decide_eq_true_eq]
    rfl
  · have hlength := List.length_pos_iff.2 hne
    rw [List.take_append_drop, List.length_drop, Option.getD_some]
    congr 2
    omega

end

/-- What a number is written as has the value of its shortest decimal. -/
theorem writes_standard {d : Scaled} (h : 0 < d.digits ∨ d = ⟨0, 0⟩) :
    Writes (Nat.toDigits 10 d.digits) d.exponent (standardLayout.write d) := by
  obtain ⟨digits, k⟩ := d
  have hdigit := isDigit_toDigits digits
  have hne := Nat.toDigits_ne_nil (n := digits) (b := 10)
  have hhead : (Nat.toDigits 10 digits).head? = some '0' → Nat.toDigits 10 digits = ['0'] ∧ k = 0 := by
    intro hzero
    rcases h with h | h
    · exact absurd hzero (head?_toDigits_ne_zero h)
    · cases h
      exact ⟨rfl, rfl⟩
  unfold Layout.write
  simp only
  generalize Nat.toDigits 10 digits = ds at *
  have hplace : k + ds.length - 1 + 1 = k + ds.length := by omega
  have hunit : k + ds.length - ds.length = k := by omega
  rw [hplace]
  split
  · by_cases hsmall : k + ds.length ≤ 0
    · have hwrites := writes_small hdigit hne hsmall
      rwa [hunit] at hwrites
    · by_cases hlarge : ds.length ≤ (k + ds.length).toNat
      · have hone (hzero : ds.head? = some '0') : ds = ['0'] ∧ k + ds.length = ds.length := by
          obtain ⟨hds, hk⟩ := hhead hzero
          exact ⟨hds, by omega⟩
        have hwrites := writes_large hdigit hne hone (not_le.1 hsmall) hlarge
        rwa [hunit] at hwrites
      · have hwrites := writes_between hdigit hne (fun hzero => (hhead hzero).1) (not_le.1 hsmall)
          (not_le.1 hlarge)
        rwa [hunit] at hwrites
  · have hwrites := writes_scientific hdigit hne (k + ds.length - 1)
    rwa [hplace, hunit] at hwrites

/-- What a finite number is printed as is a decimal text that is rounded to the number. -/
theorem text_eq_decimalText {x : Float} (hx : Binary64.isFinite x = true) :
    ∃ negative whole fraction exponent, IsDecimal whole fraction exponent ∧
      (text x).toList = (if negative then ['-'] else []) ++ decimalText whole fraction exponent ∧
      Numeral.nearestDecimal negative (Numeral.digitsValue (whole ++ fraction))
        (exponent.getD 0 - fraction.length) = x := by
  obtain ⟨negative, m, e, hshape⟩ := Binary64.shape_of_isFinite hx
  have hnumber := (Binary64.shape_cases hshape).1
  have hshortest : 0 < (shortest m e).digits ∨ shortest m e = ⟨0, 0⟩ := by
    rcases Nat.eq_zero_or_pos m with rfl | hm
    · exact .inr rfl
    · exact .inl (digits_shortest_pos hnumber hm)
  have htext : (text x).toList =
      (if negative then ['-'] else []) ++ standardLayout.write (shortest m e) := by
    unfold text
    rw [hshape]
    exact String.toList_ofList
  obtain ⟨whole, fraction, exponent, hdecimal, hwrite, hvalue⟩ := writes_standard hshortest
  rw [Numeral.digitsValue_toDigits] at hvalue
  refine ⟨negative, whole, fraction, exponent, hdecimal, htext.trans (by rw [hwrite]), ?_⟩
  rcases Nat.eq_zero_or_pos m with rfl | hm
  · have hnone : Numeral.digitsValue (whole ++ fraction) = 0 := by
      rw [show (shortest 0 e).digits = 0 from rfl, Nat.cast_zero, zero_mul, mul_eq_zero] at hvalue
      exact_mod_cast hvalue.resolve_right (by positivity)
    unfold Numeral.nearestDecimal
    simp only
    rw [if_pos (.inl hnone)]
    exact Binary64.nearest_zero hshape
  · refine Numeral.nearestDecimal_eq hshape hm ?_
    rw [hvalue]
    exact contains_shortest hnumber hm

end Decimal
end Formulary
