import Mathlib
import Formulary.Decimal.Shortest
/-!
# Rounding to the nearest number

The fractions that are rounded to a given number are those in its interval: half a step up, and half
a step down, where the step below a power of two is half as long. The ends belong to the interval of
an even significand.
-/

set_option autoImplicit false
namespace Formulary

namespace Decimal.Interval

/-- Whether a fraction, in units of the interval, lies in it. -/
def Contains (i : Interval) (y : ℚ) : Prop :=
  (i.low : ℚ) ≤ y ∧ y ≤ i.high ∧ (i.closed = false → (i.low : ℚ) < y ∧ y < i.high)

theorem low_ofNumber (m : Nat) (e : Int) : (4 * m - 2 : ℚ) ≤ (ofNumber m e).low := by
  have h : 4 * m ≤ (ofNumber m e).low + 2 := by
    unfold ofNumber
    simp only
    split <;> omega
  have : (4 * m : ℚ) ≤ (ofNumber m e).low + 2 := by exact_mod_cast h
  linarith

theorem low_ofNumber_power {e : Int} (h : -1074 < e) :
    ((ofNumber (2 ^ 52) e).low : ℚ) = 2 ^ 54 - 1 := by
  have hlow : (ofNumber (2 ^ 52) e).low = 2 ^ 54 - 1 := by
    unfold ofNumber
    simp only
    rw [if_pos ⟨rfl, h⟩]
    rfl
  rw [hlow]
  norm_num

theorem high_ofNumber (m : Nat) (e : Int) : ((ofNumber m e).high : ℚ) = 4 * m + 2 := by
  unfold ofNumber
  push_cast
  rfl

theorem closed_ofNumber {m : Nat} (e : Int) (h : m % 2 = 1) : (ofNumber m e).closed = false :=
  decide_eq_false (by omega)

end Decimal.Interval

namespace Binary64

/-- Whether a significand and an exponent are those of a finite number. -/
structure IsNumber (m : Nat) (e : Int) : Prop where
  significand_lt : m < 2 ^ 53
  least_le : -1074 ≤ e
  le_greatest : e ≤ 971
  least_of_lt : m < 2 ^ 52 → e = -1074

theorem shape_cases {x : Float} {negative : Bool} {m : Nat} {e : Int}
    (h : shape x = .finite negative m e) :
    IsNumber m e ∧
      x.toBits.toNat = m + (e + 1074).toNat * 2 ^ 52 + if negative then 2 ^ 63 else 0 := by
  have hbits : x.toBits.toNat < 2 ^ 64 := x.toBits.toNat_lt
  unfold shape Shape.ofBits at h
  generalize x.toBits.toNat = b at h hbits
  simp only [twoTo, Nat.pow_eq] at h
  norm_num at h hbits ⊢
  have hsign : (if 9223372036854775808 ≤ b then (9223372036854775808 : Nat) else 0) =
      9223372036854775808 * (b / 9223372036854775808) := by
    split <;> omega
  split at h
  · split at h <;> cases h
  · split at h
    · rename_i hfield hzero
      cases h
      refine ⟨⟨by norm_num; omega, by omega, by omega, fun _ => rfl⟩, ?_⟩
      simp only [decide_eq_true_eq, hsign]
      omega
    · rename_i hfield hzero
      cases h
      refine ⟨⟨by norm_num; omega, by omega, by omega, fun hm => ?_⟩, ?_⟩
      · norm_num at hm
      · simp only [decide_eq_true_eq, hsign]
        omega

theorem shape_of_isFinite {x : Float} (hx : isFinite x = true) :
    ∃ negative m e, shape x = .finite negative m e := by
  unfold isFinite at hx
  split at hx
  · rename_i negative m e hshape
    exact ⟨negative, m, e, hshape⟩
  · cases hx

/-- A fraction is rounded to `n` when it lies within half a unit of it, ties going to even ones. -/
theorem roundQuotient_of_bounds {a b n : Nat} (hb : 0 < b) (hlow : 2 * n * b ≤ 2 * a + b)
    (hhigh : 2 * a ≤ 2 * n * b + b)
    (hodd : n % 2 = 1 → 2 * n * b < 2 * a + b ∧ 2 * a < 2 * n * b + b) : roundQuotient a b = n := by
  have hdiv := Nat.div_add_mod a b
  have hmod := Nat.mod_lt a hb
  unfold roundQuotient
  simp only
  generalize a / b = q at *
  generalize a % b = r at *
  -- the quotient lies at most one below the rounded value and not above it
  have hq : q = n ∨ q + 1 = n := by
    rcases Nat.lt_trichotomy q n with h | h | h
    · right
      by_contra hne
      have : (q + 2) * b ≤ n * b := Nat.mul_le_mul_right b (by omega)
      nlinarith
    · exact .inl h
    · have : (n + 1) * b ≤ q * b := Nat.mul_le_mul_right b h
      nlinarith
  rcases hq with rfl | rfl
  · rw [if_neg]
    rintro (h | ⟨h, hone⟩)
    · nlinarith
    · have := (hodd hone).2
      nlinarith
  · rw [if_pos]
    have : b ≤ 2 * r := by nlinarith
    rcases Nat.lt_or_eq_of_le this with h | h
    · exact .inl h
    · refine .inr ⟨h.symm, ?_⟩
      by_contra hne
      have := (hodd (by omega)).1
      nlinarith

theorem roundQuotient_eq {a b n : Nat} (hb : 0 < b) (hlow : (n : ℚ) - 1 / 2 ≤ a / b)
    (hhigh : (a / b : ℚ) ≤ n + 1 / 2)
    (hodd : n % 2 = 1 → (n : ℚ) - 1 / 2 < a / b ∧ (a / b : ℚ) < n + 1 / 2) :
    roundQuotient a b = n := by
  have hb' : (0 : ℚ) < b := by exact_mod_cast hb
  refine roundQuotient_of_bounds hb ?_ ?_ fun h => ?_
  · rw [le_div_iff₀ hb'] at hlow
    have : (2 * n * b : ℚ) ≤ 2 * a + b := by linarith
    exact_mod_cast this
  · rw [div_le_iff₀ hb'] at hhigh
    have : (2 * a : ℚ) ≤ 2 * n * b + b := by linarith
    exact_mod_cast this
  · obtain ⟨h₁, h₂⟩ := hodd h
    rw [lt_div_iff₀ hb'] at h₁
    rw [div_lt_iff₀ hb'] at h₂
    have h₃ : (2 * n * b : ℚ) < 2 * a + b := by linarith
    have h₄ : (2 * a : ℚ) < 2 * n * b + b := by linarith
    exact ⟨by exact_mod_cast h₃, by exact_mod_cast h₄⟩

theorem toNat_pow_div (b : ℚ) (n : ℤ) : b ^ n.toNat / b ^ (-n).toNat = b ^ n := by
  rcases Int.le_total 0 n with h | h
  · have hneg : (-n).toNat = 0 := by omega
    rw [hneg, pow_zero, div_one, ← zpow_natCast, Int.toNat_of_nonneg h]
  · have hpos : n.toNat = 0 := by omega
    rw [hpos, pow_zero, one_div, ← zpow_natCast, Int.toNat_of_nonneg (by omega), zpow_neg, inv_inv]

theorem scaled_pos (num : Nat) {den : Nat} (hden : 0 < den) (e : Int) : 0 < (scaled num den e).2 :=
  Nat.mul_pos hden (Nat.pow_pos (by decide))

theorem scaled_div (num den : Nat) (e : Int) :
    ((scaled num den e).1 : ℚ) / (scaled num den e).2 = num / den / 2 ^ e := by
  have h := toNat_pow_div 2 (-e)
  rw [neg_neg, zpow_neg] at h
  simp only [scaled, twoTo, Nat.pow_eq, Nat.cast_mul, Nat.cast_pow, Nat.cast_ofNat]
  rw [mul_div_mul_comm, h, div_eq_mul_inv (num / den : ℚ)]

theorem zpow_two_lt_iff {m n : ℤ} : (2 : ℚ) ^ m < 2 ^ n ↔ m < n :=
  zpow_lt_zpow_iff_right₀ (by norm_num)

theorem log2_bounds {n : Nat} (hn : 0 < n) :
    (2 : ℚ) ^ (n.log2 : ℤ) ≤ n ∧ (n : ℚ) < 2 ^ ((n.log2 : ℤ) + 1) := by
  have hlow := Nat.log2_self_le (n := n) (by omega)
  have hhigh := Nat.lt_log2_self (n := n)
  constructor
  · rw [zpow_natCast]
    exact_mod_cast hlow
  · have : ((n.log2 : ℤ) + 1) = ((n.log2 + 1 : ℕ) : ℤ) := by push_cast; rfl
    rw [this, zpow_natCast]
    exact_mod_cast hhigh

theorem fittingExponent_eq {num den : Nat} (hnum : 0 < num) (hden : 0 < den) {e : Int}
    (he : -1074 ≤ e) (hhigh : (num / den : ℚ) < 2 ^ (e + 53))
    (hlow : e = -1074 ∨ (2 : ℚ) ^ (e + 52) ≤ num / den) : fittingExponent num den = e := by
  obtain ⟨hnum₁, hnum₂⟩ := log2_bounds hnum
  obtain ⟨hden₁, hden₂⟩ := log2_bounds hden
  have hden₀ : (0 : ℚ) < den := by exact_mod_cast hden
  unfold fittingExponent
  simp only
  generalize hk : (num.log2 : ℤ) - den.log2 - 52 = k
  have hx₁ : (2 : ℚ) ^ (k + 51) < num / den := by
    rw [lt_div_iff₀ hden₀]
    calc (2 : ℚ) ^ (k + 51) * den < 2 ^ (k + 51) * 2 ^ ((den.log2 : ℤ) + 1) := by gcongr
      _ = 2 ^ (num.log2 : ℤ) := by rw [← zpow_add₀ (by norm_num)]; congr 1; omega
      _ ≤ num := hnum₁
  have hx₂ : (num / den : ℚ) < 2 ^ (k + 53) := by
    rw [div_lt_iff₀ hden₀]
    calc (num : ℚ) < 2 ^ ((num.log2 : ℤ) + 1) := hnum₂
      _ = 2 ^ (k + 53) * 2 ^ (den.log2 : ℤ) := by rw [← zpow_add₀ (by norm_num)]; congr 1; omega
      _ ≤ 2 ^ (k + 53) * den := by gcongr
  have hscaled : (scaled num den k).1 < twoTo 52 * (scaled num den k).2 ↔
      (num / den : ℚ) < 2 ^ (k + 52) := by
    have hpos : (0 : ℚ) < (scaled num den k).2 := by exact_mod_cast scaled_pos num hden k
    have hdiv := scaled_div num den k
    rw [zpow_add₀ (by norm_num), ← div_lt_iff₀' (by positivity), ← hdiv, div_lt_iff₀ hpos]
    simp only [twoTo, Nat.pow_eq]
    norm_cast
  -- the exponent `k'` that gives 53 bits, before it is raised to the least one
  have hfit (k' : ℤ) (h₁ : (2 : ℚ) ^ (k' + 52) ≤ num / den) (h₂ : (num / den : ℚ) < 2 ^ (k' + 53)) :
      max k' (-1074) = e := by
    have hle := zpow_two_lt_iff.1 (lt_of_le_of_lt h₁ hhigh)
    rcases hlow with rfl | hlow
    · omega
    · have hge := zpow_two_lt_iff.1 (lt_of_le_of_lt hlow h₂)
      omega
  split
  · rename_i h
    rw [hscaled] at h
    refine hfit (k - 1) ?_ ?_
    · rw [show k - 1 + 52 = k + 51 by omega]
      exact hx₁.le
    · rw [show k - 1 + 53 = k + 52 by omega]
      exact h
  · rename_i h
    rw [hscaled, not_lt] at h
    exact hfit k h hx₂

theorem nearestBits_of_fit {num den : Nat} (hnum : 0 < num) {e : Int} {n : Nat}
    (he : fittingExponent num den = e)
    (hn : roundQuotient (scaled num den e).1 (scaled num den e).2 = n)
    (hle : n + (e + 1074).toNat * 2 ^ 52 ≤ 2047 * 2 ^ 52) :
    nearestBits num den = n + (e + 1074).toNat * 2 ^ 52 := by
  unfold nearestBits
  rw [if_neg (by omega)]
  simp only [he, hn]
  exact Nat.min_eq_left hle

theorem zpow_units (e : Int) (k : ℕ) : (2 : ℚ) ^ (e - 2 + k) = 2 ^ k * 2 ^ (e - 2) := by
  rw [zpow_add₀ (by norm_num), zpow_natCast, mul_comm]

section
variable {num den : Nat} (hnum : 0 < num) (hden : 0 < den) {e : Int} {y : ℚ}
  (hunit : (num / den : ℚ) = y * 2 ^ (e - 2))
include hnum hden hunit

/-- A fraction that has the exponent of the number. -/
theorem nearestBits_of_exponent {m : Nat} (hleast : -1074 ≤ e) (hfit : e = -1074 ∨ (2 : ℚ) ^ 54 ≤ y)
    (hy : y < 2 ^ 55) (hlow : (4 * m - 2 : ℚ) ≤ y) (hhigh : y ≤ 4 * m + 2)
    (hodd : m % 2 = 1 → (4 * m - 2 : ℚ) < y ∧ y < 4 * m + 2)
    (hle : m + (e + 1074).toNat * 2 ^ 52 ≤ 2047 * 2 ^ 52) :
    nearestBits num den = m + (e + 1074).toNat * 2 ^ 52 := by
  have he : fittingExponent num den = e := by
    refine fittingExponent_eq hnum hden hleast ?_ (hfit.imp_right fun h => ?_)
    · rw [hunit, show e + 53 = e - 2 + (55 : ℕ) by push_cast; omega, zpow_units]
      gcongr
    · rw [hunit, show e + 52 = e - 2 + (54 : ℕ) by push_cast; omega, zpow_units]
      gcongr
  have hquarter : ((scaled num den e).1 : ℚ) / (scaled num den e).2 = y / 4 := by
    rw [scaled_div, hunit, show (2 : ℚ) ^ e = 2 ^ (e - 2 + (2 : ℕ)) by congr 1; push_cast; omega,
      zpow_units, mul_div_mul_right _ _ (by positivity)]
    norm_num
  refine nearestBits_of_fit hnum he (roundQuotient_eq (scaled_pos num hden e) ?_ ?_ fun h => ?_) hle
  · rw [hquarter]
    linarith
  · rw [hquarter]
    linarith
  · obtain ⟨hlow', hhigh'⟩ := hodd h
    rw [hquarter]
    constructor <;> linarith

/-- A fraction within the short step below a power of two, which has the next smaller exponent. -/
theorem nearestBits_below_power (hleast : -1074 < e) (hgreatest : e ≤ 971) (hlow : (2 ^ 54 - 1 : ℚ) ≤ y)
    (hy : y < 2 ^ 54) : nearestBits num den = 2 ^ 52 + (e + 1074).toNat * 2 ^ 52 := by
  have he : fittingExponent num den = e - 1 := by
    refine fittingExponent_eq hnum hden (by omega) ?_ (.inr ?_)
    · rw [hunit, show e - 1 + 53 = e - 2 + (54 : ℕ) by push_cast; omega, zpow_units]
      gcongr
    · rw [hunit, show e - 1 + 52 = e - 2 + (53 : ℕ) by push_cast; omega, zpow_units]
      gcongr
      linarith
  have hhalf : ((scaled num den (e - 1)).1 : ℚ) / (scaled num den (e - 1)).2 = y / 2 := by
    rw [scaled_div, hunit, show (2 : ℚ) ^ (e - 1) = 2 ^ (e - 2 + (1 : ℕ)) by congr 1; push_cast; omega,
      zpow_units, mul_div_mul_right _ _ (by positivity), pow_one]
  have hround := roundQuotient_eq (n := 2 ^ 53) (scaled_pos num hden (e - 1))
    (by rw [hhalf]; push_cast; linarith) (by rw [hhalf]; push_cast; linarith) (by omega)
  rw [nearestBits_of_fit hnum he hround (by omega)]
  omega

end

/-- The fractions of the interval of a number are rounded to it. -/
theorem nearestBits_eq {m : Nat} {e : Int} (h : IsNumber m e) {num den : Nat} (hnum : 0 < num)
    (hden : 0 < den) (hx : (Decimal.Interval.ofNumber m e).Contains (num / den / 2 ^ (e - 2))) :
    nearestBits num den = m + (e + 1074).toNat * 2 ^ 52 := by
  obtain ⟨hm, hleast, hgreatest, hnormal⟩ := h
  obtain ⟨hlow, hhigh, hopen⟩ := hx
  have hlowest := Decimal.Interval.low_ofNumber m e
  rw [Decimal.Interval.high_ofNumber] at hhigh hopen
  generalize hy : (num / den / 2 ^ (e - 2) : ℚ) = y at hlow hhigh hopen
  have hunit : (num / den : ℚ) = y * 2 ^ (e - 2) := by
    rw [← hy, div_mul_cancel₀ _ (by positivity)]
  have hm' : (m : ℚ) + 1 ≤ 2 ^ 53 := by exact_mod_cast hm
  by_cases hfit : e = -1074 ∨ (2 : ℚ) ^ 54 ≤ y
  · refine nearestBits_of_exponent hnum hden hunit hleast hfit (by linarith) (by linarith) hhigh ?_
      (by omega)
    intro hodd
    obtain ⟨hlow', hhigh'⟩ := hopen (Decimal.Interval.closed_ofNumber e hodd)
    exact ⟨lt_of_le_of_lt hlowest hlow', hhigh'⟩
  · -- only the step below a power of two reaches down to the next exponent
    obtain ⟨hne, hy54⟩ := not_or.1 hfit
    rw [not_le] at hy54
    have hge : 2 ^ 52 ≤ m := by
      by_contra hlt
      exact hne (hnormal (by omega))
    have hpower : m = 2 ^ 52 := by
      by_contra hneq
      have hsucc : (2 ^ 52 + 1 : ℚ) ≤ m := by exact_mod_cast Nat.lt_of_le_of_ne hge (Ne.symm hneq)
      linarith
    subst hpower
    rw [Decimal.Interval.low_ofNumber_power (by omega)] at hlow
    exact nearestBits_below_power hnum hden hunit (by omega) hgreatest hlow hy54

theorem nearest_eq {x : Float} {negative : Bool} {m : Nat} {e : Int}
    (h : shape x = .finite negative m e) {num den : Nat} (hnum : 0 < num) (hden : 0 < den)
    (hx : (Decimal.Interval.ofNumber m e).Contains (num / den / 2 ^ (e - 2))) :
    nearest negative num den = x := by
  obtain ⟨hnumber, hbits⟩ := shape_cases h
  unfold nearest
  rw [nearestBits_eq hnumber hnum hden hx]
  have hsign : (if negative then twoTo 63 else 0) = if negative then 2 ^ 63 else 0 := rfl
  rw [hsign, ← hbits, UInt64.ofNat_toNat, Float.ofBits_toBits]

theorem nearest_zero {x : Float} {negative : Bool} {e : Int} (h : shape x = .finite negative 0 e) :
    nearest negative 0 1 = x := by
  obtain ⟨hnumber, hbits⟩ := shape_cases h
  have he := hnumber.least_of_lt (by norm_num)
  subst he
  have hzero : nearestBits 0 1 + (if negative then twoTo 63 else 0) = x.toBits.toNat := by
    rw [hbits]
    rfl
  unfold nearest
  rw [hzero, UInt64.ofNat_toNat, Float.ofBits_toBits]

end Binary64
end Formulary
