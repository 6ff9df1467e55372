import Formulary.Proofs.Rounding
/-!
# The shortest decimal reads back

The search for the shortest decimal of a number always ends with one that lies in the interval of
the number: seventeen digits are enough.
-/

set_option autoImplicit false
namespace Formulary.Decimal

/-- The value of a decimal. -/
def Scaled.value (d : Scaled) : ℚ := d.digits * 10 ^ d.exponent

namespace Interval

/-- The test of a neighbour on the grid of step `den / num`. -/
def inside (i : Interval) (num den c : Nat) : Bool :=
  if i.closed then i.low * num ≤ c * den && c * den ≤ i.high * num
  else i.low * num < c * den && c * den < i.high * num

variable {i : Interval} {num den c : Nat}

theorem contains_of_inside (hnum : 0 < num) (h : i.inside num den c = true) :
    i.Contains (c * den / num) := by
  have hnum' : (0 : ℚ) < num := by exact_mod_cast hnum
  unfold inside at h
  unfold Contains
  rw [le_div_iff₀ hnum', div_le_iff₀ hnum', lt_div_iff₀ hnum', div_lt_iff₀ hnum']
  norm_cast
  cases hclosed : i.closed <;> simp [hclosed] at h ⊢ <;> omega

theorem inside_of_lt (hlow : i.low * num < c * den) (hhigh : c * den < i.high * num) :
    i.inside num den c = true := by
  unfold inside
  rw [decide_eq_true hlow, decide_eq_true hhigh, decide_eq_true hlow.le, decide_eq_true hhigh.le]
  cases i.closed <;> rfl

theorem neighbour?_eq (i : Interval) (num den : Nat) : i.neighbour? num den =
    let below := i.value * num / den
    match i.inside num den below, i.inside num den (below + 1) with
    | true, true =>
      let down := i.value * num - below * den
      let up := (below + 1) * den - i.value * num
      some (if down < up ∨ (down = up ∧ below % 2 = 0) then below else below + 1)
    | true, false => some below
    | false, true => some (below + 1)
    | false, false => none := rfl

theorem inside_of_neighbour? (h : i.neighbour? num den = some c) : i.inside num den c = true := by
  rw [neighbour?_eq] at h
  simp only at h
  split at h
  · rename_i hbelow habove
    rw [Option.some.injEq] at h
    subst h
    split
    · exact hbelow
    · exact habove
  · rename_i hbelow _
    cases h
    exact hbelow
  · rename_i _ habove
    cases h
    exact habove
  · cases h

/-- On a grid finer than the upper half of the interval the neighbour above lies in it. -/
theorem neighbour?_of_fine (hlow : i.low ≤ i.value) (hhigh : i.high = i.value + 2) (hden : 0 < den)
    (hfine : den < 2 * num) : ∃ c, i.neighbour? num den = some c := by
  have hbase : i.low * num ≤ i.value * num := Nat.mul_le_mul_right num hlow
  have hdown := Nat.div_mul_le_self (i.value * num) den
  have hup := Nat.lt_div_mul_add hden (a := i.value * num)
  have hstep : (i.value * num / den + 1) * den = i.value * num / den * den + den := by ring
  have htop : i.high * num = i.value * num + 2 * num := by rw [hhigh]; ring
  have habove : i.inside num den (i.value * num / den + 1) = true :=
    inside_of_lt (by omega) (by omega)
  rw [neighbour?_eq]
  simp only [habove]
  cases i.inside num den (i.value * num / den) with
  | true => exact ⟨_, rfl⟩
  | false => exact ⟨_, rfl⟩

end Interval

/-- The grid of step ten to the power `k`, in units of two to the power `e - 2`. -/
theorem grid_step (e k : Int) :
    ((twoTo (2 - e).toNat * tenTo k.toNat : Nat) : ℚ) / (twoTo (e - 2).toNat * tenTo (-k).toNat : Nat) =
      10 ^ k / 2 ^ (e - 2) := by
  have htwo := Binary64.toNat_pow_div 2 (e - 2)
  have hten := Binary64.toNat_pow_div 10 k
  rw [neg_sub] at htwo
  simp only [twoTo, tenTo, Nat.pow_eq, Nat.cast_mul, Nat.cast_pow, Nat.cast_ofNat]
  rw [← htwo, ← hten, div_div_div_eq]
  ring

theorem searchGrids_cases {i : Interval} {e : Int} {tries : Nat} {k : Int}
    (h : ∃ c, i.neighbour? (twoTo (e - 2).toNat * tenTo (-(k - tries)).toNat)
      (twoTo (2 - e).toNat * tenTo (k - tries).toNat) = some c) :
    i.Contains ((searchGrids i e (tries + 1) k).value / 2 ^ (e - 2)) := by
  have hpos (k : Int) : 0 < twoTo (e - 2).toNat * tenTo (-k).toNat :=
    Nat.mul_pos (Nat.pow_pos (by decide)) (Nat.pow_pos (by decide))
  have hfound {c : Nat} {k : Int} (hc : i.neighbour? (twoTo (e - 2).toNat * tenTo (-k).toNat)
      (twoTo (2 - e).toNat * tenTo k.toNat) = some c) :
      i.Contains (Scaled.value ⟨c, k⟩ / 2 ^ (e - 2)) := by
    have hc' := Interval.contains_of_inside (hpos k) (Interval.inside_of_neighbour? hc)
    rw [mul_div_assoc, grid_step, ← mul_div_assoc] at hc'
    exact hc'
  induction tries generalizing k with
  | zero =>
    obtain ⟨c, hc⟩ := h
    rw [Nat.cast_zero, sub_zero] at hc
    rw [searchGrids]
    simp only [hc]
    exact hfound hc
  | succ n ih =>
    rw [searchGrids]
    split
    · rename_i c hc
      exact hfound hc
    · refine ih ?_
      rw [show k - 1 - (n : Int) = k - (n + 1 : Nat) by push_cast; ring]
      exact h

/-- The seventeenth digit is finer than half a step. -/
theorem ten_zpow_lt {l : Int} (hleast : -1074 ≤ l) (hgreatest : l ≤ 1023) :
    (10 : ℚ) ^ (l * 30103 / 100000 - 17) < 2 ^ (l - 53) := by
  obtain ⟨k, hk⟩ : ∃ k, l * 30103 / 100000 - 17 = k := ⟨_, rfl⟩
  rw [hk]
  -- `10 ^ 3` is just below `2 ^ 10`, and `10 ^ 28` just above `2 ^ 93`
  rcases Int.le_total 0 k with hpos | hneg
  · obtain ⟨n, rfl⟩ := Int.eq_ofNat_of_zero_le hpos
    refine lt_of_pow_lt_pow_left₀ 3 (by positivity) ?_
    calc ((10 : ℚ) ^ (n : ℤ)) ^ 3 = (10 ^ 3) ^ n := by rw [zpow_natCast, ← pow_mul, ← pow_mul']
      _ ≤ (2 ^ 10) ^ n := by gcongr; norm_num
      _ = 2 ^ ((10 * n : ℕ) : ℤ) := by rw [← pow_mul, zpow_natCast]
      _ < 2 ^ ((l - 53) * (3 : ℕ)) := Binary64.zpow_two_lt_iff.2 (by omega)
      _ = (2 ^ (l - 53)) ^ 3 := by rw [zpow_mul, zpow_natCast]
  · obtain ⟨n, rfl⟩ := Int.exists_eq_neg_ofNat hneg
    refine lt_of_pow_lt_pow_left₀ 28 (by positivity) ?_
    calc ((10 : ℚ) ^ (-n : ℤ)) ^ 28 = ((10 ^ 28) ^ n)⁻¹ := by
          rw [zpow_neg, inv_pow, zpow_natCast, ← pow_mul, ← pow_mul']
      _ ≤ ((2 ^ 93) ^ n)⁻¹ := by gcongr; norm_num
      _ = 2 ^ (-(93 * n : ℕ) : ℤ) := by rw [← pow_mul, zpow_neg, zpow_natCast]
      _ < 2 ^ ((l - 53) * (28 : ℕ)) := Binary64.zpow_two_lt_iff.2 (by omega)
      _ = (2 ^ (l - 53)) ^ 28 := by rw [zpow_mul, zpow_natCast]

/-- The shortest decimal of a number is rounded to that number. -/
theorem contains_shortest {m : Nat} {e : Int} (h : Binary64.IsNumber m e) (hm : 0 < m) :
    (Interval.ofNumber m e).Contains ((shortest m e).value / 2 ^ (e - 2)) := by
  obtain ⟨hlt, hleast, hgreatest, hnormal⟩ := h
  have hlog : m.log2 < 53 := (Nat.log2_lt (by omega)).2 hlt
  have hl : -1074 ≤ (m.log2 : Int) + e := by omega
  have hlast : (m.log2 + e) * 30103 / 100000 + 2 - (19 : Nat) = (m.log2 + e) * 30103 / 100000 - 17 := by
    push_cast
    ring
  unfold shortest
  rw [if_neg (by omega)]
  refine searchGrids_cases (Interval.neighbour?_of_fine ?_ rfl ?_ ?_)
  · exact Nat.sub_le _ _
  · exact Nat.mul_pos (Nat.pow_pos (by decide)) (Nat.pow_pos (by decide))
  · rw [hlast]
    have hfine := ten_zpow_lt hl (by omega)
    have hstep := grid_step e ((m.log2 + e) * 30103 / 100000 - 17)
    generalize (m.log2 + e) * 30103 / 100000 - 17 = k at *
    have hten : (10 : ℚ) ^ k < 2 * 2 ^ (e - 2) := by
      refine hfine.trans_le ?_
      rw [← zpow_one_add₀ (by norm_num)]
      exact zpow_le_zpow_right₀ (by norm_num) (by omega)
    have hnum : 0 < twoTo (e - 2).toNat * tenTo (-k).toNat :=
      Nat.mul_pos (Nat.pow_pos (by decide)) (Nat.pow_pos (by decide))
    have hnum' : (0 : ℚ) < (twoTo (e - 2).toNat * tenTo (-k).toNat : Nat) := by exact_mod_cast hnum
    rw [div_eq_iff hnum'.ne'] at hstep
    have hden : ((twoTo (2 - e).toNat * tenTo k.toNat : Nat) : ℚ) <
        2 * (twoTo (e - 2).toNat * tenTo (-k).toNat : Nat) := by
      rw [hstep]
      gcongr
      rwa [div_lt_iff₀ (by positivity)]
    exact_mod_cast hden

theorem digits_shortest_pos {m : Nat} {e : Int} (h : Binary64.IsNumber m e) (hm : 0 < m) :
    0 < (shortest m e).digits := by
  obtain ⟨hlow, _⟩ := contains_shortest h hm
  have hone : (1 : ℚ) ≤ m := by exact_mod_cast hm
  have hpos : 0 < (shortest m e).value / 2 ^ (e - 2) := by
    have := Interval.low_ofNumber m e
    linarith
  by_contra hzero
  have hnone : (shortest m e).digits = 0 := by omega
  unfold Scaled.value at hpos
  rw [hnone] at hpos
  norm_num at hpos

end Formulary.Decimal
