import Formulary.Config
import Formulary.Proofs.Tables
/-!
# Names and symbols of a configuration

A function name begins with a letter and goes on with letters, digits and low lines. An operator
symbol is none of these except the low line, and neither a blank, a parenthesis nor the point. So no
text is both a function and an operator.
-/

set_option autoImplicit false
namespace Formulary

namespace Text

theorem isDigit_iff {c : Char} : c.isDigit = true ↔ 48 ≤ c.toNat ∧ c.toNat ≤ 57 :=
  Char.isDigit_iff_toNat

theorem isAlpha_iff {c : Char} :
    c.isAlpha = true ↔ 65 ≤ c.toNat ∧ c.toNat ≤ 90 ∨ 97 ≤ c.toNat ∧ c.toNat ≤ 122 := by
  change (decide ('A'.val ≤ c.val ∧ c.val ≤ 'Z'.val) ||
    (decide ('a'.val ≤ c.val) && decide (c.val ≤ 'z'.val))) = true ↔ _
  rw [Bool.or_eq_true, Bool.and_eq_true, decide_eq_true_iff, decide_eq_true_iff, decide_eq_true_iff]
  rfl

theorem isAlphanum_of_isDigit {c : Char} (h : c.isDigit = true) : c.isAlphanum = true := by
  unfold Char.isAlphanum
  rw [h, Bool.or_true]

theorem isAlphanum_of_isAlpha {c : Char} (h : c.isAlpha = true) : c.isAlphanum = true := by
  unfold Char.isAlphanum
  rw [h, Bool.true_or]

theorem isAlpha_of_isDigit {c : Char} (h : c.isDigit = true) : c.isAlpha = false := by
  refine Bool.eq_false_iff.2 fun ha => ?_
  rw [isDigit_iff] at h
  rw [isAlpha_iff] at ha
  omega

theorem isBlank_of_isAlphanum {c : Char} (h : c.isAlphanum = true) : isBlank c = false := by
  have hc : 48 ≤ c.toNat ∧ c.toNat ≤ 122 := by
    rcases Bool.or_eq_true _ _ ▸ h with h | h
    · have ha := isAlpha_iff.1 h
      omega
    · have hd := isDigit_iff.1 h
      omega
  generalize hn : c.toNat = n at hc
  unfold isBlank
  rw [hn]
  simp only [blankRanges, Ranges.contains]
  rw [if_neg (show ¬n < 9 by omega), decide_eq_false (show ¬n ≤ 13 by omega),
    if_neg (show ¬n < 28 by omega), decide_eq_false (show ¬n ≤ 32 by omega),
    if_pos (show n < 133 by omega)]
  rfl

theorem isAlpha_of_isBlank {c : Char} (h : isBlank c = true) : c.isAlpha = false := by
  refine Bool.eq_false_iff.2 fun ha => ?_
  rw [isBlank_of_isAlphanum (isAlphanum_of_isAlpha ha)] at h
  cases h

theorem isDigit_of_isAlpha {c : Char} (h : c.isAlpha = true) : c.isDigit = false := by
  refine Bool.eq_false_iff.2 fun hd => ?_
  rw [isAlpha_of_isDigit hd] at h
  cases h

end Text

/-- The characters that function names consist of. -/
def isNameCharacter (c : Char) : Bool := c.isAlphanum || c == '_'

theorem isNameCharacter_of_isAlpha {c : Char} (h : c.isAlpha = true) : isNameCharacter c = true := by
  unfold isNameCharacter
  rw [Text.isAlphanum_of_isAlpha h, Bool.true_or]

theorem isBlank_of_isNameCharacter {c : Char} (h : isNameCharacter c = true) :
    Text.isBlank c = false := by
  unfold isNameCharacter at h
  rw [Bool.or_eq_true, beq_iff_eq] at h
  rcases h with h | rfl
  · exact Text.isBlank_of_isAlphanum h
  · decide

theorem isFunctionName_iff {s : String} : isFunctionName s = true ↔
    ∃ c cs, s.toList = c :: cs ∧ c.isAlpha = true ∧ ∀ d ∈ cs, d.isAlphanum = true ∨ d = '_' := by
  unfold isFunctionName
  cases s.toList with
  | nil => simp
  | cons c cs =>
    constructor
    · intro h
      exact ⟨c, cs, rfl, by simpa using h⟩
    · rintro ⟨_, _, ⟨rfl, rfl⟩, h⟩
      simpa using h

theorem functionName_cases {s : String} (h : isFunctionName s = true) :
    ∃ c cs, s.toList = c :: cs ∧ c.isAlpha = true ∧ ∀ d ∈ c :: cs, isNameCharacter d = true := by
  obtain ⟨c, cs, hs, hc, hcs⟩ := isFunctionName_iff.1 h
  refine ⟨c, cs, hs, hc, List.forall_mem_cons.2 ⟨isNameCharacter_of_isAlpha hc, fun d hd => ?_⟩⟩
  unfold isNameCharacter
  rw [Bool.or_eq_true, beq_iff_eq]
  exact hcs d hd

theorem operatorSymbol_cases {s : String} (h : isOperatorSymbol s = true) :
    ∃ c, s = String.singleton c ∧ Text.isAlphanumeric c = false ∧ Text.isBlank c = false ∧
      c ≠ '(' ∧ c ≠ ')' ∧ c ≠ '.' := by
  unfold isOperatorSymbol at h
  split at h
  · rename_i c hs
    simp only [Bool.and_eq_true, Bool.not_eq_true', bne_iff_ne] at h
    obtain ⟨⟨⟨⟨ha, hb⟩, hl⟩, hr⟩, hp⟩ := h
    refine ⟨c, String.toList_injective ?_, ha, hb, hl, hr, hp⟩
    rw [hs, String.toList_singleton]
  · cases h

theorem isOperatorSymbol_iff {s : String} : isOperatorSymbol s = true ↔
    ∃ c, s = String.singleton c ∧ Text.isAlphanumeric c = false ∧ Text.isBlank c = false ∧
      c ≠ '(' ∧ c ≠ ')' ∧ c ≠ '.' := by
  refine ⟨operatorSymbol_cases, ?_⟩
  rintro ⟨c, rfl, ha, hb, hl, hr, hp⟩
  simp [isOperatorSymbol, ha, hb, hl, hr, hp]

namespace Config
variable {cfg : Config}

theorem functionName_of_isFunction {name : String} (h : cfg.isFunction name = true) :
    isFunctionName name = true :=
  cfg.functions_valid name ((Table.contains_iff_mem_keys _ _).1 h)

theorem operatorSymbol_of_isOperator {symbol : String} (h : cfg.isOperator symbol = true) :
    isOperatorSymbol symbol = true :=
  cfg.operators_valid symbol ((Table.contains_iff_mem_keys _ _).1 h)

theorem isFunction_of_isOperator {symbol : String} (h : cfg.isOperator symbol = true) :
    cfg.isFunction symbol = false := by
  obtain ⟨c, rfl, hc, _⟩ := operatorSymbol_cases (operatorSymbol_of_isOperator h)
  refine Bool.eq_false_iff.2 fun hf => ?_
  obtain ⟨d, ds, hds, hd, _⟩ := functionName_cases (functionName_of_isFunction hf)
  rw [String.toList_singleton, List.cons.injEq] at hds
  obtain ⟨rfl, _⟩ := hds
  rw [Text.isAlphanumeric_of_isAlphanum (Text.isAlphanum_of_isAlpha hd)] at hc
  cases hc

theorem precedence_of_get? {symbol : String} {op : Operator}
    (h : cfg.operators.get? symbol = some op) : cfg.precedence symbol = op.precedence := by
  have ho : cfg.isOperator symbol = true := Table.contains_of_get? h
  unfold precedence
  rw [isFunction_of_isOperator ho, h]
  rfl

end Config
end Formulary
