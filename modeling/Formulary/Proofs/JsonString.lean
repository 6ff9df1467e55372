import Mathlib
import Formulary.Json.Parser
import Formulary.Json.Printer
/-!
# Strings in a JSON text

A string is written with printable ASCII characters only, whatever its code points are, and the reader
finds its end and the units of each of its code points again, which make up the same text.
-/

set_option autoImplicit false
namespace Formulary

/-- Whether a character is printable ASCII. -/
def IsPlainChar (c : Char) : Prop := 32 ≤ c.toNat ∧ c.toNat < 127

instance (c : Char) : Decidable (IsPlainChar c) := inferInstanceAs (Decidable (_ ∧ _))

theorem isPlainChar_digitChar {n : Nat} (h : n < 16) : IsPlainChar (Nat.digitChar n) := by
  unfold IsPlainChar
  revert n
  decide

namespace Text

theorem hexDigits_succ {width : Nat} (hwidth : 0 < width) (n : Nat) :
    hexDigits (width + 1) n = hexDigits width (n / 16) ++ [Nat.digitChar (n % 16)] := by
  unfold hexDigits
  simp only
  rw [Nat.toDigits_eq_if (n := n) (by decide)]
  split
  · rename_i h
    have hzero : n / 16 = 0 := by omega
    have hmod : n % 16 = n := by omega
    rw [hzero, hmod, Nat.toDigits_zero, List.length_singleton, List.length_singleton, Nat.add_sub_cancel,
      ← List.replicate_succ', Nat.sub_add_cancel hwidth]
  · rw [List.length_append, List.length_singleton, Nat.add_sub_add_right, List.append_assoc]

theorem hexDigits_one {n : Nat} (h : n < 16) : hexDigits 1 n = [Nat.digitChar n] := by
  unfold hexDigits
  rw [Nat.toDigits_of_lt_base h]
  rfl

theorem hexDigits_four {n : Nat} (h : n < 0x10000) :
    hexDigits 4 n = [Nat.digitChar (n / 4096), Nat.digitChar (n / 256 % 16),
      Nat.digitChar (n / 16 % 16), Nat.digitChar (n % 16)] := by
  have hone : n / 16 / 16 / 16 < 16 := by omega
  have htwo : n / 16 / 16 = n / 256 := Nat.div_div_eq_div_mul n 16 16
  have hthree : n / 256 / 16 = n / 4096 := Nat.div_div_eq_div_mul n 256 16
  rw [hexDigits_succ (by decide), hexDigits_succ (by decide), hexDigits_succ (by decide),
    hexDigits_one hone, htwo, hthree]
  rfl

end Text

namespace Json

theorem hexValue?_digitChar {n : Nat} (h : n < 16) : hexValue? (Nat.digitChar n) = some n := by
  revert n
  decide

theorem readUnit?_hexDigits {n : Nat} (h : n < 0x10000) (rest : List Char) :
    readUnit? (Text.hexDigits 4 n ++ rest) = some (n, rest) := by
  rw [Text.hexDigits_four h]
  simp only [List.cons_append, List.nil_append, readUnit?]
  rw [hexValue?_digitChar (by omega), hexValue?_digitChar (by omega), hexValue?_digitChar (by omega),
    hexValue?_digitChar (by omega)]
  have hn : (n / 4096 * 16 + n / 256 % 16) * 256 + n / 16 % 16 * 16 + n % 16 = n := by omega
  simp [hn]

theorem isPlainChar_unit {n : Nat} (h : n < 0x10000) :
    ∀ c ∈ 'u' :: Text.hexDigits 4 n, IsPlainChar c := by
  rw [Text.hexDigits_four h]
  simp only [List.forall_mem_cons]
  exact ⟨by decide, isPlainChar_digitChar (by omega), isPlainChar_digitChar (by omega),
    isPlainChar_digitChar (by omega), isPlainChar_digitChar (by omega), List.forall_mem_nil _⟩

theorem toNat_not_surrogate (c : Char) : c.toNat < 0xd800 ∨ 0xdfff < c.toNat ∧ c.toNat < 0x110000 :=
  c.valid

theorem readEscape?_unit {n : Nat} (h : n < 0x10000) (rest : List Char) :
    readEscape? ('u' :: Text.hexDigits 4 n ++ rest) = some (ofUnit n, rest) := by
  rw [List.cons_append, readEscape?, readUnit?_hexDigits h]
  rfl

theorem ofUnit_char {c : Char} (h : c.toNat < 0x10000) : ofUnit c.toNat = .char c := by
  have hvalid := toNat_not_surrogate c
  unfold ofUnit
  rw [if_neg (by omega), if_neg (by omega), Char.ofNat_toNat]

theorem ofUnit_high {n : Nat} (h : n < 1024) : ofUnit (0xd800 + n) = .high (Fin.ofNat 1024 n) := by
  unfold ofUnit
  rw [if_pos (by omega), Nat.add_sub_cancel_left]

theorem ofUnit_low {n : Nat} (h : n < 1024) : ofUnit (0xdc00 + n) = .low (Fin.ofNat 1024 n) := by
  unfold ofUnit
  rw [if_neg (by omega), if_pos (by omega), Nat.add_sub_cancel_left]

/-- Whether a text inside of a string is read as units: it is printable, no unit comes without a
character, and the reader goes past it. -/
structure ReadsUnits (cs : List Char) (units : List CodePoint) : Prop where
  plain : ∀ c ∈ cs, IsPlainChar c
  length : units.length ≤ cs.length
  read : ∀ n done rest,
    readString? (n + units.length) done (cs ++ rest) = readString? n (units.reverse ++ done) rest

namespace ReadsUnits

theorem nil : ReadsUnits [] [] := ⟨List.forall_mem_nil _, Nat.le_refl _, fun _ _ _ => rfl⟩

theorem append {cs ds : List Char} {ps qs : List CodePoint} (hc : ReadsUnits cs ps)
    (hd : ReadsUnits ds qs) : ReadsUnits (cs ++ ds) (ps ++ qs) where
  plain := List.forall_mem_append.2 ⟨hc.plain, hd.plain⟩
  length := by
    rw [List.length_append, List.length_append]
    exact Nat.add_le_add hc.length hd.length
  read n done rest := by
    rw [List.length_append, Nat.add_comm ps.length, ← Nat.add_assoc, List.append_assoc, hc.read, hd.read,
      List.reverse_append, List.append_assoc]

theorem char {c : Char} (hmark : c ≠ '\"') (hslash : c ≠ '\\') (h : IsPlainChar c) :
    ReadsUnits [c] [.char c] where
  plain := List.forall_mem_singleton.2 h
  length := Nat.le_refl _
  read n done rest := by
    rw [List.singleton_append, List.length_singleton, readString?, if_neg hmark, if_neg hslash,
      if_neg (Nat.not_lt.2 h.1)]
    rfl

theorem escape {cs : List Char} {p : CodePoint} (hplain : ∀ c ∈ cs, IsPlainChar c)
    (hread : ∀ rest, readEscape? (cs ++ rest) = some (p, rest)) : ReadsUnits ('\\' :: cs) [p] where
  plain := List.forall_mem_cons.2 ⟨by decide, hplain⟩
  length := Nat.succ_le_succ (Nat.zero_le _)
  read n done rest := by
    rw [List.cons_append, List.length_singleton, readString?, if_neg (by decide), if_pos rfl, hread]
    rfl

theorem named {c : Char} (mark : Char) (hmark : IsPlainChar mark)
    (hread : ∀ rest, readEscape? (mark :: rest) = some (.char c, rest)) :
    ReadsUnits ['\\', mark] [.char c] := .escape (List.forall_mem_singleton.2 hmark) hread

theorem unit {n : Nat} (h : n < 0x10000) : ReadsUnits (unitEscape n) [ofUnit n] :=
  .escape (isPlainChar_unit h) (readEscape?_unit h)

end ReadsUnits

/-- The units of UTF-16 that stand for a code point. -/
def units : CodePoint → List CodePoint
  | .char c =>
    if c.toNat < 0x10000 then [.char c]
    else
      [ofUnit (0xd800 + (c.toNat - 0x10000) / 0x400), ofUnit (0xdc00 + (c.toNat - 0x10000) % 0x400)]
  | .high n => [.high n]
  | .low n => [.low n]

theorem units_of_lt {c : Char} (h : c.toNat < 0x10000) : units (.char c) = [.char c] := if_pos h

theorem units_of_le {c : Char} (h : 0x10000 ≤ c.toNat) : units (.char c) =
    [.high (Fin.ofNat 1024 ((c.toNat - 0x10000) / 0x400)),
      .low (Fin.ofNat 1024 ((c.toNat - 0x10000) % 0x400))] := by
  have hvalid := toNat_not_surrogate c
  rw [← ofUnit_high (by omega), ← ofUnit_low (by omega)]
  exact if_neg (Nat.not_lt.2 h)

/-- A character stands for itself, or for one unit, or for a pair of them. -/
theorem readsUnits_escaped (c : Char) : ReadsUnits (escaped c) (units (.char c)) := by
  have hcode {n : Nat} (h : c.toNat = n) : Char.ofNat n = c := h ▸ Char.ofNat_toNat c
  have hvalid := toNat_not_surrogate c
  unfold escaped
  by_cases h₁ : c = '\"'
  · subst h₁
    exact .named '\"' (by decide) fun _ => rfl
  rw [if_neg h₁]
  by_cases h₂ : c = '\\'
  · subst h₂
    exact .named '\\' (by decide) fun _ => rfl
  rw [if_neg h₂]
  by_cases h₃ : c = '\n'
  · subst h₃
    exact .named 'n' (by decide) fun _ => rfl
  rw [if_neg h₃]
  by_cases h₄ : c = '\r'
  · subst h₄
    exact .named 'r' (by decide) fun _ => rfl
  rw [if_neg h₄]
  by_cases h₅ : c = '\t'
  · subst h₅
    exact .named 't' (by decide) fun _ => rfl
  rw [if_neg h₅]
  simp only
  by_cases hpair : 0x10000 ≤ c.toNat
  · rw [if_neg (by omega), if_neg (by omega), if_neg (by omega), if_neg (by omega), units_of_le hpair,
      ← ofUnit_high (by omega), ← ofUnit_low (by omega)]
    exact (ReadsUnits.unit (by omega)).append (.unit (by omega))
  rw [units_of_lt (Nat.lt_of_not_le hpair)]
  by_cases h₆ : c.toNat = 8
  · rw [if_pos h₆]
    exact .named 'b' (by decide) fun _ => by rw [← hcode h₆]; rfl
  rw [if_neg h₆]
  by_cases h₇ : c.toNat = 12
  · rw [if_pos h₇]
    exact .named 'f' (by decide) fun _ => by rw [← hcode h₇]; rfl
  rw [if_neg h₇]
  by_cases h₈ : 32 ≤ c.toNat ∧ c.toNat < 127
  · rw [if_pos h₈]
    exact .char h₁ h₂ h₈
  · rw [if_neg h₈, if_pos (by omega), ← ofUnit_char (by omega)]
    exact .unit (by omega)

theorem readsUnits_escapedCode (p : CodePoint) : ReadsUnits (escapedCode p) (units p) := by
  cases p with
  | char c => exact readsUnits_escaped c
  | high n =>
    have hread := ReadsUnits.unit (n := 0xd800 + n) (by omega)
    rw [ofUnit_high n.isLt, Fin.ofNat_val_eq_self] at hread
    exact hread
  | low n =>
    have hread := ReadsUnits.unit (n := 0xdc00 + n) (by omega)
    rw [ofUnit_low n.isLt, Fin.ofNat_val_eq_self] at hread
    exact hread

theorem readsUnits_flatMap (ps : List CodePoint) :
    ReadsUnits (ps.flatMap escapedCode) (ps.flatMap units) := by
  induction ps with
  | nil => exact .nil
  | cons p ps ih => exact (readsUnits_escapedCode p).append ih

theorem toList_codeString (ps : List CodePoint) :
    (codeString ps).toList = '\"' :: (ps.flatMap escapedCode ++ ['\"']) := by
  unfold codeString
  rw [String.toList_ofList]
  rfl

theorem isPlainChar_codeString (ps : List CodePoint) : ∀ c ∈ (codeString ps).toList, IsPlainChar c := by
  rw [toList_codeString]
  exact List.forall_mem_cons.2 ⟨by decide, List.forall_mem_append.2 ⟨(readsUnits_flatMap ps).plain,
    List.forall_mem_singleton.2 (by decide)⟩⟩

theorem readString?_codeString (ps : List CodePoint) (rest : List Char) :
    ∃ body, (codeString ps).toList ++ rest = '\"' :: body ∧
      readString? (body.length + 1) [] body = some (ps.flatMap units, rest) := by
  have hread := readsUnits_flatMap ps
  have hlength := hread.length
  refine ⟨ps.flatMap escapedCode ++ '\"' :: rest, ?_, ?_⟩
  · rw [toList_codeString, List.cons_append, List.append_assoc, List.singleton_append]
  · obtain ⟨k, hk⟩ : ∃ k, (ps.flatMap escapedCode ++ '\"' :: rest).length + 1 =
        k + 1 + (ps.flatMap units).length := by
      refine ⟨(ps.flatMap escapedCode ++ '\"' :: rest).length - (ps.flatMap units).length, ?_⟩
      rw [List.length_append]
      omega
    rw [hk, hread.read, readString?, if_pos rfl, List.append_nil, List.reverse_reverse]

/-! The units of a text make it up again. -/

theorem ofPair_units {c : Char} (h : 0x10000 ≤ c.toNat) :
    CodePoint.ofPair (Fin.ofNat 1024 ((c.toNat - 0x10000) / 0x400))
      (Fin.ofNat 1024 ((c.toNat - 0x10000) % 0x400)) = c := by
  have hvalid := toNat_not_surrogate c
  have hsum : 0x10000 + (c.toNat - 0x10000) / 0x400 % 1024 * 0x400 + (c.toNat - 0x10000) % 0x400 % 1024 =
      c.toNat := by omega
  unfold CodePoint.ofPair
  rw [Fin.val_ofNat, Fin.val_ofNat, hsum, Char.ofNat_toNat]

theorem beginsLow_flatMap_units (ps : List CodePoint) :
    CodePoint.beginsLow (ps.flatMap units) = CodePoint.beginsLow ps := by
  cases ps with
  | nil => rfl
  | cons p ps =>
    rw [List.flatMap_cons]
    cases p with
    | char c =>
      by_cases h : 0x10000 ≤ c.toNat
      · rw [units_of_le h]
        rfl
      · rw [units_of_lt (Nat.lt_of_not_le h)]
        rfl
    | high | low => rfl

theorem pair_flatMap_units {ps : List CodePoint} (h : CodePoint.isUnpaired ps = true) :
    CodePoint.pair (ps.flatMap units) = ps := by
  fun_induction CodePoint.isUnpaired ps with
  | case1 => cases h
  | case2 p ps hp ih =>
    have hhalf : (∃ n, p = .high n) → CodePoint.beginsLow (ps.flatMap units) = false := by
      rintro ⟨n, rfl⟩
      rw [beginsLow_flatMap_units]
      cases ps with
      | nil => rfl
      | cons q qs =>
        cases q with
        | low m => exact (hp n m qs rfl rfl).elim
        | _ => rfl
    rw [List.flatMap_cons]
    cases p with
    | char c =>
      by_cases hc : 0x10000 ≤ c.toNat
      · rw [units_of_le hc, List.cons_append, List.singleton_append, CodePoint.pair, ofPair_units hc, ih h]
      · rw [units_of_lt (Nat.lt_of_not_le hc), List.singleton_append, CodePoint.pair_cons hhalf, ih h]
    | high n => exact (CodePoint.pair_cons hhalf).trans (congrArg _ (ih h))
    | low n => exact (CodePoint.pair_cons hhalf).trans (congrArg _ (ih h))
  | case3 => rfl

end Json

namespace Datum

theorem ofUnits_units {ps : List CodePoint} (h : CodePoint.isUnpaired ps = true) :
    ofUnits (ps.flatMap Json.units) = ofCodes ps h := by
  unfold ofUnits
  simp only [Json.pair_flatMap_units h]

theorem ofUnits_text (s : String) : ofUnits ((s.toList.map .char).flatMap Json.units) = .text s := by
  rw [ofUnits_units (CodePoint.isUnpaired_map_char s.toList),
    ofCodes_of_chars? (CodePoint.chars?_map_char s.toList), String.ofList_toList]

end Datum

namespace Json

theorem string_eq_codeString (s : String) : string s = codeString (s.toList.map .char) := by
  unfold string codeString
  rw [List.flatMap_map]
  rfl

/-- A string reads back behind its opening mark, whatever follows it. -/
theorem readString?_string (s : String) (rest : List Char) :
    ∃ body, (string s).toList ++ rest = '\"' :: body ∧
      readString? (body.length + 1) [] body = some ((s.toList.map .char).flatMap units, rest) := by
  rw [string_eq_codeString]
  exact readString?_codeString _ rest

theorem isPlainChar_string (s : String) : ∀ c ∈ (string s).toList, IsPlainChar c := by
  rw [string_eq_codeString]
  exact isPlainChar_codeString _

end Json
end Formulary
