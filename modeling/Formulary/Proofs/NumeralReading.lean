import Formulary.Proofs.ConfigNames
import Formulary.Token
/-!
# Numerals can be read

A decimal literal as a formula writes it is a text that the reader of numbers accepts: it has no
margin, no sign, no low line, no name and no exponent, and at least one digit.
-/

set_option autoImplicit false
namespace Formulary

theorem isNumeral_cases {cs : List Char} (h : isNumeral cs = true) :
    ∃ ds fs, (∀ c ∈ ds, c.isDigit = true) ∧ (∀ c ∈ fs, c.isDigit = true) ∧
      (cs = ds ∧ fs = [] ∨ cs = ds ++ '.' :: fs) ∧ ds ++ fs ≠ [] := by
  have hds : ∀ c ∈ cs.takeWhile Char.isDigit, c.isDigit = true :=
    fun c hc => List.all_eq_true.1 List.all_takeWhile c hc
  have hsplit := @List.takeWhile_append_dropWhile _ Char.isDigit cs
  unfold isNumeral at h
  split at h
  · rename_i hnil
    rw [hnil, List.append_nil] at hsplit
    refine ⟨cs.takeWhile Char.isDigit, [], hds, by simp, .inl ⟨hsplit.symm, rfl⟩, ?_⟩
    rw [hsplit]
    simpa using h
  · rename_i fs hpoint
    rw [hpoint] at hsplit
    obtain ⟨hfs, hone⟩ := Bool.and_eq_true_iff.1 h
    refine ⟨cs.takeWhile Char.isDigit, fs, hds, fun c hc => List.all_eq_true.1 hfs c hc,
      .inr hsplit.symm, ?_⟩
    intro hnil
    obtain ⟨hd, hf⟩ := List.append_eq_nil_iff.1 hnil
    rw [hd] at hsplit
    rw [← hsplit, hf] at hone
    cases hone
  · cases h

theorem digit_or_point_of_isNumeral {cs : List Char} (h : isNumeral cs = true) :
    ∀ c ∈ cs, c.isDigit = true ∨ c = '.' := by
  obtain ⟨ds, fs, hds, hfs, hcs, _⟩ := isNumeral_cases h
  intro c hc
  rcases hcs with ⟨rfl, rfl⟩ | rfl
  · exact .inl (hds c hc)
  · simp only [List.mem_append, List.mem_cons] at hc
    rcases hc with hc | hc | hc
    · exact .inl (hds c hc)
    · exact .inr hc
    · exact .inl (hfs c hc)

theorem ne_nil_of_isNumeral {cs : List Char} (h : isNumeral cs = true) : cs ≠ [] := by
  rintro rfl
  cases h

namespace Numeral

theorem toNat_of_digit_or_point {c : Char} (h : c.isDigit = true ∨ c = '.') :
    46 ≤ c.toNat ∧ c.toNat ≤ 57 := by
  rcases h with h | rfl
  · have hd := Text.isDigit_iff.1 h
    omega
  · decide

theorem isMargin_of_digit_or_point {c : Char} (h : c.isDigit = true ∨ c = '.') :
    isMargin c = false := by
  have hc := toNat_of_digit_or_point h
  unfold isMargin
  rw [if_pos (by omega)]
  simp
  omega

theorem asciiDigit_of_digit_or_point {c : Char} (h : c.isDigit = true ∨ c = '.') :
    asciiDigit c = c := by
  have hc := toNat_of_digit_or_point h
  unfold asciiDigit
  rw [if_pos (by omega)]

theorem trimBy_eq_self {p : Char → Bool} {cs : List Char} (h : ∀ c ∈ cs, p c = false) :
    Text.trimBy p cs = cs := by
  have hdrop (ds : List Char) (hds : ∀ c ∈ ds, p c = false) : ds.dropWhile p = ds := by
    cases ds with
    | nil => rfl
    | cons d ds => exact List.dropWhile_cons_of_neg (by simp [hds d (by simp)])
  unfold Text.trimBy
  rw [hdrop cs h, hdrop cs.reverse fun c hc => h c (List.mem_reverse.1 hc), List.reverse_reverse]

theorem normalized_of_isNumeral {s : String} (h : isNumeral s.toList = true) :
    normalized s = s.toList := by
  have hcs := digit_or_point_of_isNumeral h
  unfold normalized
  rw [trimBy_eq_self fun c hc => isMargin_of_digit_or_point (hcs c hc)]
  exact (List.map_congr_left fun c hc => asciiDigit_of_digit_or_point (hcs c hc)).trans (List.map_id _)

theorem joinGroups?_eq_self {cs : List Char} (h : ∀ c ∈ cs, c ≠ '_') (before : Option Char) :
    joinGroups? before cs = some cs := by
  induction cs generalizing before with
  | nil => rw [joinGroups?]
  | cons c cs ih =>
    have hc := h c List.mem_cons_self
    rw [joinGroups?, if_neg hc, ih fun d hd => h d (List.mem_cons_of_mem c hd)]
    · rfl
    · rintro d ds rfl
      exact absurd rfl hc

theorem takeSign_eq_self {c : Char} (cs : List Char) (hm : c ≠ '-') (hp : c ≠ '+') :
    takeSign (c :: cs) = (false, c :: cs) := by
  unfold takeSign
  split
  · rename_i heq
    cases heq
    exact absurd rfl hm
  · rename_i heq
    cases heq
    exact absurd rfl hp
  · rfl

theorem readExponent?_nil : readExponent? [] = some 0 := rfl

theorem readUnsigned?_of_isNumeral {cs : List Char} (h : isNumeral cs = true) :
    ∃ x, readUnsigned? false cs = some x := by
  obtain ⟨ds, fs, hds, hfs, hcs, hne⟩ := isNumeral_cases h
  have hall (xs : List Char) (hxs : ∀ c ∈ xs, c.isDigit = true) :
      xs.takeWhile Char.isDigit = xs ∧ xs.dropWhile Char.isDigit = [] := by
    have ht : (xs ++ []).takeWhile Char.isDigit = _ := List.takeWhile_append_of_pos hxs
    have hd : (xs ++ []).dropWhile Char.isDigit = _ := List.dropWhile_append_of_pos hxs
    rw [List.append_nil] at ht hd
    exact ⟨by rw [ht]; simp, by rw [hd]; simp⟩
  have hpoint : ¬ '.'.isDigit = true := by decide
  unfold readUnsigned?
  rcases hcs with ⟨rfl, rfl⟩ | rfl
  · rw [List.append_nil] at hne
    rw [(hall cs hds).1, (hall cs hds).2]
    simp [hne, readExponent?_nil]
  · rw [List.takeWhile_append_of_pos hds, List.dropWhile_append_of_pos hds,
      List.takeWhile_cons_of_neg hpoint, List.dropWhile_cons_of_neg hpoint, List.append_nil]
    simp only [(hall fs hfs).1, (hall fs hfs).2, readExponent?_nil]
    have hsome : (ds.isEmpty && fs.isEmpty) = false := by
      rw [Bool.and_eq_false_iff]
      simpa [Classical.or_iff_not_imp_left] using hne
    rw [hsome]
    exact ⟨_, rfl⟩

theorem readName?_of_head {c : Char} (cs : List Char) (h : c.isDigit = true ∨ c = '.') :
    readName? false (c :: cs) = none := by
  have hlower : c.toLower ≠ 'i' ∧ c.toLower ≠ 'n' := by
    have hc := toNat_of_digit_or_point h
    have hsame : c.toLower = c := by
      unfold Char.toLower
      rw [dif_neg]
      rintro ⟨hA, _⟩
      change 65 ≤ c.toNat at hA
      omega
    rw [hsame]
    constructor <;> rintro rfl <;> simp at hc
  have hname (d : Char) (ds : List Char) (hd : c.toLower ≠ d) :
      String.ofList ((c :: cs).map Char.toLower) ≠ String.ofList (d :: ds) := by
    intro heq
    have hlist := congrArg String.toList heq
    rw [String.toList_ofList, String.toList_ofList, List.map_cons, List.cons.injEq] at hlist
    exact hd hlist.1
  unfold readName?
  rw [if_neg, if_neg]
  · exact hname 'n' _ hlower.2
  · rintro (heq | heq)
    · exact hname 'i' _ hlower.1 heq
    · exact hname 'i' _ hlower.1 heq

/-- A decimal literal has a value. -/
theorem float_of_isNumeral {s : String} (h : isNumeral s.toList = true) :
    ∃ x, Numeral.float s = .ok x := by
  have hcs := digit_or_point_of_isNumeral h
  obtain ⟨c, cs, heq⟩ := List.exists_cons_of_ne_nil (ne_nil_of_isNumeral h)
  have hc := hcs c (heq ▸ List.mem_cons_self)
  have hlow : ∀ d ∈ s.toList, d ≠ '_' := by
    rintro d hd rfl
    rcases hcs '_' hd with h | h <;> cases h
  have hm : c ≠ '-' := by
    rintro rfl
    rcases hc with h | h <;> cases h
  have hp : c ≠ '+' := by
    rintro rfl
    rcases hc with h | h <;> cases h
  obtain ⟨x, hx⟩ := readUnsigned?_of_isNumeral h
  have hbody : readFloat? s = (joinGroups? none (normalized s)).bind fun ds =>
      readName? (takeSign ds).1 (takeSign ds).2 <|>
        readUnsigned? (takeSign ds).1 (takeSign ds).2 := rfl
  have hread : readFloat? s = some x := by
    rw [hbody, normalized_of_isNumeral h, joinGroups?_eq_self hlow, Option.bind_some]
    rw [heq] at hx ⊢
    rw [takeSign_eq_self cs hm hp, readName?_of_head cs hc, hx]
    rfl
  unfold Numeral.float
  rw [hread]
  exact ⟨x, rfl⟩

end Numeral
end Formulary
