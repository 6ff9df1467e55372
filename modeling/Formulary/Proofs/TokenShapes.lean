import Mathlib.Data.List.TakeWhile
import Formulary.Catalog
import Formulary.Proofs.NumeralReading
import Formulary.Proofs.ScanRejoined
/-!
# The shapes of scanned tokens

What the tokens of a formula look like, kind by kind. An identifier that names no function is never
empty and holds at most one letter, no digit behind it, and nothing that the scanner would have taken
for a token of its own. Classifying the text of a token alone gives the token again, except for an
identifier of one character that is neither letter nor numeral: alone it would be an operator.
-/

set_option autoImplicit false
namespace Formulary

/-- The grammar of decimal literals: digits with at most one point among or after them, or a point and
digits. -/
inductive DecimalLiteral : List Char → Prop
  | whole {ds : List Char} (hds : ∀ c ∈ ds, c.isDigit = true) (hne : ds ≠ []) : DecimalLiteral ds
  | pointed {ds fs : List Char} (hds : ∀ c ∈ ds, c.isDigit = true)
      (hfs : ∀ c ∈ fs, c.isDigit = true) (hne : ds ++ fs ≠ []) : DecimalLiteral (ds ++ '.' :: fs)

theorem isNumeral_of_digits {ds : List Char} (hds : ∀ c ∈ ds, c.isDigit = true) (hne : ds ≠ []) :
    isNumeral ds = true := by
  unfold isNumeral
  rw [List.dropWhile_eq_nil_iff.2 hds]
  cases ds with
  | nil => exact absurd rfl hne
  | cons d ds => rfl

theorem isNumeral_of_point {ds fs : List Char} (hds : ∀ c ∈ ds, c.isDigit = true)
    (hfs : ∀ c ∈ fs, c.isDigit = true) (hne : ds ++ fs ≠ []) :
    isNumeral (ds ++ '.' :: fs) = true := by
  have hdrop : (ds ++ '.' :: fs).dropWhile Char.isDigit = '.' :: fs := by
    rw [List.dropWhile_append_of_pos hds]
    rfl
  have hall : fs.all Char.isDigit = true := List.all_eq_true.2 hfs
  unfold isNumeral
  rw [hdrop]
  simp only [hall, Bool.true_and]
  cases ds with
  | nil =>
    cases fs with
    | nil => exact absurd rfl hne
    | cons f fs => rfl
  | cons d ds =>
    have hd : d ≠ '.' := by
      rintro rfl
      exact absurd (hds '.' List.mem_cons_self) (by decide)
    simp [hd]

theorem isNumeral_iff {cs : List Char} : isNumeral cs = true ↔ DecimalLiteral cs := by
  constructor
  · intro h
    obtain ⟨ds, fs, hds, hfs, ⟨rfl, rfl⟩ | rfl, hne⟩ := isNumeral_cases h
    · exact .whole hds (by rwa [List.append_nil] at hne)
    · exact .pointed hds hfs hne
  · intro h
    cases h with
    | whole hds hne => exact isNumeral_of_digits hds hne
    | pointed hds hfs hne => exact isNumeral_of_point hds hfs hne

namespace Token

/-- What an identifier that names no function looks like. -/
structure Plain (cfg : Config) (cs : List Char) : Prop where
  ne_nil : cs ≠ []
  not_literal : ¬DecimalLiteral cs
  not_blank : ∀ c ∈ cs, Text.isBlank c = false
  not_symbol : ∀ c ∈ cs, c ≠ '(' ∧ c ≠ ')' ∧ cfg.isOperator (String.singleton c) = false
  not_name : ∀ name ∈ cfg.functions.keys, ¬name.toList <:+: cs
  letters : cs.countP Char.isAlpha ≤ 1
  digits : ∀ q c r, cs = q ++ c :: r → c.isAlpha = true → ∀ d ∈ r, d.isDigit = false

/-- What a token of each kind looks like. -/
inductive Shaped (cfg : Config) : Token → Prop
  | operator {symbol : String} (h : cfg.isOperator symbol = true) : Shaped cfg ⟨.operator, symbol⟩
  | number {s : String} (h : DecimalLiteral s.toList) : Shaped cfg ⟨.number, s⟩
  | lparen : Shaped cfg ⟨.lparen, "("⟩
  | rparen : Shaped cfg ⟨.rparen, ")"⟩
  | function {name : String} (h : cfg.isFunction name = true) : Shaped cfg ⟨.identifier, name⟩
  | plain {s : String} (h : Plain cfg s.toList) : Shaped cfg ⟨.identifier, s⟩

/-- An identifier of one character that is neither letter nor numeral. -/
def IsStray (t : Token) : Prop :=
  t.kind = .identifier ∧ ∃ c, t.text = String.singleton c ∧ Text.isAlphanumeric c = false

section
variable {cfg : Config}

/-- Behind a letter neither letter nor digit was kept. -/
theorem Kept.behind_letter {p q r : List Char} {c : Char} (h : Kept cfg p []) (hp : p = q ++ c :: r)
    (hc : c.isAlpha = true) : ∀ d ∈ r, d.isAlphanum = false := by
  intro d hd
  obtain ⟨r₁, r₂, rfl⟩ := List.append_of_mem hd
  refine Bool.eq_false_iff.2 fun halnum => ?_
  have hbefore : (q ++ c :: r₁).any Char.isAlpha = false :=
    h.factor (q ++ c :: r₁) d r₂ (by rw [hp, List.append_assoc]; rfl) halnum
  rw [List.any_append, List.any_cons, hc, Bool.true_or, Bool.or_true] at hbefore
  cases hbefore

theorem countP_isAlpha_of_any {q : List Char} (h : q.any Char.isAlpha = false) :
    q.countP Char.isAlpha = 0 := by
  rw [List.countP_eq_zero]
  intro c hc
  exact List.any_eq_false.1 h c hc

theorem Kept.letters {p : List Char} (h : Kept cfg p []) : p.countP Char.isAlpha ≤ 1 := by
  by_cases hnone : p.any Char.isAlpha = true
  · obtain ⟨c, hmem, hc⟩ := List.any_eq_true.1 hnone
    obtain ⟨q, r, hp⟩ := List.append_of_mem hmem
    have hbefore := countP_isAlpha_of_any (h.factor q c r hp (Text.isAlphanum_of_isAlpha hc))
    have hbehind : r.countP Char.isAlpha = 0 := by
      rw [List.countP_eq_zero]
      intro d hd ha
      have hd := h.behind_letter hp hc d hd
      rw [Text.isAlphanum_of_isAlpha ha] at hd
      cases hd
    rw [hp, List.countP_append, List.countP_cons_of_pos hc, hbefore, hbehind, Nat.zero_add]
  · rw [countP_isAlpha_of_any (Bool.eq_false_iff.2 hnone)]
    exact Nat.zero_le 1

theorem Kept.plain {p : List Char} (h : Kept cfg p []) (hne : p ≠ []) (hnumeral : isNumeral p = false) :
    Plain cfg p where
  ne_nil := hne
  not_literal hliteral := by
    rw [isNumeral_iff.2 hliteral] at hnumeral
    cases hnumeral
  not_blank c hc := by
    obtain ⟨r, hl⟩ := h.loose_of_mem hc
    exact hl.isBlank
  not_symbol c hc := by
    obtain ⟨r, hl⟩ := h.loose_of_mem hc
    have hs := hl.isSymbol
    rw [← Bool.not_eq_true, Config.isSymbol_iff, not_or, not_or, Bool.not_eq_true] at hs
    exact hs
  not_name := h.not_name
  letters := h.letters
  digits q c r hp hc d hd := by
    have hbehind := h.behind_letter hp hc d hd
    exact (Bool.or_eq_false_iff.1 hbehind).2

theorem shaped_of_scanned (himplicit : cfg.isOperator cfg.implicitOperator = true) {t : Token}
    (h : Scanned cfg t) : Shaped cfg t := by
  cases h with
  | @pending p hne hk =>
    cases hp : isNumeral p with
    | true =>
      rw [pendingToken_of_isNumeral hp]
      exact .number (by rwa [String.toList_ofList, ← isNumeral_iff])
    | false =>
      rw [pendingToken_of_not_isNumeral hp]
      exact .plain (by rw [String.toList_ofList]; exact hk.plain hne hp)
  | function hf =>
    exact .function ((Table.contains_iff_mem_keys _ _).2 (Config.mem_keys_of_functionAt? hf))
  | symbol hc =>
    rcases Config.isSymbol_iff.1 hc with rfl | rfl | ho
    · exact .lparen
    · exact .rparen
    · rw [ofSymbol_of_isOperator ho]
      exact .operator ho
  | implicit => exact .operator himplicit

end

theorem isNumeral_singleton (c : Char) : isNumeral [c] = c.isDigit := by
  cases hc : c.isDigit with
  | true => exact isNumeral_of_digits (List.forall_mem_singleton.2 hc) (List.cons_ne_nil c [])
  | false =>
    refine Bool.eq_false_iff.2 fun hnumeral => ?_
    obtain ⟨ds, fs, hds, _, ⟨rfl, rfl⟩ | hpoint, hne⟩ := isNumeral_cases hnumeral
    · rw [hds c List.mem_cons_self] at hc
      cases hc
    · obtain ⟨rfl, _, rfl⟩ := append_cons_eq_singleton hpoint
      exact hne rfl

theorem isDigit_of_not_isAlphanumeric {c : Char} (h : Text.isAlphanumeric c = false) :
    c.isDigit = false := by
  refine Bool.eq_false_iff.2 fun hd => ?_
  rw [Text.isAlphanumeric_of_isAlphanum (Text.isAlphanum_of_isDigit hd)] at h
  cases h

theorem Shaped.isOperator_iff {cfg : Config} {t : Token} (h : Shaped cfg t) :
    cfg.isOperator t.text = true ↔ t.kind = .operator := by
  constructor
  · intro ho
    obtain ⟨c, hc, halnum, _, hl, hr, _⟩ :=
      operatorSymbol_cases (Config.operatorSymbol_of_isOperator ho)
    have hlist : t.text.toList = [c] := by rw [hc, String.toList_singleton]
    cases h with
    | operator => rfl
    | lparen => exact absurd (String.singleton_inj.1 hc : '(' = c).symm hl
    | rparen => exact absurd (String.singleton_inj.1 hc : ')' = c).symm hr
    | number hs =>
      have hd := isNumeral_iff.2 hs
      rw [hlist, isNumeral_singleton, isDigit_of_not_isAlphanumeric halnum] at hd
      cases hd
    | function hf =>
      rw [Config.isFunction_of_isOperator ho] at hf
      cases hf
    | plain hs =>
      obtain ⟨_, _, hnot⟩ := hs.not_symbol c (hlist ▸ List.mem_singleton_self c)
      rw [← hc, ho] at hnot
      cases hnot
  · intro hkind
    cases h with
    | operator ho => exact ho
    | _ => cases hkind

theorem Shaped.not_isOperator {cfg : Config} {t : Token} (h : Shaped cfg t) (hkind : t.kind ≠ .operator) :
    cfg.isOperator t.text = false := Bool.eq_false_iff.2 fun ho => hkind (h.isOperator_iff.1 ho)

theorem ofText_of_isNumeral {s : String} (h : isNumeral s.toList = true) : ofText s = ⟨.number, s⟩ := by
  have hl : s ≠ "(" := by rintro rfl; cases h
  have hr : s ≠ ")" := by rintro rfl; cases h
  unfold ofText
  rw [if_neg hl, if_neg hr, if_pos h]

theorem ofText_singleton {c : Char} (hl : c ≠ '(') (hr : c ≠ ')') (hd : c.isDigit = false)
    (hb : Text.isBlank c = false) : ofText (String.singleton c) =
      ⟨if Text.isAlphanumeric c then .identifier else .operator, String.singleton c⟩ := by
  have hleft : String.singleton c ≠ "(" := fun h => hl (String.singleton_inj.1 h)
  have hright : String.singleton c ≠ ")" := fun h => hr (String.singleton_inj.1 h)
  have hnumeral : ¬isNumeral (String.singleton c).toList = true := by
    rw [String.toList_singleton, isNumeral_singleton, hd]
    exact Bool.false_ne_true
  unfold ofText
  rw [if_neg hleft, if_neg hright, if_neg hnumeral, String.toList_singleton]
  cases hc : Text.isAlphanumeric c <;> simp [hc, hb]

theorem ofText_of_cons_cons {s : String} {c d : Char} {cs : List Char} (hs : s.toList = c :: d :: cs)
    (hn : isNumeral s.toList = false) : ofText s = ⟨.identifier, s⟩ := by
  have hl : s ≠ "(" := by rintro rfl; cases hs
  have hr : s ≠ ")" := by rintro rfl; cases hs
  unfold ofText
  rw [if_neg hl, if_neg hr, if_neg (Bool.eq_false_iff.1 hn), hs]

/-- Classified alone, an identifier is one again unless it is a stray character. -/
theorem ofText_identifier {s : String} (hne : s.toList ≠ []) (hn : isNumeral s.toList = false)
    (hs : ∀ c ∈ s.toList, Text.isBlank c = false ∧ c ≠ '(' ∧ c ≠ ')') :
    ofText s = ⟨.identifier, s⟩ ↔ ¬IsStray ⟨.identifier, s⟩ := by
  match hlist : s.toList with
  | [] => exact absurd hlist hne
  | c :: d :: cs =>
    refine iff_of_true (ofText_of_cons_cons hlist hn) ?_
    rintro ⟨_, e, rfl, _⟩
    rw [String.toList_singleton] at hlist
    cases hlist
  | [c] =>
    obtain rfl : s = String.singleton c :=
      String.toList_injective (hlist.trans (String.toList_singleton c).symm)
    rw [hlist] at hn hs
    obtain ⟨hb, hl, hr⟩ := hs c List.mem_cons_self
    rw [ofText_singleton hl hr (by rw [← isNumeral_singleton, hn]) hb]
    cases hc : Text.isAlphanumeric c with
    | true =>
      refine iff_of_true rfl ?_
      rintro ⟨_, d, heq, hd⟩
      rw [← String.singleton_inj.1 heq, hc] at hd
      cases hd
    | false => exact iff_of_false nofun fun hstray => hstray ⟨rfl, c, rfl, hc⟩

theorem ofText_of_shaped {cfg : Config} {t : Token} (h : Shaped cfg t) :
    ofText t.text = t ↔ ¬t.IsStray := by
  cases h with
  | operator ho =>
    obtain ⟨c, rfl, hc, hb, hl, hr, _⟩ := operatorSymbol_cases (Config.operatorSymbol_of_isOperator ho)
    refine iff_of_true ?_ fun hstray => nomatch hstray.1
    rw [ofText_singleton hl hr (isDigit_of_not_isAlphanumeric hc) hb, hc]
    rfl
  | number hs =>
    exact iff_of_true (ofText_of_isNumeral (isNumeral_iff.2 hs)) fun hstray => nomatch hstray.1
  | lparen => exact iff_of_true rfl fun hstray => nomatch hstray.1
  | rparen => exact iff_of_true rfl fun hstray => nomatch hstray.1
  | function hf =>
    obtain ⟨c, cs, hcs, hc, hall⟩ := functionName_cases (Config.functionName_of_isFunction hf)
    refine ofText_identifier (by rw [hcs]; exact List.cons_ne_nil c cs) ?_ fun d hd => ?_
    · have hletter : startsWithLetter (c :: cs) = true := hc
      refine isNumeral_of_letter ?_
      rwa [hcs, dropWhile_isDigit_of_letter hletter]
    · have hname := hall d (hcs ▸ hd)
      refine ⟨isBlank_of_isNameCharacter hname, ?_, ?_⟩ <;> rintro rfl <;> cases hname
  | plain hs =>
    have hn : isNumeral _ = false := Bool.eq_false_iff.2 fun h => hs.not_literal (isNumeral_iff.1 h)
    refine ofText_identifier hs.ne_nil hn fun d hd => ?_
    obtain ⟨hl, hr, _⟩ := hs.not_symbol d hd
    exact ⟨hs.not_blank d hd, hl, hr⟩

/-- Every token of a formula has the shape of its kind, and classifying its text gives the token itself
exactly if it is no identifier of one character that is neither letter nor numeral. -/
theorem scan_shapes {cfg : Config} (himplicit : cfg.isOperator cfg.implicitOperator = true)
    (formula : String) :
    ∀ t ∈ scan cfg formula, Shaped cfg t ∧ (ofText t.text = t ↔ ¬t.IsStray) := by
  intro t ht
  have hshape := shaped_of_scanned himplicit (scanned_of_mem_scan ht)
  exact ⟨hshape, ofText_of_shaped hshape⟩

/-- A point before a name stays alone, and its text alone would be an operator. -/
theorem scan_shapes_point :
    Config.standard.isOperator Config.standard.implicitOperator = true ∧
      scan Config.standard "2x+.sin(3.5" =
        [⟨.number, "2"⟩, ⟨.operator, "*"⟩, ⟨.identifier, "x"⟩, ⟨.operator, "+"⟩, ⟨.identifier, "."⟩,
          ⟨.identifier, "sin"⟩, lparen, ⟨.number, "3.5"⟩] ∧
      Shaped Config.standard ⟨.identifier, "sin"⟩ ∧ Shaped Config.standard ⟨.number, "3.5"⟩ ∧
      ofText "3.5" = ⟨.number, "3.5"⟩ ∧ ofText "." ≠ ⟨.identifier, "."⟩ := by
  have himplicit : Config.standard.isOperator Config.standard.implicitOperator = true := by
    decide +kernel
  have hscan : scan Config.standard "2x+.sin(3.5" =
      [⟨.number, "2"⟩, ⟨.operator, "*"⟩, ⟨.identifier, "x"⟩, ⟨.operator, "+"⟩, ⟨.identifier, "."⟩,
        ⟨.identifier, "sin"⟩, lparen, ⟨.number, "3.5"⟩] := by decide +kernel
  have hshapes := scan_shapes himplicit "2x+.sin(3.5"
  rw [hscan] at hshapes
  obtain ⟨hnumber, htext⟩ := hshapes ⟨.number, "3.5"⟩ (by decide)
  refine ⟨himplicit, hscan, (hshapes ⟨.identifier, "sin"⟩ (by decide)).1, hnumber,
    htext.2 (fun hstray => nomatch hstray.1), fun hpoint => ?_⟩
  exact (hshapes ⟨.identifier, "."⟩ (by decide)).2.1 hpoint ⟨rfl, '.', rfl, by decide⟩

end Token
end Formulary
