import Formulary.Proofs.ConfigNames
import Formulary.Token.Scan
/-!
# The rules of the scanner

The scanner as a relation: pending characters, the text behind them, and the tokens of both. A letter
or digit behind a pending letter begins a new factor, a digit before a letter is a factor of its own,
and a character that none of the rules ends is kept pending. The relation holds of exactly the tokens
that the scanner gives, so induction on it follows a run of the scanner.
-/

set_option autoImplicit false
namespace Formulary
namespace Config
variable {cfg : Config} {cs : List Char} {name : String}

theorem functionAt?_eq_none_iff :
    cfg.functionAt? cs = none ↔ ∀ name ∈ cfg.functions.keys, ¬name.toList <+: cs := by
  unfold functionAt?
  simp only [List.find?_eq_none, List.isPrefixOf_iff_prefix]

theorem functionAt?_eq_none_of_not_infix (h : ∀ name ∈ cfg.functions.keys, ¬name.toList <:+: cs) :
    cfg.functionAt? cs = none :=
  functionAt?_eq_none_iff.2 fun name hname hpre => h name hname hpre.isInfix

theorem mem_keys_of_functionAt? (h : cfg.functionAt? cs = some name) :
    name ∈ cfg.functions.keys := List.mem_of_find?_eq_some h

theorem prefix_of_functionAt? (h : cfg.functionAt? cs = some name) : name.toList <+: cs := by
  unfold functionAt? at h
  have hpre := List.find?_some h
  exact List.isPrefixOf_iff_prefix.1 hpre

theorem nameCharacters_of_mem_keys (h : name ∈ cfg.functions.keys) :
    ∃ c ds, name.toList = c :: ds ∧ c.isAlpha = true ∧ ∀ d ∈ c :: ds, isNameCharacter d = true :=
  functionName_cases (cfg.functions_valid name h)

theorem isBlank_of_mem_name (h : name ∈ cfg.functions.keys) {c : Char} (hc : c ∈ name.toList) :
    Text.isBlank c = false := by
  obtain ⟨d, ds, hds, _, hall⟩ := nameCharacters_of_mem_keys h
  rw [hds] at hc
  exact isBlank_of_isNameCharacter (hall c hc)

theorem functionAt?_congr {ds : List Char}
    (h : ∀ name ∈ cfg.functions.keys, name.toList <+: cs ↔ name.toList <+: ds) :
    cfg.functionAt? cs = cfg.functionAt? ds := by
  unfold functionAt?
  generalize cfg.functions.keys = names at h
  induction names with
  | nil => rfl
  | cons name names ih =>
    have hhead : name.toList.isPrefixOf cs = name.toList.isPrefixOf ds := by
      rw [Bool.eq_iff_iff, List.isPrefixOf_iff_prefix, List.isPrefixOf_iff_prefix]
      exact h name List.mem_cons_self
    rw [List.find?_cons, List.find?_cons, hhead,
      ih fun other hother => h other (List.mem_cons_of_mem name hother)]

theorem functionAt?_cons_of_not_isAlpha {c : Char} (h : c.isAlpha = false) :
    cfg.functionAt? (c :: cs) = none := by
  rw [functionAt?_eq_none_iff]
  intro name hname hpre
  obtain ⟨d, ds, hds, hd, _⟩ := nameCharacters_of_mem_keys hname
  rw [hds, List.cons_prefix_cons] at hpre
  rw [← hpre.1, hd] at h
  cases h

/-- Whatever begins with a match and fits in the text is matched alike. -/
theorem functionAt?_of_prefix {ds : List Char} (h : cfg.functionAt? cs = some name)
    (hname : name.toList <+: ds) (hds : ds <+: cs) : cfg.functionAt? ds = some name := by
  unfold functionAt? at h ⊢
  obtain ⟨_, before, after, hkeys, hbefore⟩ := List.find?_eq_some_iff_append.1 h
  refine List.find?_eq_some_iff_append.2
    ⟨List.isPrefixOf_iff_prefix.2 hname, before, after, hkeys, ?_⟩
  intro other hother
  have hnot := hbefore other hother
  rw [Bool.not_eq_true'] at hnot ⊢
  refine Bool.eq_false_iff.2 fun hpre => ?_
  have hcs := (List.isPrefixOf_iff_prefix.1 hpre).trans hds
  rw [List.isPrefixOf_iff_prefix.2 hcs] at hnot
  cases hnot

theorem functionAt?_none_of_prefix {ds : List Char} (h : cfg.functionAt? cs = none)
    (hds : ds <+: cs) : cfg.functionAt? ds = none := by
  rw [functionAt?_eq_none_iff] at h ⊢
  intro name hname hpre
  exact h name hname (hpre.trans hds)

theorem isSymbol_iff {c : Char} :
    cfg.isSymbol c = true ↔ c = '(' ∨ c = ')' ∨ cfg.isOperator (String.singleton c) = true := by
  unfold isSymbol
  rw [Bool.or_eq_true, Bool.or_eq_true, beq_iff_eq, beq_iff_eq, or_assoc]

theorem isSymbol_cases {c : Char} (h : cfg.isSymbol c = true) :
    c.isAlphanum = false ∧ Text.isBlank c = false ∧ c ≠ '.' := by
  rcases isSymbol_iff.1 h with rfl | rfl | h
  · decide
  · decide
  · obtain ⟨d, hd, ha, hb, _, _, hp⟩ := operatorSymbol_cases (operatorSymbol_of_isOperator h)
    have hcd : c = d := by
      have hlist := congrArg String.toList hd
      rw [String.toList_singleton, String.toList_singleton] at hlist
      exact (List.cons.inj hlist).1
    subst hcd
    refine ⟨Bool.eq_false_iff.2 fun halnum => ?_, hb, hp⟩
    rw [Text.isAlphanumeric_of_isAlphanum halnum] at ha
    cases ha

theorem isSymbol_of_isOperator {c : Char} (h : cfg.isOperator (String.singleton c) = true) :
    cfg.isSymbol c = true := isSymbol_iff.2 (.inr (.inr h))

theorem isSymbol_of_isAlphanum {c : Char} (h : c.isAlphanum = true) : cfg.isSymbol c = false := by
  refine Bool.eq_false_iff.2 fun hs => ?_
  rw [(isSymbol_cases hs).1] at h
  cases h

theorem isAlpha_of_isSymbol {c : Char} (h : cfg.isSymbol c = true) : c.isAlpha = false := by
  refine Bool.eq_false_iff.2 fun ha => ?_
  have hc := (isSymbol_cases h).1
  rw [Text.isAlphanum_of_isAlpha ha] at hc
  cases hc

theorem not_isSymbol_of_isBlank {c : Char} (h : Text.isBlank c = true) : ¬cfg.isSymbol c = true := by
  intro hs
  rw [(isSymbol_cases hs).2.1] at h
  cases h

end Config

namespace Token

def pendingToken (p : List Char) : Token :=
  ⟨if isNumeral p then .number else .identifier, String.ofList p⟩

theorem pendingToken_of_isNumeral {p : List Char} (h : isNumeral p = true) :
    pendingToken p = ⟨.number, String.ofList p⟩ := by
  unfold pendingToken
  rw [if_pos h]

theorem pendingToken_of_not_isNumeral {p : List Char} (h : isNumeral p = false) :
    pendingToken p = ⟨.identifier, String.ofList p⟩ := by
  unfold pendingToken
  rw [h]
  rfl

theorem ofPending_of_ne_nil {p : List Char} (h : p ≠ []) : ofPending p = [pendingToken p] := by
  cases p with
  | nil => exact absurd rfl h
  | cons c cs => rfl

/-- No name, symbol or blank stands in front of the text. -/
structure Loose (cfg : Config) (c : Char) (cs : List Char) : Prop where
  functionAt? : cfg.functionAt? (c :: cs) = none
  isSymbol : cfg.isSymbol c = false
  isBlank : Text.isBlank c = false

/-- The tokens of pending characters and the text behind them. -/
inductive Scans (cfg : Config) : List Char → List Char → List Token → Prop
  | done (p : List Char) : Scans cfg p [] (ofPending p)
  | function (p : List Char) {name : String} {cs : List Char} {ts : List Token}
      (hf : cfg.functionAt? (name.toList ++ cs) = some name) (hs : Scans cfg [] cs ts) :
      Scans cfg p (name.toList ++ cs) (ofPending p ++ ⟨.identifier, name⟩ :: ts)
  | symbol (p : List Char) {c : Char} {cs : List Char} {ts : List Token}
      (hc : cfg.isSymbol c = true) (hs : Scans cfg [] cs ts) :
      Scans cfg p (c :: cs) (ofPending p ++ ofSymbol c :: ts)
  | blank (p : List Char) {c : Char} {cs : List Char} {ts : List Token}
      (hc : Text.isBlank c = true) (hs : Scans cfg [] cs ts) :
      Scans cfg p (c :: cs) (ofPending p ++ ts)
  | factor {p : List Char} {c : Char} {cs : List Char} {ts : List Token}
      (hl : Loose cfg c cs) (hc : c.isAlphanum = true) (hp : p.any Char.isAlpha = true)
      (hs : Scans cfg [c] cs ts) :
      Scans cfg p (c :: cs) (ofPending p ++ cfg.implicitToken :: ts)
  | digit {p : List Char} {c : Char} {cs : List Char} {ts : List Token}
      (hc : c.isDigit = true) (hp : p.any Char.isAlpha = false)
      (hcs : startsWithLetter cs = true) (hs : Scans cfg [] cs ts) :
      Scans cfg p (c :: cs)
        (ofPending p ++ ⟨.number, String.singleton c⟩ :: cfg.implicitToken :: ts)
  | keep {p : List Char} {c : Char} {cs : List Char} {ts : List Token} (hl : Loose cfg c cs)
      (hp : c.isAlphanum = true → p.any Char.isAlpha = false)
      (hcs : c.isDigit = true → startsWithLetter cs = false) (hs : Scans cfg (p ++ [c]) cs ts) :
      Scans cfg p (c :: cs) ts

section
variable {cfg : Config}

theorem toList_text_ofSymbol (c : Char) : (ofSymbol c).text.toList = [c] := by
  unfold ofSymbol
  split
  · rename_i h
    rw [h]
    rfl
  · split
    · rename_i h
      rw [h]
      rfl
    · exact String.toList_singleton c

theorem kind_ofSymbol (c : Char) :
    (ofSymbol c).kind ≠ .identifier ∧ (ofSymbol c).kind ≠ .number := by
  unfold ofSymbol
  split
  · exact ⟨nofun, nofun⟩
  · split <;> exact ⟨nofun, nofun⟩

theorem ofSymbol_of_isOperator {c : Char} (h : cfg.isOperator (String.singleton c) = true) :
    ofSymbol c = ⟨.operator, String.singleton c⟩ := by
  obtain ⟨d, hd, _, _, hl, hr, _⟩ := operatorSymbol_cases (Config.operatorSymbol_of_isOperator h)
  obtain rfl : c = d := String.singleton_inj.1 hd
  unfold ofSymbol
  rw [if_neg hl, if_neg hr]

theorem loose_of_isAlphanum {c : Char} {cs : List Char} (h : c.isAlphanum = true)
    (hf : cfg.functionAt? (c :: cs) = none) : Loose cfg c cs where
  functionAt? := hf
  isSymbol := Config.isSymbol_of_isAlphanum h
  isBlank := Text.isBlank_of_isAlphanum h

theorem loose_of_isDigit {c : Char} (h : c.isDigit = true) (cs : List Char) : Loose cfg c cs :=
  loose_of_isAlphanum (Text.isAlphanum_of_isDigit h)
    (Config.functionAt?_cons_of_not_isAlpha (Text.isAlpha_of_isDigit h))

theorem loose_point (cs : List Char) : Loose cfg '.' cs where
  functionAt? := Config.functionAt?_cons_of_not_isAlpha rfl
  isSymbol := Bool.eq_false_iff.2 fun h => (Config.isSymbol_cases h).2.2 rfl
  isBlank := rfl

theorem drop_of_functionAt? {c : Char} {cs : List Char} {name : String}
    (h : cfg.functionAt? (c :: cs) = some name) :
    name.toList ++ cs.drop (name.length - 1) = c :: cs := by
  obtain ⟨rest, hrest⟩ := Config.prefix_of_functionAt? h
  obtain ⟨d, ds, hds, _⟩ := Config.nameCharacters_of_mem_keys (Config.mem_keys_of_functionAt? h)
  have hlen : name.length - 1 = ds.length := by
    rw [← String.length_toList, hds, List.length_cons]
    omega
  rw [hds, List.cons_append, List.cons.injEq] at hrest
  rw [hlen, hds, ← hrest.1, ← hrest.2, List.drop_left, List.cons_append]

theorem scans_scanFrom (p cs : List Char) : Scans cfg p cs (scanFrom cfg p cs) := by
  fun_induction scanFrom cfg p cs with
  | case1 p => exact .done p
  | case2 p c cs name hf ih =>
    have hcs := drop_of_functionAt? hf
    rw [← hcs] at hf ⊢
    exact .function p hf ih
  | case3 p c cs hf hc ih => exact .symbol p hc ih
  | case4 p c cs hf hc hb ih => exact .blank p hb ih
  | case5 p c cs hf hc hb hd ih =>
    rw [Bool.and_eq_true] at hd
    exact .factor ⟨hf, by simpa using hc, by simpa using hb⟩ (Text.isAlphanum_of_isDigit hd.1) hd.2 ih
  | case6 p c cs hf hc hb hd hl ih =>
    rw [Bool.and_eq_true] at hl
    refine .digit hl.1 ?_ hl.2 ih
    simpa [hl.1] using hd
  | case7 p c cs hf hc hb hd hl ha ih =>
    rw [Bool.and_eq_true] at ha
    exact .factor ⟨hf, by simpa using hc, by simpa using hb⟩ (Text.isAlphanum_of_isAlpha ha.1) ha.2 ih
  | case8 p c cs hf hc hb hd hl ha ih =>
    refine .keep ⟨hf, by simpa using hc, by simpa using hb⟩ ?_ ?_ ih
    · intro halnum
      rcases Bool.or_eq_true _ _ ▸ halnum with h | h
      · simpa [h] using ha
      · simpa [h] using hd
    · intro h
      simpa [h] using hl

theorem scanFrom_of_scans {p cs : List Char} {ts : List Token} (h : Scans cfg p cs ts) :
    scanFrom cfg p cs = ts := by
  induction h with
  | done p => rw [scanFrom]
  | @function p name cs ts hf _ ih =>
    obtain ⟨d, ds, hds, _⟩ := Config.nameCharacters_of_mem_keys (Config.mem_keys_of_functionAt? hf)
    rw [hds, List.cons_append] at hf ⊢
    have hdrop : (ds ++ cs).drop (name.length - 1) = cs := by
      have hsame := drop_of_functionAt? hf
      rw [← List.cons_append, ← hds] at hsame
      exact List.append_cancel_left hsame
    rw [scanFrom]
    simp only [hf]
    rw [hdrop, ih]
  | @symbol p c cs ts hc _ ih =>
    have hf : cfg.functionAt? (c :: cs) = none :=
      Config.functionAt?_cons_of_not_isAlpha (Config.isAlpha_of_isSymbol hc)
    rw [scanFrom]
    simp only [hf]
    rw [if_pos hc, ih]
  | @blank p c cs ts hc _ ih =>
    have hf : cfg.functionAt? (c :: cs) = none :=
      Config.functionAt?_cons_of_not_isAlpha (Text.isAlpha_of_isBlank hc)
    rw [scanFrom]
    simp only [hf]
    rw [if_neg (Config.not_isSymbol_of_isBlank hc), if_pos hc, ih]
  | @factor p c cs ts hl hc hp _ ih =>
    rw [scanFrom]
    simp only [hl.functionAt?, hl.isSymbol, hl.isBlank, hp, Bool.and_true]
    rcases Bool.or_eq_true _ _ ▸ hc with ha | hd
    · rw [Text.isDigit_of_isAlpha ha, ha, ih]
      rfl
    · rw [hd, ih]
      rfl
  | @digit p c cs ts hc hp hcs _ ih =>
    have hl : Loose cfg c cs := loose_of_isDigit hc cs
    rw [scanFrom]
    simp only [hl.functionAt?, hl.isSymbol, hl.isBlank, hc, hp, hcs]
    rw [ih]
    rfl
  | @keep p c cs ts hl hp hcs _ ih =>
    have hfactor (b : Bool) (hb : b = true → c.isAlphanum = true) : (b && p.any Char.isAlpha) = false := by
      cases b with
      | false => rfl
      | true => exact hp (hb rfl)
    have hdigit : (c.isDigit && startsWithLetter cs) = false := by
      cases hc : c.isDigit with
      | false => rfl
      | true => exact hcs hc
    rw [scanFrom]
    simp only [hl.functionAt?, hl.isSymbol, hl.isBlank, hdigit,
      hfactor c.isDigit Text.isAlphanum_of_isDigit, hfactor c.isAlpha Text.isAlphanum_of_isAlpha]
    exact ih

theorem scan_of_functionAt? {name : String} (hf : cfg.functionAt? name.toList = some name) :
    scan cfg name = [⟨.identifier, name⟩] := by
  rw [← List.append_nil name.toList] at hf
  have hscan := scanFrom_of_scans (.function [] hf (.done []))
  rwa [List.append_nil] at hscan

end
end Token
end Formulary
