import Mathlib.Data.List.Chain
import Formulary.Markup
import Formulary.Proofs.ScanConservation
import Formulary.Proofs.TokenShapes
/-!
# Markup that is copied as text

Markup puts blanks around operators and nothing around other tokens, and a clean copy of it has lost
the backslashes of function names. So the copy is scanned token by token wherever no two factors stand
side by side, as the tokens with blanks between them are.
-/

set_option autoImplicit false
namespace Formulary
namespace Markup

/-- The characters of a token in a clean copy. -/
def copied (cfg : Config) (t : Token) : List Char :=
  if cfg.isOperator t.text then ' ' :: t.text.toList ++ [' '] else t.text.toList

section
variable {cfg : Config}

theorem dropBackslashes_cons {c : Char} (hc : c ≠ '\\') (cs : List Char) :
    dropBackslashes (c :: cs) = c :: dropBackslashes cs := by
  rw [dropBackslashes]
  · rintro rest rfl
    exact fun _ => absurd rfl hc
  · rintro rfl
    exact absurd rfl hc

theorem dropBackslashes_backslash {c : Char} (hc : c ≠ '\\') (cs : List Char) :
    dropBackslashes ('\\' :: c :: cs) = dropBackslashes (c :: cs) := by
  rw [dropBackslashes]
  rintro rest h
  exact absurd (List.cons.inj h).1 hc

theorem dropBackslashes_append {cs : List Char} (h : '\\' ∉ cs) (ds : List Char) :
    dropBackslashes (cs ++ ds) = cs ++ dropBackslashes ds := by
  induction cs with
  | nil => rfl
  | cons c cs ih =>
    obtain ⟨hc, hcs⟩ := not_or.1 (List.mem_cons.not.1 h)
    rw [List.cons_append, dropBackslashes_cons (Ne.symm hc), ih hcs]
    rfl

theorem copied_operator {t : Token} (h : cfg.isOperator t.text = true) :
    copied cfg t = ' ' :: t.text.toList ++ [' '] := by
  unfold copied
  rw [if_pos h]

theorem copied_of_not_operator {t : Token} (h : cfg.isOperator t.text = false) :
    copied cfg t = t.text.toList := by
  unfold copied
  rw [h]
  rfl

theorem dropBackslashes_ofToken {t : Token} (ht : '\\' ∉ t.text.toList) (ds : List Char) :
    dropBackslashes (ofToken cfg t ++ ds) = copied cfg t ++ dropBackslashes ds := by
  unfold ofToken
  split
  · rename_i ho
    have hpadded : '\\' ∉ ' ' :: t.text.toList ++ [' '] := by simpa using ht
    rw [copied_operator ho, dropBackslashes_append hpadded]
  · rename_i ho
    rw [copied_of_not_operator (Bool.eq_false_iff.2 ho), ← dropBackslashes_append ht]
    split
    · rename_i hf
      -- the character behind the backslash is the first one of the name
      obtain ⟨c, cs, hcs, _⟩ := functionName_cases (Config.functionName_of_isFunction hf)
      rw [hcs] at ht ⊢
      exact dropBackslashes_backslash (Ne.symm (not_or.1 (List.mem_cons.not.1 ht)).1) (cs ++ ds)
    · rfl

/-- A clean copy is what its tokens look like in it, one after the other. -/
theorem dropBackslashes_flatMap {ts : List Token} (h : ∀ t ∈ ts, '\\' ∉ t.text.toList) :
    dropBackslashes (ts.flatMap (ofToken cfg)) = ts.flatMap (copied cfg) := by
  induction ts with
  | nil => rfl
  | cons t ts ih =>
    obtain ⟨ht, hts⟩ := List.forall_mem_cons.1 h
    rw [List.flatMap_cons, List.flatMap_cons, dropBackslashes_ofToken ht, ih hts]

end
end Markup

namespace Token
variable {cfg : Config}
open Markup (copied)

theorem copied_of_kind {t : Token} (h : Shaped cfg t) (hkind : t.kind ≠ .operator) :
    copied cfg t = t.text.toList :=
  Markup.copied_of_not_operator (h.not_isOperator hkind)

theorem scanFrom_symbol_append {c : Char} (hc : cfg.isSymbol c = true) (ds : List Char) :
    scanFrom cfg [] ([c] ++ ds) = scanFrom cfg [] [c] ++ scanFrom cfg [] ds := by
  rw [List.singleton_append, scanFrom_symbol hc, scanFrom_symbol hc, scanFrom_nil]
  rfl

/-- What a token looks like in a clean copy is scanned as its text alone, if a factor is followed by a
separator. -/
theorem scanFrom_copied_append {t : Token} (h : Shaped cfg t) {ds : List Char}
    (hds : t.IsFactor → ds = [] ∨ ∃ c es, ds = c :: es ∧ cfg.Separator c) :
    scanFrom cfg [] (copied cfg t ++ ds) = scan cfg t.text ++ scanFrom cfg [] ds := by
  have hfactor (ht : t.IsFactor) (hkind : t.kind ≠ .operator) :
      scanFrom cfg [] (copied cfg t ++ ds) = scan cfg t.text ++ scanFrom cfg [] ds := by
    rw [copied_of_kind h hkind]
    rcases hds ht with rfl | ⟨c, es, rfl, hc⟩
    · rw [List.append_nil, scanFrom_nil, List.append_nil]
      rfl
    · exact scanFrom_append_separator hc [] _ es
  cases h with
  | operator ho =>
    have hblank : Text.isBlank ' ' = true := by decide
    rw [Markup.copied_operator ho, List.append_assoc, List.cons_append, List.singleton_append,
      scanFrom_blank hblank, scanFrom_append_blank hblank]
    rfl
  | lparen =>
    rw [copied_of_kind .lparen nofun]
    exact scanFrom_symbol_append (c := '(') rfl ds
  | rparen =>
    rw [copied_of_kind .rparen nofun]
    exact scanFrom_symbol_append (c := ')') rfl ds
  | number => exact hfactor (.inl rfl) nofun
  | function => exact hfactor (.inr rfl) nofun
  | plain => exact hfactor (.inr rfl) nofun

/-- Behind a factor that is followed by none stands a blank or a parenthesis, or nothing. -/
theorem separator_of_copied {ts : List Token} (hshape : ∀ t ∈ ts, Shaped cfg t)
    (hts : ∀ t ∈ ts.head?, ¬t.IsFactor) :
    ts.flatMap (copied cfg) = [] ∨
      ∃ c es, ts.flatMap (copied cfg) = c :: es ∧ cfg.Separator c := by
  cases ts with
  | nil => exact .inl rfl
  | cons t ts =>
    have hnot := hts t rfl
    refine .inr ?_
    rw [List.flatMap_cons]
    cases hshape t List.mem_cons_self with
    | operator ho =>
      rw [Markup.copied_operator ho]
      exact ⟨' ', _, rfl, Config.separator_of_isBlank (by decide)⟩
    | lparen =>
      rw [copied_of_kind .lparen nofun]
      exact ⟨'(', _, rfl, Config.separator_of_not_isNameCharacter rfl rfl⟩
    | rparen =>
      rw [copied_of_kind .rparen nofun]
      exact ⟨')', _, rfl, Config.separator_of_not_isNameCharacter rfl rfl⟩
    | number => exact absurd (.inl rfl) hnot
    | function => exact absurd (.inr rfl) hnot
    | plain => exact absurd (.inr rfl) hnot

theorem scanFrom_flatMap_copied {ts : List Token} (hshape : ∀ t ∈ ts, Shaped cfg t)
    (happart : ts.IsChain fun t u => ¬(t.IsFactor ∧ u.IsFactor)) :
    scanFrom cfg [] (ts.flatMap (copied cfg)) = ts.flatMap fun t => scan cfg t.text := by
  induction ts with
  | nil => exact scanFrom_of_scans (.done [])
  | cons t ts ih =>
    obtain ⟨ht, hts⟩ := List.forall_mem_cons.1 hshape
    obtain ⟨hnext, hchain⟩ := List.isChain_cons.1 happart
    rw [List.flatMap_cons, List.flatMap_cons, scanFrom_copied_append ht, ih hts hchain]
    exact fun hfactor => separator_of_copied hts fun u hu hboth => hnext u hu ⟨hfactor, hboth⟩

/-- If no two neighbouring tokens of a formula without backslashes are numbers or identifiers, the
clean copy of its markup has the tokens that its own tokens have with blanks between them. -/
theorem scan_clean_ofFormula {cfg : Config} (himplicit : cfg.isOperator cfg.implicitOperator = true)
    (hslash : cfg.implicitOperator ≠ "\\") {formula : String} (hformula : '\\' ∉ formula.toList)
    (happart : (scan cfg formula).IsChain fun t u => ¬(t.IsFactor ∧ u.IsFactor)) :
    scan cfg (Markup.clean (Markup.ofFormula cfg formula)) = scan cfg (join (scan cfg formula)) := by
  have htexts : ∀ t ∈ scan cfg formula, '\\' ∉ t.text.toList := by
    intro t ht hmem
    rcases mem_formula_of_mem_scan ht hmem with hc | hc
    · exact hformula hc
    · obtain ⟨c, heq, _⟩ := operatorSymbol_cases (Config.operatorSymbol_of_isOperator himplicit)
      rw [heq, String.toList_singleton, List.mem_singleton] at hc
      rw [← hc] at heq
      exact hslash heq
  have hshape : ∀ t ∈ scan cfg formula, Shaped cfg t :=
    fun t ht => shaped_of_scanned himplicit (scanned_of_mem_scan ht)
  have hclean : (Markup.clean (Markup.ofFormula cfg formula)).toList =
      (scan cfg formula).flatMap (copied cfg) := by
    unfold Markup.clean Markup.ofFormula
    rw [String.toList_ofList, String.toList_ofList, Markup.dropBackslashes_flatMap htexts]
  rw [scan_join, ← scanFrom_flatMap_copied hshape happart, ← hclean]
  rfl

theorem scan_clean_ofFormula_product :
    Config.standard.isOperator Config.standard.implicitOperator = true ∧
      Config.standard.implicitOperator ≠ "\\" ∧ '\\' ∉ "2sin(x)+a2b".toList ∧
      ((scan Config.standard "2sin(x)+a2b").IsChain fun t u => ¬(t.IsFactor ∧ u.IsFactor)) ∧
      Markup.ofFormula Config.standard "2sin(x)+a2b" = "2 * \\sin(x) + a * 2b" ∧
      Markup.clean (Markup.ofFormula Config.standard "2sin(x)+a2b") = "2 * sin(x) + a * 2b" ∧
      scan Config.standard (Markup.clean (Markup.ofFormula Config.standard "2sin(x)+a2b")) =
        scan Config.standard (join (scan Config.standard "2sin(x)+a2b")) := by
  have himplicit : Config.standard.isOperator Config.standard.implicitOperator = true := by
    decide +kernel
  have hslash : Config.standard.implicitOperator ≠ "\\" := by decide +kernel
  have hformula : '\\' ∉ "2sin(x)+a2b".toList := by decide
  have happart : (scan Config.standard "2sin(x)+a2b").IsChain
      fun t u => ¬(t.IsFactor ∧ u.IsFactor) := by decide +kernel
  exact ⟨himplicit, hslash, hformula, happart, by decide +kernel, by decide +kernel,
    scan_clean_ofFormula himplicit hslash hformula happart⟩

end Token
end Formulary
