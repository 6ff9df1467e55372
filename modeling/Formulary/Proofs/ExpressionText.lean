import Formulary.Proofs.Layout
import Formulary.Proofs.NumeralReading
/-!
# The text of an expression

An expression over decimal literals and one-letter variables is read from every layout of its tokens,
and the variables that a calculation looks for are those of the expression.
-/

set_option autoImplicit false
namespace Formulary

namespace Token
variable {cfg : Config}

theorem loose_of_numeral {cs : List Char} (h : isNumeral cs = true) {q r : List Char} {c : Char}
    (hcs : cs = q ++ c :: r) : Loose cfg c r := by
  have hc := digit_or_point_of_isNumeral h c (by rw [hcs]; simp)
  rcases hc with hd | rfl
  · exact loose_of_isDigit hd r
  · exact loose_point r

theorem isAlpha_of_numeral {cs : List Char} (h : isNumeral cs = true) {c : Char} (hc : c ∈ cs) :
    c.isAlpha = false := by
  rcases digit_or_point_of_isNumeral h c hc with hd | rfl
  · exact Text.isAlpha_of_isDigit hd
  · rfl

theorem startsWithLetter_of_numeral {cs q r : List Char} (h : isNumeral cs = true) (hcs : cs = q ++ r) :
    startsWithLetter r = false := by
  cases r with
  | nil => rfl
  | cons d r => exact isAlpha_of_numeral h (by rw [hcs]; simp)

theorem kept_of_numeral {cs : List Char} (h : isNumeral cs = true) : Kept cfg cs [] where
  loose q c r hcs := by
    rw [List.append_nil]
    exact loose_of_numeral h hcs
  factor q c r hcs _ := by
    rw [List.any_eq_false]
    intro d hd
    rw [isAlpha_of_numeral h (by rw [hcs]; exact List.mem_append_left _ hd)]
    exact Bool.false_ne_true
  digit q c r hcs _ _ := by
    rw [List.append_nil]
    exact startsWithLetter_of_numeral (q := q ++ [c]) h (by rw [hcs, List.append_assoc]; rfl)

theorem scan_numeral {s : String} (h : isNumeral s.toList = true) :
    scan cfg s = [⟨.number, s⟩] := by
  have htoken := pendingToken_of_isNumeral h
  have hkept : Kept cfg s.toList [] := kept_of_numeral h
  have hscan := scan_pendingToken (ne_nil_of_isNumeral h) hkept
  rw [htoken, String.ofList_toList] at hscan
  rw [hscan]
  exact rescanned_of_kind nofun

theorem scan_letter (hcfg : cfg.Legible) {c : Char} (hc : c.isAlpha = true) :
    scan cfg (String.singleton c) = [⟨.identifier, String.singleton c⟩] := by
  have hl : Loose cfg c [] :=
    loose_of_isAlphanum (Text.isAlphanum_of_isAlpha hc) (hcfg.functionAt?_singleton c)
  have hletter : startsWithLetter [c] = true := hc
  have hnumeral : isNumeral [c] = false :=
    isNumeral_of_letter (by rwa [dropWhile_isDigit_of_letter hletter])
  have htoken := pendingToken_of_not_isNumeral hnumeral
  have hscan := scan_pendingToken (List.cons_ne_nil c []) (kept_singleton hl)
  rw [htoken] at hscan
  exact hscan.trans (rescanned_of_letter String.toList_ofList hc)

theorem scan_of_mem_keys (hcfg : cfg.Legible) {name : String} (h : name ∈ cfg.functions.keys) :
    scan cfg name = [⟨.identifier, name⟩] := by
  obtain ⟨c, cs, hcs, hc, _⟩ := Config.nameCharacters_of_mem_keys h
  rw [scan_name (hcfg.matched name h)]
  exact rescanned_of_letter hcs hc

end Token

namespace Expression
variable {cfg : Config} {env : Environment}

/-- Whether the literals are decimal literals and the bound names are letters. -/
def Textual : Expression cfg env → Prop
  | literal text => isNumeral text.toList = true
  | reference name _ _ => ∃ c : Char, c.isAlpha = true ∧ name = String.singleton c
  | binary _ _ _ left right => left.Textual ∧ right.Textual
  | group inner => inner.Textual
  | call _ _ _ _ argument => argument.Textual

/-- The bound names, from left to right. -/
def variableNames : Expression cfg env → List String
  | literal _ => []
  | reference name _ _ => [name]
  | binary _ _ _ left right => left.variableNames ++ right.variableNames
  | group inner => inner.variableNames
  | call _ _ _ _ argument => argument.variableNames

end Expression

section
variable {cfg : Config} {env : Environment}

theorem readable_of_renders (hcfg : cfg.Legible) {e : Expression cfg env} {ts : List Token}
    (h : Renders e ts) (he : e.Textual) : Token.Readable cfg ts := by
  induction h with
  | literal text => exact Token.readable_word hcfg (Token.scan_numeral he)
  | reference name x bound =>
    obtain ⟨c, hc, rfl⟩ := he
    exact Token.readable_word hcfg (Token.scan_letter hcfg hc)
  | binary configured m n _ _ _ _ ihl ihr =>
    have ho : cfg.isOperator _ = true := Table.contains_of_get? configured
    exact .operator ho ((ihl he.1).enclosed m) ((ihr he.2).enclosed n)
  | group _ ih => exact (ih he).enclosed 1
  | call configured _ _ _ ih =>
    have hname := Token.scan_of_mem_keys hcfg (Table.mem_keys_of_get? configured)
    exact .call hcfg hname (ih he)

/-- From every layout of an expression its tokens are read. -/
theorem scan_of_laidOut (hcfg : cfg.Legible) {e : Expression cfg env} {ts : List Token}
    (h : Renders e ts) (he : e.Textual) {text : String} (ht : LaidOut ts text.toList) :
    Token.scan cfg text = ts := by
  have hread := readable_of_renders hcfg h he [] Token.stops_nil Token.reads_nil
  rw [List.append_nil] at hread
  exact hread text.toList ht

def Config.variableTexts (cfg : Config) (ts : List Token) : List String :=
  (ts.filter (·.isVariable cfg)).map Token.text

namespace Config

theorem variableTexts_append (ts us : List Token) :
    cfg.variableTexts (ts ++ us) = cfg.variableTexts ts ++ cfg.variableTexts us := by
  unfold variableTexts
  rw [List.filter_append, List.map_append]

theorem variableTexts_of_kind {k : TokenKind} (h : (k == .identifier) = false) (text : String)
    (ts : List Token) : cfg.variableTexts (⟨k, text⟩ :: ts) = cfg.variableTexts ts := by
  have hv : ¬Token.isVariable cfg ⟨k, text⟩ = true := by
    unfold Token.isVariable
    rw [h]
    exact Bool.false_ne_true
  unfold variableTexts
  rw [List.filter_cons_of_neg hv]

theorem isVariable_letter {c : Char} (hc : c.isAlpha = true)
    (hf : cfg.isFunction (String.singleton c) = false) :
    Token.isVariable cfg ⟨.identifier, String.singleton c⟩ = true := by
  have ho : cfg.isOperator (String.singleton c) = false := by
    have hs : cfg.isSymbol c = false := isSymbol_of_isAlphanum (Text.isAlphanum_of_isAlpha hc)
    unfold isSymbol at hs
    exact (Bool.or_eq_false_iff.1 hs).2
  unfold Token.isVariable
  simp only [ho, hf, String.toList_singleton, List.all_cons, hc]
  simp

theorem variableTexts_letter (hcfg : cfg.Legible) {c : Char} (hc : c.isAlpha = true) :
    cfg.variableTexts [⟨.identifier, String.singleton c⟩] = [String.singleton c] := by
  unfold variableTexts
  rw [List.filter_cons_of_pos (isVariable_letter hc (hcfg.isFunction_singleton c))]
  rfl

theorem variableTexts_name {name : String} (h : cfg.isFunction name = true) (ts : List Token) :
    cfg.variableTexts (⟨.identifier, name⟩ :: ts) = cfg.variableTexts ts := by
  have hv : ¬Token.isVariable cfg ⟨.identifier, name⟩ = true := by
    unfold Token.isVariable
    rw [h]
    simp
  unfold variableTexts
  rw [List.filter_cons_of_neg hv]

theorem variableTexts_enclosed (n : Nat) (ts : List Token) :
    cfg.variableTexts (enclosed n ts) = cfg.variableTexts ts := by
  induction n with
  | zero => rw [enclosed_zero]
  | succ n ih =>
    have hl (us : List Token) : cfg.variableTexts (Token.lparen :: us) = cfg.variableTexts us :=
      variableTexts_of_kind rfl "(" us
    have hr : cfg.variableTexts [Token.rparen] = [] := variableTexts_of_kind rfl ")" []
    rw [enclosed_succ, hl, variableTexts_append, ih, hr, List.append_nil]

end Config

theorem variableTexts_of_renders (hcfg : cfg.Legible) {e : Expression cfg env} {ts : List Token}
    (h : Renders e ts) (he : e.Textual) : cfg.variableTexts ts = e.variableNames := by
  induction h with
  | literal text => exact Config.variableTexts_of_kind rfl text []
  | reference name x bound =>
    obtain ⟨c, hc, rfl⟩ := he
    exact Config.variableTexts_letter hcfg hc
  | @binary symbol _ configured _ _ _ rs m n _ _ _ _ ihl ihr =>
    have hop : cfg.variableTexts (⟨.operator, symbol⟩ :: enclosed n rs) = _ :=
      Config.variableTexts_of_kind rfl symbol (enclosed n rs)
    rw [Config.variableTexts_append, hop, Config.variableTexts_enclosed,
      Config.variableTexts_enclosed, ihl he.1, ihr he.2]
    rfl
  | group _ ih =>
    rw [Config.variableTexts_enclosed]
    exact ih he
  | call configured _ _ _ ih =>
    have hname : cfg.isFunction _ = true := Table.contains_of_get? configured
    rw [Config.variableTexts_name hname, Config.variableTexts_enclosed]
    exact ih he

theorem foldl_addName (names xs : List String) :
    xs.foldl Token.addName names = names ++ (xs.filter fun x => x ∉ names).eraseDups := by
  induction xs generalizing names with
  | nil => exact (List.append_nil names).symm
  | cons x xs ih =>
    rw [List.foldl_cons, ih]
    unfold Token.addName
    split
    · rename_i hx
      rw [List.filter_cons_of_neg (by simpa using hx)]
    · rename_i hx
      rw [List.filter_cons_of_pos (by simpa using hx), List.eraseDups_cons, List.append_assoc,
        List.filter_filter]
      have hsame : (xs.filter fun y => decide (y ∉ names ++ [x])) =
          xs.filter fun y => !y == x && decide (y ∉ names) := by
        refine List.filter_congr fun y _ => ?_
        rw [Bool.eq_iff_iff]
        simp [and_comm]
      rw [hsame]
      rfl

theorem variableNames_eq_eraseDups (formula : String) :
    cfg.variableNames formula = (cfg.variableTexts (Token.scan cfg formula)).eraseDups := by
  unfold Config.variableNames
  rw [foldl_addName]
  change [] ++ ((cfg.variableTexts _).filter fun x => x ∉ []).eraseDups = _
  simp

end
end Formulary
