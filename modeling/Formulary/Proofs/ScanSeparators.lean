import Formulary.Catalog
import Formulary.Proofs.ScanRules
/-!
# Scanning in parts

A blank or symbol that is part of no function name separates the text before it from the text behind
it: both are scanned as if they stood alone. So the tokens of texts that are joined by blanks are the
tokens of the texts.
-/

set_option autoImplicit false
namespace Formulary

/-- A character that ends whatever is pending and that no match of a name reaches over. -/
structure Config.Separator (cfg : Config) (c : Char) : Prop where
  not_mem : ∀ name ∈ cfg.functions.keys, c ∉ name.toList
  ends : Text.isBlank c = true ∨ cfg.isSymbol c = true

namespace Config
variable {cfg : Config} {c : Char}

theorem separator_of_isBlank (h : Text.isBlank c = true) : cfg.Separator c where
  not_mem := by
    intro name hname hc
    rw [isBlank_of_mem_name hname hc] at h
    cases h
  ends := .inl h

theorem separator_of_not_isNameCharacter (h : cfg.isSymbol c = true) (hc : isNameCharacter c = false) :
    cfg.Separator c where
  not_mem := by
    intro name hname hmem
    obtain ⟨d, ds, hds, _, hall⟩ := nameCharacters_of_mem_keys hname
    rw [hds] at hmem
    rw [hall c hmem] at hc
    cases hc
  ends := .inr h

theorem Separator.isAlpha (h : cfg.Separator c) : c.isAlpha = false := by
  rcases h.ends with hb | hs
  · exact Text.isAlpha_of_isBlank hb
  · exact isAlpha_of_isSymbol hs

theorem prefix_append_cons {name cs ds : List Char} (h : c ∉ name) :
    name <+: cs ++ c :: ds ↔ name <+: cs := by
  constructor
  · intro hpre
    have hshort : name.length ≤ cs.length := by
      refine Nat.le_of_not_lt fun hlt => h ?_
      have hlong : cs ++ [c] <+: name := by
        refine List.prefix_of_prefix_length_le ⟨ds, by simp⟩ hpre ?_
        rw [List.length_append, List.length_singleton]
        omega
      exact hlong.subset (List.mem_append_right cs (List.mem_singleton_self c))
    exact List.prefix_of_prefix_length_le hpre (List.prefix_append cs (c :: ds)) hshort
  · exact fun hpre => hpre.trans (List.prefix_append cs (c :: ds))

theorem Separator.functionAt? (h : cfg.Separator c) (cs ds : List Char) :
    cfg.functionAt? (cs ++ c :: ds) = cfg.functionAt? cs :=
  functionAt?_congr fun name hname => prefix_append_cons (h.not_mem name hname)

end Config

namespace Token
variable {cfg : Config} {c : Char}

theorem startsWithLetter_append_cons (h : c.isAlpha = false) (cs ds : List Char) :
    startsWithLetter (cs ++ c :: ds) = startsWithLetter cs := by
  cases cs with
  | nil => exact h
  | cons d cs => rfl

theorem Loose.append_cons {d : Char} {cs : List Char} (hl : Loose cfg d cs) (h : cfg.Separator c)
    (ds : List Char) : Loose cfg d (cs ++ c :: ds) where
  functionAt? := (h.functionAt? (d :: cs) ds).trans hl.functionAt?
  isSymbol := hl.isSymbol
  isBlank := hl.isBlank

theorem scanFrom_separator (h : cfg.Separator c) (p ds : List Char) :
    scanFrom cfg p (c :: ds) = ofPending p ++ scanFrom cfg [] (c :: ds) := by
  rcases h.ends with hb | hs
  · rw [scanFrom_of_scans (.blank p hb (scans_scanFrom [] ds)),
      scanFrom_of_scans (.blank [] hb (scans_scanFrom [] ds))]
    rfl
  · rw [scanFrom_of_scans (.symbol p hs (scans_scanFrom [] ds)),
      scanFrom_of_scans (.symbol [] hs (scans_scanFrom [] ds))]
    rfl

/-- Each rule applies to a text before a separator as it does to the text alone. -/
theorem Scans.append_separator {p cs : List Char} {ts : List Token} (h : Scans cfg p cs ts)
    (hc : cfg.Separator c) (ds : List Char) :
    Scans cfg p (cs ++ c :: ds) (ts ++ scanFrom cfg [] (c :: ds)) := by
  induction h with
  | done p =>
    rw [← scanFrom_separator hc]
    exact scans_scanFrom p (c :: ds)
  | @function p name cs ts hf _ ih =>
    have hmatch := (hc.functionAt? (name.toList ++ cs) ds).trans hf
    rw [List.append_assoc] at hmatch ⊢
    rw [List.append_assoc, List.cons_append]
    exact .function p hmatch ih
  | symbol p hs _ ih =>
    rw [List.append_assoc]
    exact .symbol p hs ih
  | blank p hb _ ih =>
    rw [List.append_assoc]
    exact .blank p hb ih
  | factor hl halnum hp _ ih =>
    rw [List.append_assoc]
    exact .factor (hl.append_cons hc ds) halnum hp ih
  | @digit p d cs ts hd hp hcs _ ih =>
    rw [List.append_assoc]
    exact .digit hd hp ((startsWithLetter_append_cons hc.isAlpha cs ds).trans hcs) ih
  | @keep p d cs ts hl hp hcs _ ih =>
    refine .keep (hl.append_cons hc ds) hp ?_ ih
    exact fun hd => (startsWithLetter_append_cons hc.isAlpha cs ds).trans (hcs hd)

theorem scanFrom_append_separator (hc : cfg.Separator c) (p cs ds : List Char) :
    scanFrom cfg p (cs ++ c :: ds) = scanFrom cfg p cs ++ scanFrom cfg [] (c :: ds) :=
  scanFrom_of_scans ((scans_scanFrom p cs).append_separator hc ds)

theorem scanFrom_blank (h : Text.isBlank c = true) (cs : List Char) :
    scanFrom cfg [] (c :: cs) = scanFrom cfg [] cs :=
  scanFrom_of_scans (.blank [] h (scans_scanFrom [] cs))

/-- The texts before and behind a blank are scanned as if they stood alone. -/
theorem scanFrom_append_blank (h : Text.isBlank c = true) (cs ds : List Char) :
    scanFrom cfg [] (cs ++ c :: ds) = scanFrom cfg [] cs ++ scanFrom cfg [] ds := by
  rw [scanFrom_append_separator (Config.separator_of_isBlank h), scanFrom_blank h]

theorem scanFrom_nil : scanFrom cfg [] [] = [] := scanFrom_of_scans (.done [])

theorem scanFrom_symbol (h : cfg.isSymbol c = true) (cs : List Char) :
    scanFrom cfg [] (c :: cs) = ofSymbol c :: scanFrom cfg [] cs :=
  scanFrom_of_scans (.symbol [] h (scans_scanFrom [] cs))

theorem scanFrom_intercalate (texts : List (List Char)) :
    scanFrom cfg [] ([' '].intercalate texts) = texts.flatMap (scanFrom cfg []) := by
  induction texts with
  | nil => rw [List.intercalate_nil, scanFrom_nil]; rfl
  | cons cs texts ih =>
    cases texts with
    | nil => rw [List.intercalate_singleton, List.flatMap_singleton]
    | cons ds texts =>
      have hblank : Text.isBlank ' ' = true := by decide
      rw [List.intercalate_cons_cons, List.append_assoc, List.singleton_append,
        scanFrom_append_blank hblank, ih]
      rfl

theorem toList_append_singleton_append (f g : String) (c : Char) :
    (f ++ String.singleton c ++ g).toList = f.toList ++ c :: g.toList := by
  rw [String.toList_append, String.toList_append, String.toList_singleton, List.append_assoc]
  rfl

theorem scan_join (ts : List Token) : scan cfg (join ts) = ts.flatMap fun t => scan cfg t.text := by
  unfold scan join
  rw [String.toList_intercalate, List.map_map]
  exact (scanFrom_intercalate _).trans (List.flatMap_map _ _ _)

/-- A separating symbol is a token between those of the texts before and behind it. -/
theorem scan_append_symbol (hs : cfg.isSymbol c = true) (hc : cfg.Separator c) (f g : String) :
    scan cfg (f ++ String.singleton c ++ g) = scan cfg f ++ ofSymbol c :: scan cfg g := by
  unfold scan
  rw [toList_append_singleton_append, scanFrom_append_separator hc, scanFrom_symbol hs]

/-- Texts around a blank are scanned as if they stood alone, and so are texts around a parenthesis or
around an operator that is part of no function name, with the token of the symbol between them. -/
theorem scan_append_separator (cfg : Config) (f g : String) :
    (∀ w, Text.isBlank w = true →
        scan cfg (f ++ String.singleton w ++ g) = scan cfg f ++ scan cfg g) ∧
      scan cfg (f ++ "(" ++ g) = scan cfg f ++ lparen :: scan cfg g ∧
      scan cfg (f ++ ")" ++ g) = scan cfg f ++ rparen :: scan cfg g ∧
      ∀ c, cfg.isOperator (String.singleton c) = true →
        (∀ name ∈ cfg.functions.keys, c ∉ name.toList) →
        scan cfg (f ++ String.singleton c ++ g) =
          scan cfg f ++ ⟨.operator, String.singleton c⟩ :: scan cfg g := by
  refine ⟨fun w hw => ?_, ?_, ?_, fun c hc hname => ?_⟩
  · unfold scan
    rw [toList_append_singleton_append, scanFrom_append_blank hw]
  · exact scan_append_symbol (c := '(') rfl (Config.separator_of_not_isNameCharacter rfl rfl) f g
  · exact scan_append_symbol (c := ')') rfl (Config.separator_of_not_isNameCharacter rfl rfl) f g
  · have hs := Config.isSymbol_of_isOperator hc
    rw [scan_append_symbol hs ⟨hname, .inr hs⟩, ofSymbol_of_isOperator hc]

/-- A name that a blank or an operator cuts is scanned letter by letter. -/
theorem scan_append_separator_cut :
    Text.isBlank '\t' = true ∧ Config.standard.isOperator "+" = true ∧
      (∀ name ∈ Config.standard.functions.keys, '+' ∉ name.toList) ∧
      scan Config.standard "2si\tn(x" =
        [⟨.number, "2"⟩, ⟨.operator, "*"⟩, ⟨.identifier, "s"⟩, ⟨.operator, "*"⟩, ⟨.identifier, "i"⟩,
          ⟨.identifier, "n"⟩, lparen, ⟨.identifier, "x"⟩] ∧
      scan Config.standard "2si+n(x" =
        [⟨.number, "2"⟩, ⟨.operator, "*"⟩, ⟨.identifier, "s"⟩, ⟨.operator, "*"⟩, ⟨.identifier, "i"⟩,
          ⟨.operator, "+"⟩, ⟨.identifier, "n"⟩, lparen, ⟨.identifier, "x"⟩] := by
  have htab : Text.isBlank '\t' = true := by decide
  have hplus : Config.standard.isOperator "+" = true := by decide +kernel
  have hnames : ∀ name ∈ Config.standard.functions.keys, '+' ∉ name.toList := by decide +kernel
  have hfirst : scan Config.standard "2si" = [⟨.number, "2"⟩, ⟨.operator, "*"⟩, ⟨.identifier, "s"⟩,
      ⟨.operator, "*"⟩, ⟨.identifier, "i"⟩] := by decide +kernel
  have hsecond : scan Config.standard "n(x" = [⟨.identifier, "n"⟩, lparen, ⟨.identifier, "x"⟩] := by
    decide +kernel
  obtain ⟨hblank, _, _, hoperator⟩ := scan_append_separator Config.standard "2si" "n(x"
  rw [hfirst, hsecond] at hblank hoperator
  exact ⟨htab, hplus, hnames, hblank '\t' htab, hoperator '+' hplus hnames⟩

end Token
end Formulary
