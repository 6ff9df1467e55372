import Formulary.Proofs.Expression
import Formulary.Proofs.Presets
import Formulary.Proofs.ScanRejoined
/-!
# Layouts of tokens

Tokens may be written with any blanks before, between and behind them. What is read from such a text
are the tokens again, provided that no name or number is followed by another one: then each ends at a
blank or at a symbol.
-/

set_option autoImplicit false
namespace Formulary

/-- Whether characters are those of the tokens, in order, and blanks around them. -/
inductive LaidOut : List Token → List Char → Prop
  | done {bs : List Char} (hb : ∀ c ∈ bs, Text.isBlank c = true) : LaidOut [] bs
  | token {bs : List Char} (hb : ∀ c ∈ bs, Text.isBlank c = true) (t : Token) {ts : List Token}
      {cs : List Char} (h : LaidOut ts cs) : LaidOut (t :: ts) (bs ++ (t.text.toList ++ cs))

namespace Token
variable {cfg : Config}

/-- Whether a parenthesis or an operator comes next, or nothing. -/
def Stops (cfg : Config) (us : List Token) : Prop :=
  ∀ t ∈ us.head?, ∃ c, cfg.isSymbol c = true ∧ t = ofSymbol c

/-- Whether tokens are read from every layout of them. -/
def Reads (cfg : Config) (us : List Token) : Prop := ∀ cs, LaidOut us cs → scanFrom cfg [] cs = us

/-- Whether tokens are read wherever they stand before something that stops them. -/
def Readable (cfg : Config) (ts : List Token) : Prop :=
  ∀ us, Stops cfg us → Reads cfg us → Reads cfg (ts ++ us)

theorem scanFrom_blanks {bs : List Char} (hb : ∀ c ∈ bs, Text.isBlank c = true) (cs : List Char) :
    scanFrom cfg [] (bs ++ cs) = scanFrom cfg [] cs := by
  induction bs with
  | nil => rfl
  | cons b bs ih =>
    obtain ⟨hhead, htail⟩ := List.forall_mem_cons.1 hb
    rw [List.cons_append, scanFrom_blank hhead, ih htail]

theorem stops_nil : Stops cfg [] := nofun

theorem stops_symbol {c : Char} (hc : cfg.isSymbol c = true) (us : List Token) :
    Stops cfg (ofSymbol c :: us) := by
  intro t ht
  cases ht
  exact ⟨c, hc, rfl⟩

theorem Stops.layout (hcfg : cfg.Legible) {us : List Token} (hs : Stops cfg us) {cs : List Char}
    (h : LaidOut us cs) : cs = [] ∨ ∃ c ds, cs = c :: ds ∧ cfg.Separator c := by
  have hblank (b : Char) (bs ds : List Char) (hb : ∀ c ∈ b :: bs, Text.isBlank c = true) :
      ∃ c es, b :: bs ++ ds = c :: es ∧ cfg.Separator c :=
    ⟨b, bs ++ ds, rfl, Config.separator_of_isBlank (hb b List.mem_cons_self)⟩
  cases h with
  | done hb =>
    cases cs with
    | nil => exact .inl rfl
    | cons b bs =>
      have hfirst := hblank b bs [] hb
      rw [List.append_nil] at hfirst
      exact .inr hfirst
  | @token bs hb t ts cs h =>
    cases bs with
    | nil =>
      obtain ⟨c, hc, rfl⟩ := hs t rfl
      rw [toList_text_ofSymbol]
      exact .inr ⟨c, cs, rfl, hcfg.separator_of_isSymbol hc⟩
    | cons b bs => exact .inr (hblank b bs _ hb)

theorem reads_nil : Reads cfg [] := by
  intro cs h
  cases h with
  | done hb =>
    have hcs : scanFrom cfg [] (cs ++ []) = _ := scanFrom_blanks hb []
    rw [List.append_nil] at hcs
    rw [hcs, scanFrom_nil]

theorem reads_symbol {c : Char} (hc : cfg.isSymbol c = true) {us : List Token}
    (h : Reads cfg us) : Reads cfg (ofSymbol c :: us) := by
  intro cs hl
  cases hl with
  | token hb t hrest =>
    rw [scanFrom_blanks hb, toList_text_ofSymbol, List.singleton_append, scanFrom_symbol hc,
      h _ hrest]

theorem reads_word (hcfg : cfg.Legible) {t : Token} (ht : scan cfg t.text = [t]) {us : List Token}
    (hs : Stops cfg us) (h : Reads cfg us) : Reads cfg (t :: us) := by
  intro cs hl
  cases hl with
  | @token bs hb t us cs hrest =>
    have hread := h cs hrest
    rw [scanFrom_blanks hb]
    unfold scan at ht
    -- the word ends with the text, or at a separator
    rcases hs.layout hcfg hrest with rfl | ⟨c, ds, rfl, hc⟩
    · rw [List.append_nil, ht, ← hread, scanFrom_nil]
    · rw [scanFrom_append_separator hc, ht, hread]
      rfl

theorem readable_word (hcfg : cfg.Legible) {t : Token} (ht : scan cfg t.text = [t]) :
    Readable cfg [t] := fun _ hs h => reads_word hcfg ht hs h

theorem Readable.enclosed {ts : List Token} (h : Readable cfg ts) (n : Nat) :
    Readable cfg (enclosed n ts) := by
  induction n with
  | zero =>
    rw [enclosed_zero]
    exact h
  | succ n ih =>
    intro us hs hus
    have hl : cfg.isSymbol '(' = true := rfl
    have hr : cfg.isSymbol ')' = true := rfl
    have hinner := ih (ofSymbol ')' :: us) (stops_symbol hr us) (reads_symbol hr hus)
    rw [enclosed_succ, List.cons_append, List.append_assoc]
    exact reads_symbol hl hinner

theorem Readable.operator {symbol : String} (ho : cfg.isOperator symbol = true)
    {ls rs : List Token} (hl : Readable cfg ls) (hr : Readable cfg rs) :
    Readable cfg (ls ++ ⟨.operator, symbol⟩ :: rs) := by
  intro us hs hus
  obtain ⟨c, hc, heq⟩ := operator_eq_ofSymbol ho
  rw [heq, List.append_assoc]
  exact hl (ofSymbol c :: (rs ++ us)) (stops_symbol hc _) (reads_symbol hc (hr us hs hus))

theorem Readable.call (hcfg : cfg.Legible) {t : Token} (ht : scan cfg t.text = [t])
    {ts : List Token} (h : Readable cfg ts) : Readable cfg (t :: Formulary.enclosed 1 ts) := by
  intro us hs hus
  have hargument := h.enclosed 1 us hs hus
  refine reads_word hcfg ht ?_ hargument
  rw [enclosed_succ]
  exact stops_symbol (c := '(') rfl _

end Token
end Formulary
