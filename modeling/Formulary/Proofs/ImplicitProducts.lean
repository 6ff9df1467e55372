import Formulary.Catalog
import Formulary.Proofs.CatalogConfigs
import Formulary.Proofs.ExpressionText
import Formulary.Proofs.ExpressionValue
import Formulary.Proofs.TokenShapes
/-!
# Implicit products

Letters that stand side by side, with a digit in front of them or digits behind them, are factors: the
scanner enters the implicit operator between any two of them, and evaluating the tokens applies it to
the values of the factors from left to right.
-/

set_option autoImplicit false
namespace Formulary

/-- Letters with at most one digit in front and any digits behind. -/
structure Word where
  coefficient : Option Char
  letters : List Char
  digits : List Char
  coefficient_isDigit : ∀ c ∈ coefficient, c.isDigit = true
  letters_ne_nil : letters ≠ []
  letters_isAlpha : ∀ c ∈ letters, c.isAlpha = true
  digits_isDigit : ∀ c ∈ digits, c.isDigit = true

namespace Token

/-- The variable that a letter is. -/
def letter (c : Char) : Token := ⟨.identifier, String.singleton c⟩

/-- The number that digits write, if there are any. -/
def numeral : List Char → List Token
  | [] => []
  | ds => [⟨.number, String.ofList ds⟩]

/-- The number that a literal or a bound name stands for. -/
def value? (env : Environment) (t : Token) : Option Float :=
  match t.kind with
  | .number => (Numeral.float t.text).toOption
  | .identifier => (env t.text).bind Except.toOption
  | _ => none

end Token

namespace Word

def text (w : Word) : String := String.ofList (w.coefficient.toList ++ w.letters ++ w.digits)

/-- The factors of a word: its digit, its letters one by one, and the number behind them. -/
def factors (w : Word) : List Token :=
  Token.numeral w.coefficient.toList ++ (w.letters.map Token.letter ++ Token.numeral w.digits)

end Word

namespace Token

section
variable {cfg : Config}

theorem ofPending_letter {c : Char} (h : c.isAlpha = true) : ofPending [c] = [letter c] := by
  rw [ofPending_of_ne_nil (List.cons_ne_nil c []), pendingToken_of_not_isNumeral]
  · rfl
  · rw [isNumeral_singleton, Text.isDigit_of_isAlpha h]

/-- What follows the first character of a numeral stays with it. -/
theorem scans_numeral {c : Char} {cs : List Char} (h : isNumeral (c :: cs) = true) :
    Scans cfg [c] cs [⟨.number, String.ofList (c :: cs)⟩] := by
  have hbehind : ∀ d r, c :: cs = d :: r → d.isDigit = true → startsWithLetter r = false :=
    fun d r heq _ => startsWithLetter_of_numeral (q := [d]) h heq
  have hkept : Kept cfg (c :: cs) [] := kept_of_numeral h
  have hscans := scans_of_kept hkept hbehind [c] cs rfl
  rwa [ofPending_of_ne_nil (List.cons_ne_nil c cs), pendingToken_of_isNumeral h] at hscans

/-- A letter or digit behind a pending letter begins the next factor. -/
theorem Scans.behind_letter {c d : Char} {cs : List Char} {ts : List Token} (hc : c.isAlpha = true)
    (hd : d.isAlphanum = true) (hl : Loose cfg d cs) (h : Scans cfg [d] cs ts) :
    Scans cfg [c] (d :: cs) (letter c :: cfg.implicitToken :: ts) := by
  have hpending : [c].any Char.isAlpha = true := by rw [List.any_cons, hc, Bool.true_or]
  have hfactor := Scans.factor hl hd hpending h
  rwa [ofPending_letter hc] at hfactor

/-- Behind a pending letter every letter is a factor of its own, and the digits at the end are one. -/
theorem scans_letters {c : Char} {cs ds : List Char} (hcs : ∀ d ∈ c :: cs, d.isAlpha = true)
    (hds : ∀ d ∈ ds, d.isDigit = true)
    (hnames : ∀ name ∈ cfg.functions.keys, ¬name.toList <:+: c :: (cs ++ ds)) :
    Scans cfg [c] (cs ++ ds)
      (((c :: cs).map letter ++ numeral ds).intersperse cfg.implicitToken) := by
  induction cs generalizing c with
  | nil =>
    have hc := hcs c List.mem_cons_self
    match ds with
    | [] =>
      have hdone : Scans cfg [c] [] (ofPending [c]) := .done [c]
      rwa [ofPending_letter hc] at hdone
    | d :: ds =>
      have hd := hds d List.mem_cons_self
      have hnumeral := isNumeral_of_digits hds (List.cons_ne_nil d ds)
      exact (scans_numeral hnumeral).behind_letter hc (Text.isAlphanum_of_isDigit hd) (loose_of_isDigit hd ds)
  | cons l cs ih =>
    obtain ⟨hc, hls⟩ := List.forall_mem_cons.1 hcs
    have hl := Text.isAlphanum_of_isAlpha (hls l List.mem_cons_self)
    have hbehind : ∀ name ∈ cfg.functions.keys, ¬name.toList <:+: l :: (cs ++ ds) :=
      fun name hname hin => hnames name hname (hin.trans (List.suffix_cons c _).isInfix)
    exact (ih hls hbehind).behind_letter hc hl
      (loose_of_isAlphanum hl (Config.functionAt?_eq_none_of_not_infix hbehind))

end

theorem intersperse_cons {α : Type} (sep x : α) (xs : List α) :
    (x :: xs).intersperse sep = x :: xs.flatMap fun y => [sep, y] := by
  induction xs generalizing x with
  | nil => rfl
  | cons y ys ih =>
    rw [List.intersperse_cons_cons, ih]
    rfl

section
variable {cfg : Config} {env : Environment}

theorem computes_of_value {t : Token} {x : Float} (h : t.value? env = some x) :
    Computes cfg env none [t] (.ok x) := by
  obtain ⟨kind, text⟩ := t
  cases kind with
  | number =>
    have hvalue : Token.literal ⟨.number, text⟩ = .ok x := by
      unfold Token.literal
      rw [ok_of_toOption h]
      rfl
    rw [← hvalue]
    exact computes_literal text
  | identifier =>
    obtain ⟨v, hv, hx⟩ := Option.bind_eq_some_iff.1 h
    have hbound : Computes cfg env none [⟨.identifier, text⟩] (v.mapError .operand) :=
      computes_reference hv
    rwa [ok_of_toOption hx] at hbound
  | _ => cases h

theorem exists_values {ts : List Token} (h : ∀ t ∈ ts, ∃ x, t.value? env = some x) :
    ∃ xs, ts.mapM (value? env) = some xs := by
  induction ts with
  | nil => exact ⟨[], rfl⟩
  | cons t ts ih =>
    obtain ⟨ht, hts⟩ := List.forall_mem_cons.1 h
    obtain ⟨x, hx⟩ := ht
    obtain ⟨xs, hxs⟩ := ih hts
    refine ⟨x :: xs, ?_⟩
    rw [List.mapM_cons, hx, hxs]
    rfl

theorem values_cons {t : Token} {ts : List Token} {xs : List Float}
    (h : (t :: ts).mapM (value? env) = some xs) :
    ∃ x ys, xs = x :: ys ∧ t.value? env = some x ∧ ts.mapM (value? env) = some ys := by
  rw [List.mapM_cons] at h
  obtain ⟨x, hx, hrest⟩ := Option.bind_eq_some_iff.1 h
  obtain ⟨ys, hys, hcons⟩ := Option.bind_eq_some_iff.1 hrest
  cases hcons
  exact ⟨x, ys, rfl, hx, hys⟩

theorem value_of_mem_numeral {ds : List Char} (hds : ∀ d ∈ ds, d.isDigit = true) :
    ∀ t ∈ numeral ds, ∃ x, t.value? env = some x := by
  cases ds with
  | nil => exact List.forall_mem_nil _
  | cons d ds =>
    have hliteral : isNumeral (String.ofList (d :: ds)).toList = true := by
      rw [String.toList_ofList]
      exact isNumeral_of_digits hds (List.cons_ne_nil d ds)
    obtain ⟨x, hx⟩ := Numeral.float_of_isNumeral hliteral
    exact List.forall_mem_singleton.2 ⟨x, congrArg Except.toOption hx⟩

/-- Operands with the same operator between them are grouped to the left. -/
theorem evaluate_chain {symbol : String} {op : Operator} (hop : cfg.operators.get? symbol = some op)
    {p? : Option Int} {ls : List Token} {v : Except Fault Float} (hl : Computes cfg env p? ls v)
    (hp : ∀ p ∈ p?, cfg.precedence symbol ≤ p) {ts : List Token} {xs : List Float}
    (h : ts.mapM (value? env) = some xs) :
    evaluate cfg env (ls ++ ts.flatMap fun t => [⟨.operator, symbol⟩, t]) =
      (v >>= fun x => xs.foldlM op.apply x).map some := by
  induction ts generalizing p? ls v xs with
  | nil =>
    obtain rfl : [] = xs := Option.some.inj h
    rw [List.flatMap_nil, List.append_nil, evaluate_of_computes hl]
    cases v <;> rfl
  | cons t ts ih =>
    obtain ⟨x, ys, rfl, hx, hys⟩ := values_cons h
    -- what the operator yields with the next operand is the left operand of the next operator
    have hfirst := computes_binary hop hl (computes_of_value hx) hp nofun
    have hle : ∀ p ∈ some (cfg.precedence symbol), cfg.precedence symbol ≤ p := by
      rintro _ ⟨⟩
      exact Int.le_refl _
    calc
      evaluate cfg env (ls ++ (t :: ts).flatMap fun t => [⟨.operator, symbol⟩, t])
      _ = evaluate cfg env ((ls ++ [⟨.operator, symbol⟩, t]) ++
          ts.flatMap fun t => [⟨.operator, symbol⟩, t]) := by
        rw [List.flatMap_cons, List.append_assoc]
      _ = ((v >>= fun a => op.apply a x) >>= fun y => ys.foldlM op.apply y).map some :=
        ih hfirst hle hys
      _ = (v >>= fun a => (x :: ys).foldlM op.apply a).map some := by
        rw [bind_assoc]
        rfl

end

end Token

namespace Word

theorem scan_text {cfg : Config} {w : Word}
    (hnames : ∀ name ∈ cfg.functions.keys, ¬name.toList <:+: w.text.toList) :
    Token.scan cfg w.text = w.factors.intersperse cfg.implicitToken := by
  obtain ⟨coefficient, letters, digits, hcoefficient, hne, hletters, hdigits⟩ := w
  obtain ⟨c, cs, rfl⟩ := List.exists_cons_of_ne_nil hne
  have hc := hletters c List.mem_cons_self
  unfold text at hnames
  rw [String.toList_ofList, List.append_assoc, List.cons_append] at hnames
  have hbehind : ∀ name ∈ cfg.functions.keys, ¬name.toList <:+: c :: (cs ++ digits) :=
    fun name hname hin => hnames name hname (hin.trans (List.suffix_append _ _).isInfix)
  have hl := Token.loose_of_isAlphanum (Text.isAlphanum_of_isAlpha hc)
    (Config.functionAt?_eq_none_of_not_infix hbehind)
  have hscans := Token.scans_letters hletters hdigits hbehind
  have hword : Token.Scans cfg [] (c :: (cs ++ digits)) _ :=
    .keep hl (fun _ => rfl) (fun hd => by rw [Text.isDigit_of_isAlpha hc] at hd; cases hd) hscans
  unfold text Token.scan factors
  rw [String.toList_ofList, List.append_assoc, List.cons_append]
  cases coefficient with
  | none => exact Token.scanFrom_of_scans hword
  | some d => exact Token.scanFrom_of_scans (.digit (hcoefficient d rfl) rfl hc hword)

theorem value_of_mem_factors {w : Word} {env : Environment}
    (hbound : ∀ c ∈ w.letters, ∃ x, env (String.singleton c) = some (.ok x)) :
    ∀ t ∈ w.factors, ∃ x, t.value? env = some x := by
  intro t ht
  simp only [factors, List.mem_append, List.mem_map] at ht
  rcases ht with ht | ⟨c, hc, rfl⟩ | ht
  · exact Token.value_of_mem_numeral (fun d hd => w.coefficient_isDigit d (Option.mem_toList.1 hd)) t ht
  · obtain ⟨x, hx⟩ := hbound c hc
    exact ⟨x, congrArg (·.bind Except.toOption) hx⟩
  · exact Token.value_of_mem_numeral w.digits_isDigit t ht

theorem factors_ne_nil (w : Word) : w.factors ≠ [] := by
  simp [factors, w.letters_ne_nil]

/-- A word that holds no function name is scanned into its factors with the implicit operator between
them, and the tokens evaluate to that operator applied to the values of the factors from left to right. -/
theorem scan_evaluate {cfg : Config} {op : Operator}
    (hop : cfg.operators.get? cfg.implicitOperator = some op) (w : Word)
    (hnames : ∀ name ∈ cfg.functions.keys, ¬name.toList <:+: w.text.toList) :
    Token.scan cfg w.text = w.factors.intersperse cfg.implicitToken ∧
      ∀ env : Environment, (∀ c ∈ w.letters, ∃ x, env (String.singleton c) = some (.ok x)) →
        ∃ x xs, w.factors.mapM (Token.value? env) = some (x :: xs) ∧
          evaluate cfg env (Token.scan cfg w.text) = (xs.foldlM op.apply x).map some := by
  have hscan := scan_text hnames
  refine ⟨hscan, fun env hbound => ?_⟩
  obtain ⟨values, hvalues⟩ := Token.exists_values (value_of_mem_factors hbound)
  obtain ⟨t, ts, hfactors⟩ := List.exists_cons_of_ne_nil w.factors_ne_nil
  rw [hscan]
  rw [hfactors] at hvalues ⊢
  obtain ⟨x, xs, rfl, hx, hxs⟩ := Token.values_cons hvalues
  refine ⟨x, xs, hvalues, ?_⟩
  rw [Token.intersperse_cons]
  exact Token.evaluate_chain hop (Token.computes_of_value hx) nofun hxs

/-- `8ab12`. -/
def eight : Word where
  coefficient := some '8'
  letters := ['a', 'b']
  digits := ['1', '2']
  coefficient_isDigit := by
    rintro _ ⟨⟩
    rfl
  letters_ne_nil := List.cons_ne_nil 'a' ['b']
  letters_isAlpha := List.forall_mem_cons.2 ⟨rfl, List.forall_mem_singleton.2 rfl⟩
  digits_isDigit := List.forall_mem_cons.2 ⟨rfl, List.forall_mem_singleton.2 rfl⟩

def pair (a b : Float) : Environment :=
  fun name => if name = "a" then some (.ok a) else if name = "b" then some (.ok b) else none

end Word

/-- The standard configuration with the difference as the implicit operator. -/
def Config.differences : Config := { Config.standard with implicitOperator := "-" }

theorem isSome_differences :
    (Config.differences.operators.get? Config.differences.implicitOperator).isSome = true := by
  decide +kernel

/-- Between differences the grouping shows in the value. -/
theorem Word.scan_evaluate_eight :
    (Config.differences.operators.get? Config.differences.implicitOperator).isSome = true ∧
      (∀ name ∈ Config.differences.functions.keys, ¬name.toList <:+: Word.eight.text.toList) ∧
      Word.eight.text = "8ab12" ∧
      Token.scan Config.differences "8ab12" =
        [⟨.number, "8"⟩, ⟨.operator, "-"⟩, ⟨.identifier, "a"⟩, ⟨.operator, "-"⟩, ⟨.identifier, "b"⟩,
          ⟨.operator, "-"⟩, ⟨.number, "12"⟩] ∧
      (evaluate Config.differences (Word.pair 3.0 0.5)
        (Token.scan Config.differences "8ab12")).toOption = some (some (-7.5)) := by
  have hnames : ∀ name ∈ Config.differences.functions.keys,
      ¬name.toList <:+: Word.eight.text.toList := by decide +kernel
  have htext : Word.eight.text = "8ab12" := by decide
  have hbound : ∀ c ∈ Word.eight.letters,
      ∃ x, Word.pair 3.0 0.5 (String.singleton c) = some (.ok x) := by
    intro c hc
    rcases List.mem_pair.1 hc with rfl | rfl
    · exact ⟨3.0, rfl⟩
    · exact ⟨0.5, rfl⟩
  have hvalues : Word.eight.factors.mapM (Token.value? (Word.pair 3.0 0.5)) =
      some [8.0, 3.0, 0.5, 12.0] := by decide +kernel
  obtain ⟨hscan, hvalue⟩ := Word.scan_evaluate (Option.some_get isSome_differences).symm Word.eight hnames
  obtain ⟨x, xs, hfactors, heval⟩ := hvalue (Word.pair 3.0 0.5) hbound
  obtain ⟨rfl, rfl⟩ := List.cons.inj (Option.some.inj (hvalues.symm.trans hfactors))
  rw [htext] at hscan heval
  refine ⟨isSome_differences, hnames, htext, hscan.trans (by decide +kernel), ?_⟩
  rw [heval]
  decide +kernel

end Formulary
