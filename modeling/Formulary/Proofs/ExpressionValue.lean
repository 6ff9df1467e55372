import Formulary.Catalog
import Formulary.Proofs.ConfigNames
import Formulary.Proofs.EvaluationSteps
import Formulary.Proofs.Expression
/-!
# The value of an expression

Evaluating the tokens of an expression gives its value, for every table of precedences. What carries
the induction is a statement about tokens in the middle of a run: over operators of lower precedence,
and before tokens that apply whatever waits, they leave exactly their value on the stack.
-/

set_option autoImplicit false
namespace Formulary

section
variable {cfg : Config} {env : Environment}

/-- Whether running tokens pushes the value `v`, wherever the operators below yield to the precedence
of the tokens and the tokens behind close it. -/
def Computes (cfg : Config) (env : Environment) (p? : Option Int) (ts : List Token)
    (v : Except Fault Float) : Prop :=
  ∀ (rest : List Token) (s : Stacks),
    (∀ p ∈ p?, Stacks.Yields cfg p s.operators ∧ Closes cfg p rest) →
      conclude cfg env (ts ++ rest) s = v >>= fun x => conclude cfg env rest (s.push x)

theorem computes_literal (text : String) :
    Computes cfg env none [⟨.number, text⟩] (Token.literal ⟨.number, text⟩) := by
  intro rest s _
  exact conclude_number text rest s

theorem computes_reference {name : String} {x : Except OperandError Float}
    (h : env name = some x) :
    Computes cfg env none [⟨.identifier, name⟩] (x.mapError .operand) := by
  intro rest s _
  exact conclude_bound h rest s

theorem computes_parenthesized {p? : Option Int} {ts : List Token} {v : Except Fault Float}
    (h : Computes cfg env p? ts v) :
    Computes cfg env none (Token.lparen :: (ts ++ [Token.rparen])) v := by
  intro rest s _
  -- the parenthesis hides the operators within from those outside
  have hin := h (Token.rparen :: rest) (s.pushOperator Token.lparen)
    fun p _ => ⟨.inl rfl, .inl rfl⟩
  calc
    conclude cfg env (Token.lparen :: (ts ++ [Token.rparen]) ++ rest) s
    _ = conclude cfg env (ts ++ Token.rparen :: rest) (s.pushOperator Token.lparen) := by
      rw [List.cons_append, List.append_assoc]
      exact conclude_lparen _ _ _
    _ = v >>= fun x =>
        conclude cfg env (Token.rparen :: rest) ((s.pushOperator Token.lparen).push x) := hin
    _ = v >>= fun x => conclude cfg env rest (s.push x) := by
      congr 1
      funext x
      exact conclude_rparen _ _ _

theorem evaluate_of_computes {p? : Option Int} {ts : List Token} {v : Except Fault Float}
    (h : Computes cfg env p? ts v) : evaluate cfg env ts = v.map some := by
  have hrun := h [] .empty fun p _ => ⟨trivial, trivial⟩
  rw [List.append_nil] at hrun
  rw [evaluate_eq_conclude, hrun]
  cases v with
  | error e => rfl
  | ok x =>
    change conclude cfg env [] (Stacks.empty.push x) = _
    rw [conclude_nil]
    rfl

theorem computes_call {name : String} {f : Function} (hf : cfg.functions.get? name = some f)
    (hu : env name = none) {p? : Option Int} {ts : List Token} {v : Except Fault Float}
    (h : Computes cfg env p? ts v) (plain : ∀ t ∈ ts, t.kind ≠ .rparen) :
    Computes cfg env none (⟨.identifier, name⟩ :: enclosed 1 ts) (do let x ← v; f x) := by
  intro rest s _
  have hsplit := splitArgument_append plain ")" rest
  rw [enclosed_succ, enclosed_zero, List.cons_append, List.cons_append, List.append_assoc]
  change conclude cfg env (⟨.identifier, name⟩ :: ⟨.lparen, "("⟩ :: (ts ++ ⟨.rparen, ")"⟩ :: rest)) s = _
  rw [conclude_call hf hu hsplit, evaluate_of_computes h]
  cases v with
  | error e => rfl
  | ok x => rfl

def visible (n : Nat) (p? : Option Int) : Option Int := if n = 0 then p? else none

theorem computes_enclosed {p? : Option Int} {ts : List Token} {v : Except Fault Float}
    (h : Computes cfg env p? ts v) (n : Nat) : Computes cfg env (visible n p?) (enclosed n ts) v := by
  induction n with
  | zero =>
    rw [enclosed_zero]
    exact h
  | succ n ih =>
    rw [enclosed_succ]
    exact computes_parenthesized ih

theorem computes_binary {symbol : String} {op : Operator}
    (hop : cfg.operators.get? symbol = some op) {l? r? : Option Int} {ls rs : List Token}
    {v w : Except Fault Float} (hl : Computes cfg env l? ls v) (hr : Computes cfg env r? rs w)
    (hlp : ∀ p ∈ l?, cfg.precedence symbol ≤ p) (hrp : ∀ p ∈ r?, cfg.precedence symbol < p) :
    Computes cfg env (some (cfg.precedence symbol)) (ls ++ ⟨.operator, symbol⟩ :: rs)
      (do let a ← v; let b ← w; op.apply a b) := by
  intro rest s h
  obtain ⟨hy, hc⟩ := h _ rfl
  -- the left operand is complete when the operator comes, since the operator closes it
  have hleft := hl (⟨.operator, symbol⟩ :: (rs ++ rest)) s
    fun p hp => ⟨hy.mono (hlp p hp), .inr ⟨rfl, hlp p hp⟩⟩
  have hpush (a : Float) : conclude cfg env (⟨.operator, symbol⟩ :: (rs ++ rest)) (s.push a) =
      conclude cfg env (rs ++ rest) ((s.push a).pushOperator ⟨.operator, symbol⟩) := by
    rw [conclude_operator, Stacks.operator_of_yields (s := s.push a) hy]
    rfl
  -- the operator waits below the right operand, and what closes it closes that operand first
  have hright (a : Float) := hr rest ((s.push a).pushOperator ⟨.operator, symbol⟩)
    fun p hp => ⟨.inr (hrp p hp), hc.mono (Int.le_of_lt (hrp p hp))⟩
  calc
    conclude cfg env (ls ++ ⟨.operator, symbol⟩ :: rs ++ rest) s
    _ = v >>= fun a => conclude cfg env (⟨.operator, symbol⟩ :: (rs ++ rest)) (s.push a) := by
      rw [List.append_assoc]
      exact hleft
    _ = v >>= fun a => w >>= fun b => conclude cfg env rest
        (((s.push a).pushOperator ⟨.operator, symbol⟩).push b) := by
      congr 1
      funext a
      rw [hpush, hright]
    _ = v >>= fun a => w >>= fun b => op.apply a b >>= fun x =>
        conclude cfg env rest (s.push x) := by
      congr 1
      funext a
      congr 1
      funext b
      exact conclude_waiting hop hc a b s.values s.operators
    _ = _ := by simp only [bind_assoc]

theorem visible_lt {p : Int} {n : Nat} {p? : Option Int} (h : ∀ q ∈ p?, q ≤ p → 0 < n) :
    ∀ q ∈ visible n p?, p < q := by
  intro q hq
  unfold visible at hq
  split at hq
  · rename_i hn
    have hnot : ¬q ≤ p := fun hle => by
      have hpos := h q hq hle
      omega
    omega
  · cases hq

theorem computes_of_renders {e : Expression cfg env} {ts : List Token} (h : Renders e ts) :
    Computes cfg env e.precedence? ts e.value := by
  induction h with
  | literal text => exact computes_literal text
  | reference name x bound => exact computes_reference bound
  | @binary symbol op configured left right ls rs m n _ _ hm hn ihl ihr =>
    have hp := Config.precedence_of_get? configured
    have hlp : ∀ q ∈ visible m left.precedence?, cfg.precedence symbol ≤ q := by
      intro q hq
      have hlt := visible_lt (p := op.precedence - 1) (fun r hr hle => hm r hr (by omega)) q hq
      omega
    have hrp : ∀ q ∈ visible n right.precedence?, cfg.precedence symbol < q := by
      rw [hp]
      exact visible_lt hn
    have hstep := computes_binary configured (computes_enclosed ihl m) (computes_enclosed ihr n) hlp hrp
    rw [hp] at hstep
    exact hstep
  | group _ ih => exact computes_enclosed ih 1
  | call configured unbound _ plain ih =>
    exact computes_call configured unbound ih fun t ht => (plain t ht).2

/-- Evaluating any way to write an expression gives the value of the expression, or the same first
error. -/
theorem evaluate_rendering {e : Expression cfg env} {ts : List Token} (h : Renders e ts) :
    evaluate cfg env ts = e.value.map some :=
  evaluate_of_computes (computes_of_renders h)

end

def Environment.single (name : String) (x : Float) : Environment :=
  fun other => if other = name then some (.ok x) else none

/-- `64/4/2-abs(x)*(1+1)`, where `x` is minus three. -/
def Expression.difference : Expression Config.standard (.single "x" (-3.0)) :=
  ofSymbol "-" (by decide +kernel)
    (ofSymbol "/" (by decide +kernel)
      (ofSymbol "/" (by decide +kernel) (literal "64") (literal "4")) (literal "2"))
    (ofSymbol "*" (by decide +kernel)
      (ofName "abs" (by decide +kernel) rfl (reference "x" (.ok (-3.0)) rfl))
      (ofSymbol "+" (by decide +kernel) (literal "1") (literal "1")))

theorem renders_difference : Renders Expression.difference
    [⟨.number, "64"⟩, ⟨.operator, "/"⟩, ⟨.number, "4"⟩, ⟨.operator, "/"⟩, ⟨.number, "2"⟩,
      ⟨.operator, "-"⟩, ⟨.identifier, "abs"⟩, .lparen, ⟨.identifier, "x"⟩, .rparen,
      ⟨.operator, "*"⟩, .lparen, ⟨.number, "1"⟩, ⟨.operator, "+"⟩, ⟨.number, "1"⟩, .rparen] :=
  .binary _ 0 0
    (.binary _ 0 0
      (.binary _ 0 0 (.literal _) (.literal _) (by decide +kernel) (by decide +kernel))
      (.literal _) (by decide +kernel) (by decide +kernel))
    (.binary _ 0 1
      (.call _ _ (.reference _ _ _) (by decide +kernel))
      (.binary _ 0 0 (.literal _) (.literal _) (by decide +kernel) (by decide +kernel))
      (by decide +kernel) (by decide +kernel))
    (by decide +kernel) (by decide +kernel)

theorem evaluate_difference : ∃ ts, Renders Expression.difference ts ∧
    (evaluate Config.standard (.single "x" (-3.0)) ts).toOption = some (some 2.0) := by
  refine ⟨_, renders_difference, ?_⟩
  rw [evaluate_rendering renders_difference]
  decide +kernel

end Formulary
