import Formulary.Evaluation
/-!
# Steps of an evaluation

What running the tokens does at each kind of token, and what becomes of an operator that waits on
top of the stack: the end of the tokens, a closing parenthesis and an operator that binds no tighter
all apply it before anything else.
-/

set_option autoImplicit false
namespace Formulary

section
variable {cfg : Config} {env : Environment}

theorem run_nil (s : Stacks) : run cfg env [] s = .ok s := by rw [run]

theorem run_number (text : String) (ts : List Token) (s : Stacks) :
    run cfg env (⟨.number, text⟩ :: ts) s =
      Token.literal ⟨.number, text⟩ >>= fun x => run cfg env ts (s.push x) := by rw [run]

theorem run_operator (symbol : String) (ts : List Token) (s : Stacks) :
    run cfg env (⟨.operator, symbol⟩ :: ts) s =
      s.operator cfg ⟨.operator, symbol⟩ >>= run cfg env ts := by rw [run]

theorem run_lparen (text : String) (ts : List Token) (s : Stacks) :
    run cfg env (⟨.lparen, text⟩ :: ts) s = run cfg env ts (s.pushOperator ⟨.lparen, text⟩) := by
  rw [run]

theorem run_rparen (text : String) (ts : List Token) (s : Stacks) :
    run cfg env (⟨.rparen, text⟩ :: ts) s = s.close cfg >>= run cfg env ts := by rw [run]

theorem run_bound {name : String} {x : Except OperandError Float} (h : env name = some x)
    (ts : List Token) (s : Stacks) :
    run cfg env (⟨.identifier, name⟩ :: ts) s =
      x.mapError .operand >>= fun y => run cfg env ts (s.push y) := by
  rw [run]
  simp only [h]

theorem run_skipped {name : String} (hu : env name = none) (hf : cfg.functions.get? name = none)
    (ts : List Token) (s : Stacks) :
    run cfg env (⟨.identifier, name⟩ :: ts) s = run cfg env ts s := by
  rw [run]
  simp only [hu, hf]

theorem run_call {name : String} {f : Function} (hf : cfg.functions.get? name = some f)
    (hu : env name = none) {inner arg rest : List Token}
    (h : splitArgument inner = some (arg, rest)) (text : String) (s : Stacks) :
    run cfg env (⟨.identifier, name⟩ :: ⟨.lparen, text⟩ :: inner) s =
      evaluate cfg env arg >>= fun value =>
        match value with
        | none => run cfg env rest s
        | some x => f x >>= fun y => run cfg env rest (s.push y) := by
  unfold evaluate
  rw [run]
  simp only [hu, hf]
  split
  · rename_i hn
    rw [h] at hn
    cases hn
  · rename_i arg' rest' hs
    rw [h] at hs
    cases hs
    exact (bind_assoc _ _ _).symm

theorem run_unclosed {name : String} {f : Function} (hf : cfg.functions.get? name = some f)
    (hu : env name = none) {inner : List Token} (h : splitArgument inner = none) (text : String)
    (s : Stacks) : run cfg env (⟨.identifier, name⟩ :: ⟨.lparen, text⟩ :: inner) s =
      .error (.formula (.unclosedCall name)) := by
  rw [run]
  simp only [hu, hf]
  split
  · rfl
  · rename_i hs
    rw [h] at hs
    cases hs

theorem run_unparenthesized {name : String} {f : Function} (hf : cfg.functions.get? name = some f)
    (hu : env name = none) {ts : List Token}
    (h : ∀ text inner, ts ≠ ⟨.lparen, text⟩ :: inner) (s : Stacks) :
    run cfg env (⟨.identifier, name⟩ :: ts) s =
      .error (.formula (.argumentNotParenthesized name)) := by
  rw [run]
  simp only [hu, hf]

theorem append_of_splitArgument {ts arg rest : List Token} (h : splitArgument ts = some (arg, rest)) :
    ∃ t, ts = arg ++ t :: rest := by
  induction ts generalizing arg with
  | nil => cases h
  | cons t ts ih =>
    rw [splitArgument] at h
    split at h
    · cases h
      exact ⟨t, rfl⟩
    · obtain ⟨⟨inner, behind⟩, hinner, heq⟩ := Option.map_eq_some_iff.1 h
      cases heq
      obtain ⟨u, rfl⟩ := ih hinner
      exact ⟨u, rfl⟩

/-- Induction along the steps of a run, whatever the stacks are. -/
theorem run_induction (cfg : Config) (env : Environment) {motive : List Token → Prop}
    (nil : motive [])
    (number : ∀ text ts, motive ts → motive (⟨.number, text⟩ :: ts))
    (operator : ∀ symbol ts, motive ts → motive (⟨.operator, symbol⟩ :: ts))
    (lparen : ∀ text ts, motive ts → motive (⟨.lparen, text⟩ :: ts))
    (rparen : ∀ text ts, motive ts → motive (⟨.rparen, text⟩ :: ts))
    (bound : ∀ name x ts, env name = some x → motive ts → motive (⟨.identifier, name⟩ :: ts))
    (skipped : ∀ name ts, env name = none → cfg.functions.get? name = none → motive ts →
      motive (⟨.identifier, name⟩ :: ts))
    (unclosed : ∀ name f text inner, env name = none → cfg.functions.get? name = some f →
      splitArgument inner = none → motive (⟨.identifier, name⟩ :: ⟨.lparen, text⟩ :: inner))
    (call : ∀ name f text arg close rest, env name = none → cfg.functions.get? name = some f →
      splitArgument (arg ++ close :: rest) = some (arg, rest) → motive arg → motive rest →
      motive (⟨.identifier, name⟩ :: ⟨.lparen, text⟩ :: (arg ++ close :: rest)))
    (unparenthesized : ∀ name f ts, env name = none → cfg.functions.get? name = some f →
      (∀ text inner, ts ≠ ⟨.lparen, text⟩ :: inner) → motive (⟨.identifier, name⟩ :: ts))
    (ts : List Token) : motive ts := by
  have hall (s : Stacks) : motive ts := by
    induction ts, s using run.induct cfg env with
    | case1 => exact nil
    | case2 t ts s hkind ih =>
      obtain ⟨_, text⟩ := t
      cases hkind
      exact number text ts (ih 0)
    | case3 t ts s hkind ih =>
      obtain ⟨_, symbol⟩ := t
      cases hkind
      exact operator symbol ts (ih s)
    | case4 t ts s hkind ih =>
      obtain ⟨_, text⟩ := t
      cases hkind
      exact lparen text ts ih
    | case5 t ts s hkind ih =>
      obtain ⟨_, text⟩ := t
      cases hkind
      exact rparen text ts (ih s)
    | case6 t ts s hkind x hbound ih =>
      obtain ⟨_, name⟩ := t
      cases hkind
      exact bound name x ts hbound (ih 0)
    | case7 t ts s hkind hunbound hno ih =>
      obtain ⟨_, name⟩ := t
      cases hkind
      exact skipped name ts hunbound hno ih
    | case8 t s hkind hunbound f hf text inner hsplit =>
      obtain ⟨_, name⟩ := t
      cases hkind
      exact unclosed name f text inner hunbound hf hsplit
    | case9 t s hkind hunbound f hf text inner arg rest hsplit _ iharg ihrest _ =>
      obtain ⟨close, rfl⟩ := append_of_splitArgument hsplit
      obtain ⟨_, name⟩ := t
      cases hkind
      exact call name f text arg close rest hunbound hf hsplit iharg ihrest
    | case10 t ts s hkind hunbound f hf hopen =>
      obtain ⟨_, name⟩ := t
      cases hkind
      exact unparenthesized name f ts hunbound hf fun text inner heq => hopen text inner heq
  exact hall .empty

end

/-- Runs tokens to the end on stacks that earlier tokens left. -/
def conclude (cfg : Config) (env : Environment) (ts : List Token) (s : Stacks) :
    Except Fault (Option Float) := run cfg env ts s >>= Stacks.result cfg

section
variable {cfg : Config} {env : Environment}

theorem evaluate_eq_conclude (ts : List Token) :
    evaluate cfg env ts = conclude cfg env ts .empty := rfl

theorem conclude_nil (s : Stacks) : conclude cfg env [] s = s.result cfg := by
  unfold conclude
  rw [run_nil]
  rfl

theorem conclude_number (text : String) (ts : List Token) (s : Stacks) :
    conclude cfg env (⟨.number, text⟩ :: ts) s =
      Token.literal ⟨.number, text⟩ >>= fun x => conclude cfg env ts (s.push x) := by
  unfold conclude
  rw [run_number]
  exact bind_assoc _ _ _

theorem conclude_operator (symbol : String) (ts : List Token) (s : Stacks) :
    conclude cfg env (⟨.operator, symbol⟩ :: ts) s =
      s.operator cfg ⟨.operator, symbol⟩ >>= conclude cfg env ts := by
  unfold conclude
  rw [run_operator]
  exact bind_assoc _ _ _

theorem conclude_lparen (text : String) (ts : List Token) (s : Stacks) :
    conclude cfg env (⟨.lparen, text⟩ :: ts) s =
      conclude cfg env ts (s.pushOperator ⟨.lparen, text⟩) := by
  unfold conclude
  rw [run_lparen]

theorem conclude_rparen (text : String) (ts : List Token) (s : Stacks) :
    conclude cfg env (⟨.rparen, text⟩ :: ts) s = s.close cfg >>= conclude cfg env ts := by
  unfold conclude
  rw [run_rparen]
  exact bind_assoc _ _ _

theorem conclude_bound {name : String} {x : Except OperandError Float} (h : env name = some x)
    (ts : List Token) (s : Stacks) :
    conclude cfg env (⟨.identifier, name⟩ :: ts) s =
      x.mapError .operand >>= fun y => conclude cfg env ts (s.push y) := by
  unfold conclude
  rw [run_bound h]
  exact bind_assoc _ _ _

theorem conclude_skipped {name : String} (hu : env name = none)
    (hf : cfg.functions.get? name = none) (ts : List Token) (s : Stacks) :
    conclude cfg env (⟨.identifier, name⟩ :: ts) s = conclude cfg env ts s := by
  unfold conclude
  rw [run_skipped hu hf]

theorem conclude_call {name : String} {f : Function} (hf : cfg.functions.get? name = some f)
    (hu : env name = none) {inner arg rest : List Token}
    (h : splitArgument inner = some (arg, rest)) (text : String) (s : Stacks) :
    conclude cfg env (⟨.identifier, name⟩ :: ⟨.lparen, text⟩ :: inner) s =
      evaluate cfg env arg >>= fun value =>
        match value with
        | none => conclude cfg env rest s
        | some x => f x >>= fun y => conclude cfg env rest (s.push y) := by
  unfold conclude
  rw [run_call hf hu h, bind_assoc]
  congr 1
  funext value
  cases value with
  | none => rfl
  | some x => exact bind_assoc _ _ _

end

theorem splitArgument_append {arg : List Token} (h : ∀ t ∈ arg, t.kind ≠ .rparen) (text : String)
    (rest : List Token) : splitArgument (arg ++ ⟨.rparen, text⟩ :: rest) = some (arg, rest) := by
  induction arg with
  | nil => rfl
  | cons t ts ih =>
    have ht := h t (List.mem_cons_self)
    rw [List.cons_append, splitArgument, if_neg ht, ih fun u hu => h u (List.mem_cons_of_mem t hu)]
    rfl

namespace Stacks
variable {cfg : Config}

/-- Whether an operator of precedence `p` can wait on top of these without any of them applied. -/
def Yields (cfg : Config) (p : Int) : List Token → Prop
  | [] => True
  | op :: _ => op.kind = .lparen ∨ cfg.precedence op.text < p

theorem Yields.mono {p q : Int} (hpq : p ≤ q) {ops : List Token} (h : Yields cfg p ops) :
    Yields cfg q ops := by
  cases ops with
  | nil => trivial
  | cons op ops => exact h.imp_right fun hp => by omega

theorem operator_of_yields {t : Token} {s : Stacks}
    (h : Yields cfg (cfg.precedence t.text) s.operators) :
    s.operator cfg t = .ok (s.pushOperator t) := by
  obtain ⟨values, operators⟩ := s
  unfold operator
  cases operators with
  | nil => rfl
  | cons op ops =>
    have hstop : op.kind = .lparen ∨ decide (cfg.precedence t.text ≤ cfg.precedence op.text) = false := by
      rcases h with h | h
      · exact .inl h
      · exact .inr (decide_eq_false (by omega))
    rw [applyWhile, if_pos hstop]
    rfl

theorem apply_configured {op : Operator} {symbol : String}
    (h : cfg.operators.get? symbol = some op) (kind : TokenKind) (a b : Float)
    (values : List Float) :
    apply cfg ⟨kind, symbol⟩ (b :: a :: values) = (op.apply a b).map (· :: values) := by
  unfold apply
  simp only [operands, h]

end Stacks

section
variable {cfg : Config} {env : Environment}

/-- Whether these tokens apply a waiting operator of precedence `p` before anything else. -/
def Closes (cfg : Config) (p : Int) : List Token → Prop
  | [] => True
  | t :: _ => t.kind = .rparen ∨ t.kind = .operator ∧ cfg.precedence t.text ≤ p

theorem Closes.mono {p q : Int} (hpq : p ≤ q) {rest : List Token} (h : Closes cfg p rest) :
    Closes cfg q rest := by
  cases rest with
  | nil => trivial
  | cons t ts => exact h.imp_right fun ⟨hk, hp⟩ => ⟨hk, by omega⟩

theorem applyWhile_waiting {op : Operator} {symbol : String}
    (h : cfg.operators.get? symbol = some op) (binds : Token → Bool)
    (hb : binds ⟨.operator, symbol⟩ = true) (a b : Float) (values : List Float)
    (ops : List Token) :
    Stacks.applyWhile cfg binds (⟨.operator, symbol⟩ :: ops) (b :: a :: values) =
      op.apply a b >>= fun x => Stacks.applyWhile cfg binds ops (x :: values) := by
  have hgo : ¬((⟨.operator, symbol⟩ : Token).kind = .lparen ∨ binds ⟨.operator, symbol⟩ = false) := by
    rw [hb]
    rintro (h | h) <;> cases h
  rw [Stacks.applyWhile, if_neg hgo, Stacks.apply_configured h]
  cases op.apply a b <;> rfl

theorem applyAll_waiting {op : Operator} {symbol : String}
    (h : cfg.operators.get? symbol = some op) (a b : Float) (values : List Float)
    (ops : List Token) :
    Stacks.applyAll cfg (⟨.operator, symbol⟩ :: ops) (b :: a :: values) =
      op.apply a b >>= fun x => Stacks.applyAll cfg ops (x :: values) := by
  have hgo : ¬(⟨.operator, symbol⟩ : Token).kind = .lparen := by rintro ⟨⟩
  rw [Stacks.applyAll, if_neg hgo, Stacks.apply_configured h]
  cases op.apply a b <;> rfl

/-- Tokens that close the waiting operator run as if its value had stood there from the start. -/
theorem conclude_waiting {op : Operator} {symbol : String}
    (h : cfg.operators.get? symbol = some op) {rest : List Token}
    (hc : Closes cfg (cfg.precedence symbol) rest) (a b : Float) (values : List Float)
    (ops : List Token) :
    conclude cfg env rest ⟨b :: a :: values, ⟨.operator, symbol⟩ :: ops⟩ =
      op.apply a b >>= fun x => conclude cfg env rest ⟨x :: values, ops⟩ := by
  cases rest with
  | nil =>
    simp only [conclude_nil, Stacks.result]
    rw [applyAll_waiting h]
    cases op.apply a b <;> rfl
  | cons t ts =>
    obtain ⟨kind, text⟩ := t
    rcases hc with rfl | ⟨rfl, hp⟩
    · simp only [conclude_rparen, Stacks.close]
      rw [applyWhile_waiting h _ rfl]
      cases op.apply a b <;> rfl
    · simp only [conclude_operator, Stacks.operator]
      rw [applyWhile_waiting h _ (decide_eq_true hp)]
      cases op.apply a b <;> rfl

end
end Formulary
