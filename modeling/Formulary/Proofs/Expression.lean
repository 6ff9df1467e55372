import Formulary.Evaluation
/-!
# Expressions

Trees of literals, bound names, operators, parentheses and calls, their values, and the ways to write
them as tokens. Operators of equal precedence group to the left, so a right operand of the same
precedence needs parentheses and a left one does not.
-/

set_option autoImplicit false
namespace Formulary

/-- An expression over the names that a configuration and an environment know. Each name carries what
it stands for. -/
inductive Expression (cfg : Config) (env : Environment) where
  | literal (text : String)
  | reference (name : String) (x : Except OperandError Float) (bound : env name = some x)
  | binary (symbol : String) (op : Operator) (configured : cfg.operators.get? symbol = some op)
      (left right : Expression cfg env)
  | group (inner : Expression cfg env)
  | call (name : String) (f : Function) (configured : cfg.functions.get? name = some f)
      (unbound : env name = none) (argument : Expression cfg env)

namespace Expression
variable {cfg : Config} {env : Environment}

/-- The value of an expression, or the first error on the way from left to right. -/
def value : Expression cfg env → Except Fault Float
  | literal text => Token.literal ⟨.number, text⟩
  | reference _ x _ => x.mapError .operand
  | binary _ op _ left right => do
    let a ← left.value
    let b ← right.value
    op.apply a b
  | group inner => inner.value
  | call _ f _ _ argument => do
    let x ← argument.value
    f x

/-- Precedence of the operator outside all parentheses and calls, if there is one. -/
def precedence? : Expression cfg env → Option Int
  | binary _ op _ _ _ => some op.precedence
  | _ => none

/-- An application of a configured operator, known by its symbol. -/
def ofSymbol (symbol : String) (h : (cfg.operators.get? symbol).isSome = true)
    (left right : Expression cfg env) : Expression cfg env :=
  binary symbol _ (Option.some_get h).symm left right

/-- A call of a configured function, known by its name. -/
def ofName (name : String) (h : (cfg.functions.get? name).isSome = true) (unbound : env name = none)
    (argument : Expression cfg env) : Expression cfg env :=
  call name _ (Option.some_get h).symm unbound argument

end Expression

/-- Tokens between `n` pairs of parentheses. -/
def enclosed (n : Nat) (ts : List Token) : List Token :=
  List.replicate n Token.lparen ++ ts ++ List.replicate n Token.rparen

/-- Whether tokens write an expression. An operand may stand in any number of parentheses, but an
operator that binds less tight than the one it belongs to needs them, and so does an equally tight
one on the right. An argument has no parentheses within. -/
inductive Renders {cfg : Config} {env : Environment} : Expression cfg env → List Token → Prop
  | literal (text : String) : Renders (.literal text) [⟨.number, text⟩]
  | reference (name : String) (x : Except OperandError Float) (bound : env name = some x) :
      Renders (.reference name x bound) [⟨.identifier, name⟩]
  | binary {symbol : String} {op : Operator} (configured : cfg.operators.get? symbol = some op)
      {left right : Expression cfg env} {ls rs : List Token} (m n : Nat)
      (hl : Renders left ls) (hr : Renders right rs)
      (hm : ∀ p ∈ left.precedence?, p < op.precedence → 0 < m)
      (hn : ∀ p ∈ right.precedence?, p ≤ op.precedence → 0 < n) :
      Renders (.binary symbol op configured left right)
        (enclosed m ls ++ ⟨.operator, symbol⟩ :: enclosed n rs)
  | group {inner : Expression cfg env} {ts : List Token} (h : Renders inner ts) :
      Renders (.group inner) (enclosed 1 ts)
  | call {name : String} {f : Function} (configured : cfg.functions.get? name = some f)
      (unbound : env name = none) {argument : Expression cfg env} {ts : List Token}
      (h : Renders argument ts) (plain : ∀ t ∈ ts, t.kind ≠ .lparen ∧ t.kind ≠ .rparen) :
      Renders (.call name f configured unbound argument) (⟨.identifier, name⟩ :: enclosed 1 ts)

theorem enclosed_succ (n : Nat) (ts : List Token) :
    enclosed (n + 1) ts = Token.lparen :: (enclosed n ts ++ [Token.rparen]) := by
  unfold enclosed
  rw [List.replicate_succ, List.replicate_succ' ]
  simp only [List.cons_append, List.append_assoc]

theorem enclosed_zero (ts : List Token) : enclosed 0 ts = ts := by
  unfold enclosed
  simp only [List.replicate_zero, List.nil_append, List.append_nil]

end Formulary
