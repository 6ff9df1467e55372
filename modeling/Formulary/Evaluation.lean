import Formulary.Config
import Formulary.Token
/-!
# Evaluation

Tokens are evaluated with two stacks, one of values and one of pending operators. Operators of equal
precedence are applied from left to right. The argument of a function reaches from the parenthesis
behind its name to the first closing parenthesis after that, and is evaluated on stacks of its own.
Parentheses without a partner are tolerated elsewhere, and a missing operand is not-a-number.
-/

set_option autoImplicit false
namespace Formulary

/-- What a name is bound to: nothing, a number, or a value that is no number. -/
abbrev Environment := String → Option (Except OperandError Float)

/-- The values and the pending operators of an evaluation, each with the last one first. -/
structure Stacks where
  values : List Float
  operators : List Token

namespace Stacks

def empty : Stacks := ⟨[], []⟩

def push (s : Stacks) (x : Float) : Stacks := { s with values := x :: s.values }

def pushOperator (s : Stacks) (t : Token) : Stacks := { s with operators := t :: s.operators }

/-- The two operands on top of the values, the left one first, and the values below them. -/
def operands : List Float → Float × Float × List Float
  | [] => (Binary64.nan, Binary64.nan, [])
  | [b] => (Binary64.nan, b, [])
  | b :: a :: rest => (a, b, rest)

/-- Applies an operator to the values on top. -/
def apply (cfg : Config) (op : Token) (values : List Float) : Except Fault (List Float) :=
  let (a, b, rest) := operands values
  match cfg.operators.get? op.text with
  | none => .error (.formula (.unknownOperator op.text))
  | some f => (f.apply a b).map (· :: rest)

/-- Applies the pending operators down to the first opening parenthesis or the first one that
`binds` does not hold of. -/
def applyWhile (cfg : Config) (binds : Token → Bool) :
    List Token → List Float → Except Fault Stacks
  | [], values => .ok ⟨values, []⟩
  | op :: ops, values =>
    if op.kind = .lparen ∨ binds op = false then .ok ⟨values, op :: ops⟩
    else
      match apply cfg op values with
      | .ok values => applyWhile cfg binds ops values
      | .error e => .error e

/-- Applies all pending operators and drops the opening parentheses among them. -/
def applyAll (cfg : Config) : List Token → List Float → Except Fault (List Float)
  | [], values => .ok values
  | op :: ops, values =>
    if op.kind = .lparen then applyAll cfg ops values
    else
      match apply cfg op values with
      | .ok values => applyAll cfg ops values
      | .error e => .error e

/-- An operator of the text: those that bind at least as tight are applied before it waits. -/
def operator (cfg : Config) (t : Token) (s : Stacks) : Except Fault Stacks :=
  (applyWhile cfg (fun op => cfg.precedence t.text ≤ cfg.precedence op.text)
    s.operators s.values).map (·.pushOperator t)

/-- A closing parenthesis: the operators up to its partner are applied, and the partner goes. -/
def close (cfg : Config) (s : Stacks) : Except Fault Stacks :=
  (applyWhile cfg (fun _ => true) s.operators s.values).map fun s =>
    { s with operators := s.operators.drop 1 }

/-- What remains at the end: the value pushed first, if there is any. -/
def result (cfg : Config) (s : Stacks) : Except Fault (Option Float) :=
  (applyAll cfg s.operators s.values).map List.getLast?

end Stacks

/-- The value of a numeral. -/
def Token.literal (t : Token) : Except Fault Float :=
  (Numeral.float t.text).mapError fun e => .operand (.number e)

/-- Cuts the tokens behind the opening parenthesis of an argument at the first closing one. -/
def splitArgument : List Token → Option (List Token × List Token)
  | [] => none
  | t :: ts =>
    if t.kind = .rparen then some ([], ts)
    else (splitArgument ts).map fun (arg, rest) => (t :: arg, rest)

theorem length_of_splitArgument {ts arg rest : List Token} (h : splitArgument ts = some (arg, rest)) :
    arg.length + rest.length + 1 = ts.length := by
  induction ts generalizing arg with
  | nil => simp [splitArgument] at h
  | cons t ts ih =>
    rw [splitArgument] at h
    split at h
    · simp only [Option.some.injEq, Prod.mk.injEq] at h
      obtain ⟨rfl, rfl⟩ := h
      simp
    · obtain ⟨⟨a, r⟩, ha, hp⟩ := Option.map_eq_some_iff.1 h
      simp only [Prod.mk.injEq] at hp
      obtain ⟨rfl, rfl⟩ := hp
      have := ih ha
      simp only [List.length_cons]
      omega

/-- Runs tokens on stacks. A bound name hides the function of the same name, and a name that is
neither bound nor a function is skipped. -/
def run (cfg : Config) (env : Environment) : List Token → Stacks → Except Fault Stacks
  | [], s => .ok s
  | t :: ts, s =>
    match t.kind with
    | .number => do
      let x ← t.literal
      run cfg env ts (s.push x)
    | .operator => do
      let s ← s.operator cfg t
      run cfg env ts s
    | .lparen => run cfg env ts (s.pushOperator t)
    | .rparen => do
      let s ← s.close cfg
      run cfg env ts s
    | .identifier =>
      match env t.text with
      | some bound => do
        let x ← bound.mapError .operand
        run cfg env ts (s.push x)
      | none =>
        match cfg.functions.get? t.text with
        | none => run cfg env ts s
        | some f =>
          match ts with
          | ⟨.lparen, _⟩ :: inner =>
            match h : splitArgument inner with
            | none => .error (.formula (.unclosedCall t.text))
            | some (arg, rest) =>
              have := length_of_splitArgument h
              do
                let inside ← run cfg env arg .empty
                match ← inside.result cfg with
                | none => run cfg env rest s
                | some x => do
                  let y ← f x
                  run cfg env rest (s.push y)
          | _ => .error (.formula (.argumentNotParenthesized t.text))
termination_by ts => ts.length
decreasing_by all_goals simp_wf; try omega

/-- The value of a list of tokens; there is none if nothing in it has a value. -/
def evaluate (cfg : Config) (env : Environment) (tokens : List Token) :
    Except Fault (Option Float) := do
  let s ← run cfg env tokens .empty
  s.result cfg

end Formulary
