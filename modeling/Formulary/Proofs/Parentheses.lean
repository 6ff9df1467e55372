import Mathlib.Data.List.Basic
import Formulary.Proofs.EvaluationRuns
import Formulary.Proofs.ExpressionValue
/-!
# Parentheses without a partner

Opening parentheses in front of all tokens and closing ones behind them change no evaluation. The first
lie at the bottom of the pending operators, where they stop what an empty stack would stop; the second
only apply what the end of the tokens would apply. But a closing one may end the argument of a call that
had no end.
-/

set_option autoImplicit false
namespace Formulary

namespace Stacks
variable {cfg : Config}

theorem applyWhile_opening {bottom : List Token} (h : ∀ t ∈ bottom, t.kind = .lparen)
    (binds : Token → Bool) (values : List Float) :
    applyWhile cfg binds bottom values = .ok ⟨values, bottom⟩ := by
  cases bottom with
  | nil => rfl
  | cons t bottom => rw [applyWhile, if_pos (.inl (h t List.mem_cons_self))]

theorem applyWhile_append {bottom : List Token} (h : ∀ t ∈ bottom, t.kind = .lparen)
    (binds : Token → Bool) (ops : List Token) (values : List Float) :
    applyWhile cfg binds (ops ++ bottom) values =
      (applyWhile cfg binds ops values).map fun s => ⟨s.values, s.operators ++ bottom⟩ := by
  induction ops generalizing values with
  | nil => exact applyWhile_opening h binds values
  | cons op ops ih =>
    rw [List.cons_append, applyWhile, applyWhile]
    split
    · rfl
    · cases apply cfg op values with
      | error e => rfl
      | ok values => exact ih values

theorem applyAll_opening {bottom : List Token} (h : ∀ t ∈ bottom, t.kind = .lparen)
    (values : List Float) : applyAll cfg bottom values = .ok values := by
  induction bottom with
  | nil => rfl
  | cons t bottom ih =>
    rw [applyAll, if_pos (h t List.mem_cons_self)]
    exact ih fun u hu => h u (List.mem_cons_of_mem t hu)

theorem applyAll_append {bottom : List Token} (h : ∀ t ∈ bottom, t.kind = .lparen)
    (ops : List Token) (values : List Float) :
    applyAll cfg (ops ++ bottom) values = applyAll cfg ops values := by
  induction ops generalizing values with
  | nil => exact applyAll_opening h values
  | cons op ops ih =>
    rw [List.cons_append, applyAll, applyAll]
    split
    · exact ih values
    · cases apply cfg op values with
      | error e => rfl
      | ok values => exact ih values

/-- Closing a parenthesis before the end applies nothing that the end does not. -/
theorem close_result (s : Stacks) : s.close cfg >>= result cfg = s.result cfg := by
  obtain ⟨values, ops⟩ := s
  unfold close result
  simp only
  induction ops generalizing values with
  | nil => rfl
  | cons op ops ih =>
    rw [applyWhile, applyAll]
    by_cases hopen : op.kind = .lparen
    · rw [if_pos (.inl hopen), if_pos hopen]
      rfl
    · have hgo : ¬(op.kind = .lparen ∨ true = false) := not_or.2 ⟨hopen, Bool.noConfusion⟩
      rw [if_neg hgo, if_neg hopen]
      cases apply cfg op values with
      | error e => rfl
      | ok values => exact ih values

end Stacks

section
variable {cfg : Config} {env : Environment}

/-- Opening parentheses at the bottom of the pending operators make no difference to a run. -/
theorem conclude_bottom {ts bottom : List Token} (h : ∀ t ∈ bottom, t.kind = .lparen)
    (ops : List Token) (values : List Float) :
    conclude cfg env ts ⟨values, ops ++ bottom⟩ = conclude cfg env ts ⟨values, ops⟩ := by
  induction ts using run_induction cfg env generalizing ops bottom values with
  | nil =>
    rw [conclude_nil, conclude_nil]
    exact congrArg (Except.map List.getLast?) (Stacks.applyAll_append h ops values)
  | number text ts ih =>
    rw [conclude_number, conclude_number]
    exact bind_congr fun x => ih h ops (x :: values)
  | operator symbol ts ih =>
    rw [conclude_operator, conclude_operator, Stacks.operator, Stacks.operator,
      Stacks.applyWhile_append h]
    cases Stacks.applyWhile cfg _ ops values with
    | error e => rfl
    | ok s => exact ih h (⟨.operator, symbol⟩ :: s.operators) s.values
  | lparen text ts ih =>
    rw [conclude_lparen, conclude_lparen]
    exact ih h (⟨.lparen, text⟩ :: ops) values
  | rparen text ts ih =>
    rw [conclude_rparen, conclude_rparen, Stacks.close, Stacks.close, Stacks.applyWhile_append h]
    cases Stacks.applyWhile cfg _ ops values with
    | error e => rfl
    | ok s =>
      obtain ⟨values, ops⟩ := s
      cases ops with
      | nil => exact ih (fun t ht => h t (List.mem_of_mem_drop ht)) [] values
      | cons op ops => exact ih h ops values
  | bound name x ts hbound ih =>
    rw [conclude_bound hbound, conclude_bound hbound]
    exact bind_congr fun y => ih h ops (y :: values)
  | skipped name ts hunbound hno ih =>
    rw [conclude_skipped hunbound hno, conclude_skipped hunbound hno]
    exact ih h ops values
  | unclosed name f text inner hunbound hf hsplit =>
    unfold conclude
    rw [run_unclosed hf hunbound hsplit, run_unclosed hf hunbound hsplit]
  | call name f text arg close rest hunbound hf hsplit _ ih =>
    rw [conclude_call hf hunbound hsplit, conclude_call hf hunbound hsplit]
    refine bind_congr fun value => ?_
    cases value with
    | none => exact ih h ops values
    | some x => exact bind_congr fun y => ih h ops (y :: values)
  | unparenthesized name f ts hunbound hf hopen =>
    unfold conclude
    rw [run_unparenthesized hf hunbound hopen, run_unparenthesized hf hunbound hopen]

theorem conclude_opening {opening : List Token} (h : ∀ t ∈ opening, t.kind = .lparen)
    (ts : List Token) {bottom : List Token} (hbottom : ∀ t ∈ bottom, t.kind = .lparen)
    (values : List Float) :
    conclude cfg env (opening ++ ts) ⟨values, bottom⟩ = conclude cfg env ts ⟨values, []⟩ := by
  induction opening generalizing bottom with
  | nil => exact conclude_bottom hbottom [] values
  | cons t opening ih =>
    obtain ⟨hfirst, hrest⟩ := List.forall_mem_cons.1 h
    obtain ⟨_, text⟩ := t
    cases hfirst
    rw [List.cons_append, conclude_lparen]
    exact ih hrest (List.forall_mem_cons.2 ⟨rfl, hbottom⟩)

theorem conclude_closing {closing : List Token} (h : ∀ t ∈ closing, t.kind = .rparen) (s : Stacks) :
    conclude cfg env closing s = s.result cfg := by
  induction closing generalizing s with
  | nil => exact conclude_nil s
  | cons t closing ih =>
    obtain ⟨hfirst, hrest⟩ := List.forall_mem_cons.1 h
    obtain ⟨_, text⟩ := t
    cases hfirst
    rw [conclude_rparen, funext (ih hrest)]
    exact Stacks.close_result s

theorem evaluate_append_closing {ts closing : List Token} (h : ∀ t ∈ closing, t.kind = .rparen)
    (hclosed : ∀ name, evaluate cfg env ts ≠ .error (.formula (.unclosedCall name))) :
    evaluate cfg env (ts ++ closing) = evaluate cfg env ts := by
  rcases @run_append cfg env ts closing .empty with
    hjoin | ⟨t, behind, -, -, -, hrun | ⟨-, u, hu, hopen⟩⟩
  · rw [evaluate_eq_conclude, conclude, hjoin, bind_assoc]
    exact bind_congr (conclude_closing h)
  · refine absurd ?_ (hclosed t.text)
    unfold evaluate
    rw [hrun]
    rfl
  · have hclose := h u (List.mem_of_mem_head? hu)
    rw [hopen] at hclose
    cases hclose

/-- Opening parentheses in front change nothing, and neither do closing ones behind, unless a call has
no end. -/
theorem evaluate_parentheses (ts : List Token) :
    (∀ opening : List Token, (∀ t ∈ opening, t.kind = .lparen) →
      evaluate cfg env (opening ++ ts) = evaluate cfg env ts) ∧
    ((∀ name, evaluate cfg env ts ≠ .error (.formula (.unclosedCall name))) →
      ∀ closing : List Token, (∀ t ∈ closing, t.kind = .rparen) →
        evaluate cfg env (ts ++ closing) = evaluate cfg env ts) :=
  ⟨fun _ hopening => conclude_opening hopening ts (List.forall_mem_nil _) [],
    fun hclosed _ hclosing => evaluate_append_closing hclosing hclosed⟩

end

/-- `2*(abs(x)+1))-(x`, where two parentheses have no partner. -/
def unbalanced : List Token :=
  [⟨.number, "2"⟩, ⟨.operator, "*"⟩, .lparen, ⟨.identifier, "abs"⟩] ++ enclosed 1 [⟨.identifier, "x"⟩] ++
    [⟨.operator, "+"⟩, ⟨.number, "1"⟩, .rparen, .rparen, ⟨.operator, "-"⟩, .lparen, ⟨.identifier, "x"⟩]

theorem evaluate_parentheses_unbalanced :
    evaluate Config.standard (.single "x" (-3.0)) unbalanced = .ok (some 11.0) ∧
      evaluate Config.standard (.single "x" (-3.0)) ([.lparen, .lparen] ++ unbalanced) =
        .ok (some 11.0) ∧
      evaluate Config.standard (.single "x" (-3.0)) (unbalanced ++ [.rparen, .rparen, .rparen]) =
        .ok (some 11.0) := by
  have hvalue : evaluate Config.standard (.single "x" (-3.0)) unbalanced = .ok (some 11.0) := by
    decide +kernel
  obtain ⟨hopening, hclosing⟩ :=
    @evaluate_parentheses Config.standard (.single "x" (-3.0)) unbalanced
  refine ⟨hvalue, (hopening _ (by decide)).trans hvalue, (hclosing ?_ _ (by decide)).trans hvalue⟩
  intro name hname
  rw [hvalue] at hname
  cases hname

end Formulary
