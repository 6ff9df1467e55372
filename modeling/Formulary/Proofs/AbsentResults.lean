import Mathlib.Data.List.Basic
import Formulary.Proofs.AppliedOperators
/-!
# Evaluations without a result

An evaluation that succeeds has no result only if nothing in its tokens could have given one. Numbers and
bound names push a value, and an operator pushes one when it is applied, even if its operands are missing;
a value that is on the stack may be combined with others, but the stack never becomes empty again.
-/

set_option autoImplicit false
namespace Formulary

/-- Whether a token brings a value into an evaluation. -/
def Token.Contributes (env : Environment) (t : Token) : Prop :=
  t.kind = .number ∨ t.kind = .operator ∨ t.kind = .identifier ∧ (env t.text).isSome = true

instance (env : Environment) (t : Token) : Decidable (t.Contributes env) :=
  inferInstanceAs (Decidable (t.kind = .number ∨ t.kind = .operator ∨
    t.kind = .identifier ∧ (env t.text).isSome = true))

namespace Stacks
variable {cfg : Config}

/-- No value is on the stacks, and no operator that would push one. -/
def Idle (s : Stacks) : Prop := s.values = [] ∧ ∀ op ∈ s.operators, op.kind = .lparen

theorem idle_empty : Idle empty := ⟨rfl, List.forall_mem_nil _⟩

theorem not_idle_push (s : Stacks) (x : Float) : ¬(s.push x).Idle :=
  fun h => List.cons_ne_nil x s.values h.1

theorem idle_pushOperator {s : Stacks} {t : Token} :
    (s.pushOperator t).Idle ↔ t.kind = .lparen ∧ s.Idle := by
  unfold Idle pushOperator
  rw [List.forall_mem_cons, and_left_comm]

theorem apply_ne_nil {op : Token} {values values' : List Float}
    (h : apply cfg op values = .ok values') : values' ≠ [] := by
  unfold apply at h
  simp only at h
  split at h
  · cases h
  · obtain ⟨x, -, rfl⟩ := ok_of_map h
    exact List.cons_ne_nil _ _

theorem idle_applyWhile {binds : Token → Bool} {ops : List Token} {values : List Float} {s : Stacks}
    (h : applyWhile cfg binds ops values = .ok s) : s.Idle ↔ Idle ⟨values, ops⟩ := by
  induction ops generalizing values with
  | nil =>
    cases h
    exact Iff.rfl
  | cons op ops ih =>
    rw [applyWhile] at h
    split at h
    · cases h
      exact Iff.rfl
    · rename_i hgo
      split at h
      · rename_i values' happly
        -- the operator is applied, so its value is there afterwards and was to come before
        refine iff_of_false (fun hs => apply_ne_nil happly ((ih h).1 hs).1) fun hs => ?_
        exact hgo (.inl (hs.2 op List.mem_cons_self))
      · cases h

theorem applyAll_eq_nil_iff {ops : List Token} {values values' : List Float}
    (h : applyAll cfg ops values = .ok values') : values' = [] ↔ Idle ⟨values, ops⟩ := by
  induction ops generalizing values with
  | nil =>
    cases h
    exact (and_iff_left (List.forall_mem_nil _)).symm
  | cons op ops ih =>
    rw [applyAll] at h
    split at h
    · rename_i hopen
      rw [ih h]
      exact (idle_pushOperator.trans (and_iff_right hopen)).symm
    · rename_i hclosed
      split at h
      · rename_i values' happly
        refine iff_of_false (fun hs => apply_ne_nil happly ((ih h).1 hs).1) fun hs => ?_
        exact hclosed (hs.2 op List.mem_cons_self)
      · cases h

theorem not_idle_operator {t : Token} {s s' : Stacks} (h : s.operator cfg t = .ok s')
    (ht : t.kind = .operator) : ¬s'.Idle := by
  obtain ⟨next, -, rfl⟩ := ok_of_map h
  intro hidle
  rw [idle_pushOperator, ht] at hidle
  cases hidle.1

theorem idle_close {s s' : Stacks} (h : s.close cfg = .ok s') : s'.Idle ↔ s.Idle := by
  obtain ⟨⟨values, ops⟩, hnext, rfl⟩ := ok_of_map h
  rw [← idle_applyWhile hnext]
  cases ops with
  | nil => exact Iff.rfl
  | cons op ops =>
    obtain ⟨applied, -, -, hhead⟩ := applyWhile_ok hnext
    have hopen : op.kind = .lparen := (hhead op rfl).resolve_right nofun
    exact (idle_pushOperator.trans (and_iff_right hopen)).symm

theorem idle_pushCall {s s' : Stacks} {f : Function} {value : Option Float}
    (h : s.pushCall f value = .ok s') : s'.Idle ↔ s.Idle ∧ value = none := by
  cases value with
  | none =>
    cases h
    exact (and_iff_left rfl).symm
  | some x =>
    obtain ⟨y, -, rfl⟩ := ok_of_map h
    exact iff_of_false (not_idle_push s y) fun hs => nomatch hs.2

theorem result_eq_none_iff {s : Stacks} {value : Option Float} (h : s.result cfg = .ok value) :
    value = none ↔ s.Idle := by
  obtain ⟨values, hvalues, rfl⟩ := ok_of_map h
  rw [List.getLast?_eq_none_iff, applyAll_eq_nil_iff hvalues]

end Stacks

section
variable {cfg : Config} {env : Environment}

/-- Whether no token brings a value. -/
def Silent (env : Environment) (ts : List Token) : Prop := ∀ t ∈ ts, ¬t.Contributes env

theorem silent_cons_of_not {t : Token} (h : ¬t.Contributes env) (ts : List Token) :
    Silent env (t :: ts) ↔ Silent env ts := by
  unfold Silent
  rw [List.forall_mem_cons]
  exact and_iff_right h

theorem not_silent_cons {t : Token} (h : t.Contributes env) (ts : List Token) : ¬Silent env (t :: ts) :=
  fun hs => hs t List.mem_cons_self h

theorem silent_append {ts us : List Token} :
    Silent env (ts ++ us) ↔ Silent env ts ∧ Silent env us := List.forall_mem_append

theorem silent_unbound {name : String} (h : env name = none) (ts : List Token) :
    Silent env (⟨.identifier, name⟩ :: ts) ↔ Silent env ts := by
  refine silent_cons_of_not ?_ ts
  rintro (hkind | hkind | ⟨-, hbound⟩)
  · cases hkind
  · cases hkind
  · rw [h] at hbound
    cases hbound

theorem silent_parenthesis {kind : TokenKind} (h : kind = .lparen ∨ kind = .rparen) (text : String)
    (ts : List Token) : Silent env (⟨kind, text⟩ :: ts) ↔ Silent env ts := by
  refine silent_cons_of_not ?_ ts
  rcases h with rfl | rfl <;> rintro (hkind | hkind | ⟨hkind, -⟩) <;> cases hkind

/-- A run leaves the stacks idle exactly if they were and its tokens are silent. -/
theorem idle_run {ts : List Token} {s s' : Stacks} (h : run cfg env ts s = .ok s') :
    s'.Idle ↔ s.Idle ∧ Silent env ts := by
  refine run_ok_induction (motive := fun ts s s' => s'.Idle ↔ s.Idle ∧ Silent env ts)
    ?nil ?number ?operator ?lparen ?rparen ?bound ?skipped ?call h
  case nil => exact fun s => (and_iff_left (List.forall_mem_nil _)).symm
  case number =>
    intro text x ts s s' ih
    exact iff_of_false (fun hs => s.not_idle_push x (ih.1 hs).1)
      fun hs => not_silent_cons (.inl rfl) ts hs.2
  case operator =>
    intro symbol ts s next s' hnext ih
    exact iff_of_false (fun hs => Stacks.not_idle_operator hnext rfl (ih.1 hs).1)
      fun hs => not_silent_cons (.inr (.inl rfl)) ts hs.2
  case lparen =>
    intro text ts s s' ih
    rw [ih, Stacks.idle_pushOperator, and_iff_right rfl, silent_parenthesis (.inl rfl)]
  case rparen =>
    intro text ts s next s' hnext ih
    rw [ih, Stacks.idle_close hnext, silent_parenthesis (.inr rfl)]
  case bound =>
    intro name x y ts s s' hbound ih
    refine iff_of_false (fun hs => s.not_idle_push y (ih.1 hs).1) fun hs => ?_
    exact not_silent_cons (.inr (.inr ⟨rfl, by rw [hbound]; rfl⟩)) ts hs.2
  case skipped =>
    intro name ts s s' hunbound _ ih
    rw [ih, silent_unbound hunbound]
  case call =>
    intro name f text arg closing rest inside value s next s' hunbound _ _ harg hresult hnext ih
    have hargument : value = none ↔ Silent env arg := by
      rw [Stacks.result_eq_none_iff hresult, harg, and_iff_right Stacks.idle_empty]
    rw [ih, Stacks.idle_pushCall hnext, hargument, silent_unbound hunbound, silent_parenthesis (.inl rfl),
      silent_append, silent_parenthesis (.inr rfl), and_assoc]

/-- An evaluation that succeeds has no result exactly if its tokens hold no number, no operator and no
name that is bound, in the arguments of calls as elsewhere. -/
theorem evaluate_eq_none_iff {ts : List Token} {value : Option Float}
    (h : evaluate cfg env ts = .ok value) : value = none ↔ ∀ t ∈ ts, ¬t.Contributes env := by
  obtain ⟨s, hrun, hresult⟩ := ok_of_bind h
  rw [Stacks.result_eq_none_iff hresult, idle_run hrun, and_iff_right Stacks.idle_empty]
  exact Iff.rfl

end

/-- `((abs(y)z)`. -/
def skippedNames : List Token :=
  [.lparen, .lparen, ⟨.identifier, "abs"⟩, .lparen, ⟨.identifier, "y"⟩, .rparen, ⟨.identifier, "z"⟩,
    .rparen]

/-- `(abs(-)`. -/
def missingOperands : List Token :=
  [.lparen, ⟨.identifier, "abs"⟩, .lparen, ⟨.operator, "-"⟩, .rparen]

theorem evaluate_eq_none_iff_abs :
    evaluate Config.standard (.single "x" 1.0) skippedNames = .ok none ∧
      (∀ t ∈ skippedNames, ¬t.Contributes (.single "x" 1.0)) ∧
      evaluate Config.standard (.single "x" 1.0) missingOperands = .ok (some Binary64.nan) ∧
      ¬∀ t ∈ missingOperands, ¬t.Contributes (.single "x" 1.0) := by
  have hnone : evaluate Config.standard (.single "x" 1.0) skippedNames = .ok none := by decide +kernel
  have hsome : evaluate Config.standard (.single "x" 1.0) missingOperands = .ok (some Binary64.nan) := by
    decide +kernel
  exact ⟨hnone, (evaluate_eq_none_iff hnone).1 rfl, hsome,
    fun h => nomatch (evaluate_eq_none_iff hsome).2 h⟩

end Formulary
