import Formulary.Proofs.CatalogConfigs
import Formulary.Proofs.EvaluationSteps
/-!
# Runs of tokens

What a call with its argument does as one step, an induction along the runs that come to their end, and
when a list of tokens runs behind another as it runs alone: always, unless a call in the first list has
no closing parenthesis there and takes one from the second.
-/

set_option autoImplicit false
namespace Formulary

/-- Whether running a token calls a function: it is the name of one, and no binding hides it. -/
def Token.isCall (cfg : Config) (env : Environment) (t : Token) : Bool :=
  t.kind == .identifier && (env t.text).isNone && cfg.isFunction t.text

section
variable {cfg : Config} {env : Environment}

namespace Token

theorem isCall_iff {t : Token} : t.isCall cfg env = true ↔
    t.kind = .identifier ∧ env t.text = none ∧ cfg.isFunction t.text = true := by
  unfold isCall
  rw [Bool.and_eq_true, Bool.and_eq_true, beq_iff_eq, Option.isNone_iff_eq_none, and_assoc]

theorem isCall_of_kind {t : Token} (h : t.kind ≠ .identifier) : t.isCall cfg env = false :=
  Bool.eq_false_iff.2 fun hc => h (isCall_iff.1 hc).1

theorem isCall_of_bound {t : Token} {x : Except OperandError Float} (h : env t.text = some x) :
    t.isCall cfg env = false := by
  refine Bool.eq_false_iff.2 fun hc => ?_
  rw [(isCall_iff.1 hc).2.1] at h
  cases h

theorem isCall_of_skipped {t : Token} (h : cfg.functions.get? t.text = none) :
    t.isCall cfg env = false := by
  refine Bool.eq_false_iff.2 fun hc => ?_
  have hf : cfg.isFunction t.text = false := Table.contains_eq_false_iff.2 h
  rw [(isCall_iff.1 hc).2.2] at hf
  cases hf

theorem isCall_of_get? {name : String} {f : Function} (hf : cfg.functions.get? name = some f)
    (hu : env name = none) : isCall cfg env ⟨.identifier, name⟩ = true :=
  isCall_iff.2 ⟨rfl, hu, Table.contains_of_get? hf⟩

end Token

theorem kinds_of_splitArgument {arg rest : List Token} {close : Token}
    (h : splitArgument (arg ++ close :: rest) = some (arg, rest)) :
    close.kind = .rparen ∧ ∀ t ∈ arg, t.kind ≠ .rparen := by
  induction arg with
  | nil =>
    rw [List.nil_append, splitArgument] at h
    split at h
    · rename_i hclose
      exact ⟨hclose, List.forall_mem_nil _⟩
    · obtain ⟨p, -, hp⟩ := Option.map_eq_some_iff.1 h
      cases hp
  | cons t ts ih =>
    rw [List.cons_append, splitArgument] at h
    split at h
    · cases h
    · rename_i ht
      obtain ⟨p, hp, heq⟩ := Option.map_eq_some_iff.1 h
      cases heq
      obtain ⟨hclose, hts⟩ := ih hp
      exact ⟨hclose, List.forall_mem_cons.2 ⟨ht, hts⟩⟩

theorem kinds_of_splitArgument_none {ts : List Token} (h : splitArgument ts = none) :
    ∀ t ∈ ts, t.kind ≠ .rparen := by
  induction ts with
  | nil => exact List.forall_mem_nil _
  | cons t ts ih =>
    rw [splitArgument] at h
    split at h
    · cases h
    · rename_i ht
      exact List.forall_mem_cons.2 ⟨ht, ih (Option.map_eq_none_iff.1 h)⟩

/-- The value of a function is pushed, and nothing is if the argument has no value. -/
def Stacks.pushCall (s : Stacks) (f : Function) : Option Float → Except Fault Stacks
  | none => .ok s
  | some x => (f x).map s.push

theorem Stacks.operators_of_pushCall {s s' : Stacks} {f : Function} {value : Option Float}
    (h : s.pushCall f value = .ok s') : s'.operators = s.operators := by
  cases value with
  | none =>
    cases h
    rfl
  | some x =>
    obtain ⟨y, -, rfl⟩ := ok_of_map h
    rfl

theorem run_operand {name : String} {f : Function} (hf : cfg.functions.get? name = some f)
    (hu : env name = none) {arg : List Token} (harg : ∀ t ∈ arg, t.kind ≠ .rparen)
    (text closing : String) (ts : List Token) (s : Stacks) :
    run cfg env (⟨.identifier, name⟩ :: ⟨.lparen, text⟩ :: (arg ++ ⟨.rparen, closing⟩ :: ts)) s =
      (evaluate cfg env arg >>= s.pushCall f) >>= run cfg env ts := by
  rw [run_call hf hu (splitArgument_append harg closing ts), bind_assoc]
  refine bind_congr fun value => ?_
  cases value with
  | none => rfl
  | some x =>
    change (f x >>= fun y => run cfg env ts (s.push y)) = (f x).map s.push >>= run cfg env ts
    cases f x <;> rfl

/-- Induction along a run that comes to its end, one case for each kind of step. -/
theorem run_ok_induction {motive : List Token → Stacks → Stacks → Prop}
    (nil : ∀ s, motive [] s s)
    (number : ∀ text x ts s s', motive ts (s.push x) s' → motive (⟨.number, text⟩ :: ts) s s')
    (operator : ∀ symbol ts s next s', s.operator cfg ⟨.operator, symbol⟩ = .ok next →
      motive ts next s' → motive (⟨.operator, symbol⟩ :: ts) s s')
    (lparen : ∀ text ts s s', motive ts (s.pushOperator ⟨.lparen, text⟩) s' →
      motive (⟨.lparen, text⟩ :: ts) s s')
    (rparen : ∀ text ts s next s', s.close cfg = .ok next → motive ts next s' →
      motive (⟨.rparen, text⟩ :: ts) s s')
    (bound : ∀ name x y ts s s', env name = some x → motive ts (s.push y) s' →
      motive (⟨.identifier, name⟩ :: ts) s s')
    (skipped : ∀ name ts s s', env name = none → cfg.functions.get? name = none → motive ts s s' →
      motive (⟨.identifier, name⟩ :: ts) s s')
    (call : ∀ name f text arg closing rest inside value s next s', env name = none →
      cfg.functions.get? name = some f → (∀ t ∈ arg, t.kind ≠ .rparen) → motive arg .empty inside →
      inside.result cfg = .ok value → s.pushCall f value = .ok next → motive rest next s' →
      motive (⟨.identifier, name⟩ :: ⟨.lparen, text⟩ :: (arg ++ ⟨.rparen, closing⟩ :: rest)) s s')
    {ts : List Token} {s s' : Stacks} (h : run cfg env ts s = .ok s') : motive ts s s' := by
  induction ts using run_induction cfg env generalizing s s' with
  | nil =>
    rw [run_nil] at h
    cases h
    exact nil s
  | number text ts ih =>
    rw [run_number] at h
    obtain ⟨x, -, hrest⟩ := ok_of_bind h
    exact number text x ts s s' (ih hrest)
  | operator symbol ts ih =>
    rw [run_operator] at h
    obtain ⟨next, hnext, hrest⟩ := ok_of_bind h
    exact operator symbol ts s next s' hnext (ih hrest)
  | lparen text ts ih =>
    rw [run_lparen] at h
    exact lparen text ts s s' (ih h)
  | rparen text ts ih =>
    rw [run_rparen] at h
    obtain ⟨next, hnext, hrest⟩ := ok_of_bind h
    exact rparen text ts s next s' hnext (ih hrest)
  | bound name x ts hbound ih =>
    rw [run_bound hbound] at h
    obtain ⟨y, -, hrest⟩ := ok_of_bind h
    exact bound name x y ts s s' hbound (ih hrest)
  | skipped name ts hunbound hno ih =>
    rw [run_skipped hunbound hno] at h
    exact skipped name ts s s' hunbound hno (ih h)
  | unclosed name f text inner hunbound hf hsplit =>
    rw [run_unclosed hf hunbound hsplit] at h
    cases h
  | call name f text arg close rest hunbound hf hsplit iharg ihrest =>
    obtain ⟨hclose, harg⟩ := kinds_of_splitArgument hsplit
    obtain ⟨_, closing⟩ := close
    cases hclose
    rw [run_operand hf hunbound harg] at h
    obtain ⟨next, hoperand, hrest⟩ := ok_of_bind h
    obtain ⟨value, hvalue, hnext⟩ := ok_of_bind hoperand
    obtain ⟨inside, hinside, hresult⟩ := ok_of_bind hvalue
    exact call name f text arg closing rest inside value s next s' hunbound hf harg (iharg hinside)
      hresult hnext (ihrest hrest)
  | unparenthesized name f ts hunbound hf hopen =>
    rw [run_unparenthesized hf hunbound hopen] at h
    cases h

/-- Whether `rest` runs behind `ts` as it runs alone. If not, a call in `ts` has no closing parenthesis
there: either it is what the run of `ts` fails of, or it is the last token and its argument begins
with `rest`. -/
def Joins (cfg : Config) (env : Environment) (ts rest : List Token) (s : Stacks) : Prop :=
  run cfg env (ts ++ rest) s = run cfg env ts s >>= run cfg env rest ∨
    ∃ t behind, t :: behind <:+ ts ∧ t.isCall cfg env = true ∧ (∀ u ∈ behind, u.kind ≠ .rparen) ∧
      (run cfg env ts s = .error (.formula (.unclosedCall t.text)) ∨
        behind = [] ∧ ∃ u ∈ rest.head?, u.kind = .lparen)

theorem Joins.step {α : Type} (head : List Token) {ts rest : List Token} {s : Stacks}
    {v : Except Fault α} (next : α → Stacks)
    (hstep : ∀ us, run cfg env (head ++ us) s = v >>= fun a => run cfg env us (next a))
    (ih : ∀ s, Joins cfg env ts rest s) : Joins cfg env (head ++ ts) rest s := by
  unfold Joins
  rw [List.append_assoc, hstep, hstep]
  cases v with
  | error e => exact .inl rfl
  | ok a =>
    rcases ih (next a) with hjoin | ⟨t, behind, hsuffix, hcall, hopen, hreach⟩
    · exact .inl hjoin
    · exact .inr ⟨t, behind, hsuffix.trans (List.suffix_append head ts), hcall, hopen, hreach⟩

theorem run_append (ts rest : List Token) (s : Stacks) : Joins cfg env ts rest s := by
  induction ts using run_induction cfg env generalizing s with
  | nil =>
    refine .inl ?_
    rw [run_nil]
    rfl
  | number text ts ih => exact Joins.step [⟨.number, text⟩] s.push (fun us => run_number text us s) ih
  | operator symbol ts ih =>
    exact Joins.step [⟨.operator, symbol⟩] id (fun us => run_operator symbol us s) ih
  | lparen text ts ih =>
    exact Joins.step [⟨.lparen, text⟩] (v := .ok ()) (fun _ => s.pushOperator ⟨.lparen, text⟩)
      (fun us => run_lparen text us s) ih
  | rparen text ts ih => exact Joins.step [⟨.rparen, text⟩] id (fun us => run_rparen text us s) ih
  | bound name x ts hbound ih =>
    exact Joins.step [⟨.identifier, name⟩] s.push (fun us => run_bound hbound us s) ih
  | skipped name ts hunbound hno ih =>
    exact Joins.step [⟨.identifier, name⟩] (v := .ok ()) (fun _ => s)
      (fun us => run_skipped hunbound hno us s) ih
  | unclosed name f text inner hunbound hf hsplit =>
    refine .inr ⟨⟨.identifier, name⟩, ⟨.lparen, text⟩ :: inner, List.suffix_refl _,
      Token.isCall_of_get? hf hunbound, ?_, .inl (run_unclosed hf hunbound hsplit text s)⟩
    exact List.forall_mem_cons.2 ⟨nofun, kinds_of_splitArgument_none hsplit⟩
  | call name f text arg close ts hunbound hf hsplit _ ih =>
    obtain ⟨hclose, harg⟩ := kinds_of_splitArgument hsplit
    obtain ⟨_, closing⟩ := close
    cases hclose
    have hassoc (us : List Token) :
        arg ++ ⟨.rparen, closing⟩ :: us = (arg ++ [⟨.rparen, closing⟩]) ++ us := by
      rw [List.append_assoc]
      rfl
    rw [hassoc]
    refine Joins.step (v := evaluate cfg env arg >>= s.pushCall f)
      (⟨.identifier, name⟩ :: ⟨.lparen, text⟩ :: (arg ++ [⟨.rparen, closing⟩])) id (fun us => ?_) ih
    have hoperand := run_operand hf hunbound harg text closing us s
    rwa [hassoc] at hoperand
  | unparenthesized name f ts hunbound hf hopen =>
    -- the parenthesis that is missing may be the first token of `rest` if the name is the last of all
    by_cases hreach : ts = [] ∧ ∃ u ∈ rest.head?, u.kind = .lparen
    · obtain ⟨rfl, hu⟩ := hreach
      exact .inr ⟨_, [], List.suffix_refl _, Token.isCall_of_get? hf hunbound,
        List.forall_mem_nil _, .inr ⟨rfl, hu⟩⟩
    · refine .inl ?_
      have hmissing : ∀ text inner, ts ++ rest ≠ ⟨.lparen, text⟩ :: inner := by
        intro text inner heq
        cases ts with
        | nil =>
          rw [List.nil_append] at heq
          exact hreach ⟨rfl, _, by rw [heq]; rfl, rfl⟩
        | cons u us =>
          cases heq
          exact hopen text us rfl
      rw [List.cons_append, run_unparenthesized hf hunbound hmissing,
        run_unparenthesized hf hunbound hopen]
      rfl

end
end Formulary
