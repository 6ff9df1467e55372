import Formulary.Proofs.EvaluationRuns
import Formulary.Proofs.ExpressionValue
import Formulary.Proofs.Variables
/-!
# Calls as operands

A call whose argument is complete is an operand like any other: a name that is bound to its value may
stand in its place, whatever stands around it. Only the calls in front of it have to be complete too.
-/

set_option autoImplicit false
namespace Formulary

section
variable {cfg : Config} {env : Environment}

/-- Whether every call among the tokens has a closing parenthesis somewhere behind it. -/
def ClosesCalls (cfg : Config) (env : Environment) (ts : List Token) : Prop :=
  ∀ t behind, t :: behind <:+ ts → t.isCall cfg env = true → ∃ u ∈ behind, u.kind = .rparen

theorem closesCalls_nil : ClosesCalls cfg env [] := by
  intro t behind hsuffix
  cases List.suffix_nil.1 hsuffix

theorem closesCalls_cons {t : Token} {ts : List Token} : ClosesCalls cfg env (t :: ts) ↔
    (t.isCall cfg env = true → ∃ u ∈ ts, u.kind = .rparen) ∧ ClosesCalls cfg env ts := by
  constructor
  · intro h
    exact ⟨h t ts (List.suffix_refl _),
      fun u behind hsuffix => h u behind (hsuffix.trans (List.suffix_cons t ts))⟩
  · rintro ⟨hfirst, hrest⟩ u behind hsuffix
    rcases List.suffix_cons_iff.1 hsuffix with heq | hsuffix
    · cases heq
      exact hfirst
    · exact hrest u behind hsuffix

instance decidableClosesCalls : (ts : List Token) → Decidable (ClosesCalls cfg env ts)
  | [] => isTrue closesCalls_nil
  | _ :: ts =>
    have := decidableClosesCalls ts
    decidable_of_iff _ closesCalls_cons.symm

theorem ClosesCalls.evaluate_append {ts : List Token} (h : ClosesCalls cfg env ts)
    (rest : List Token) :
    evaluate cfg env (ts ++ rest) = run cfg env ts .empty >>= conclude cfg env rest := by
  unfold evaluate conclude
  rcases @run_append cfg env ts rest .empty with
    hjoin | ⟨t, behind, hsuffix, hcall, hopen, -⟩
  · rw [hjoin, bind_assoc]
  · obtain ⟨u, hu, hkind⟩ := h t behind hsuffix hcall
    exact absurd hkind (hopen u hu)

end

namespace Environment

/-- Binds one more name to a number. -/
def extend (env : Environment) (name : String) (x : Float) : Environment :=
  fun other => if other = name then some (.ok x) else env other

theorem extend_self (env : Environment) (name : String) (x : Float) :
    env.extend name x name = some (.ok x) := if_pos rfl

theorem extend_of_ne (env : Environment) {name other : String} (h : other ≠ name) (x : Float) :
    env.extend name x other = env other := if_neg h

theorem ofBindings_insert (b : Bindings) (name : String) (x : Float) :
    ofBindings (b.insert name (.float x)) = (ofBindings b).extend name x := by
  funext other
  unfold ofBindings extend
  rw [Table.get?_insert]
  split <;> rfl

end Environment

section
variable {cfg : Config} {env : Environment}

theorem env_eq_extend {ts : List Token} {name : String} (h : ⟨.identifier, name⟩ ∉ ts) (x : Float) :
    ∀ t ∈ ts, t.kind = .identifier → env t.text = env.extend name x t.text := by
  rintro ⟨_, other⟩ ht rfl
  refine (env.extend_of_ne (fun heq => ?_) x).symm
  subst heq
  exact h ht

theorem ClosesCalls.extend {ts : List Token} (h : ClosesCalls cfg env ts) (name : String) (x : Float) :
    ClosesCalls cfg (env.extend name x) ts := by
  intro t behind hsuffix hcall
  obtain ⟨hkind, hunbound, hf⟩ := Token.isCall_iff.1 hcall
  refine h t behind hsuffix (Token.isCall_iff.2 ⟨hkind, ?_, hf⟩)
  unfold Environment.extend at hunbound
  split at hunbound
  · cases hunbound
  · exact hunbound

theorem conclude_congr_extend {ts : List Token} {name : String} (h : ⟨.identifier, name⟩ ∉ ts)
    (x : Float) (s : Stacks) : conclude cfg env ts s = conclude cfg (env.extend name x) ts s := by
  unfold conclude
  rw [run_congr (env_eq_extend h x)]

theorem evaluate_extend {before behind : List Token} {name : String}
    (hbefore : ClosesCalls cfg env before) (hnew : ⟨.identifier, name⟩ ∉ before ++ behind)
    (x : Float) :
    evaluate cfg (env.extend name x) (before ++ ⟨.identifier, name⟩ :: behind) =
      run cfg env before .empty >>= fun s => conclude cfg env behind (s.push x) := by
  rw [List.mem_append, not_or] at hnew
  rw [(hbefore.extend name x).evaluate_append, ← run_congr (env_eq_extend hnew.1 x)]
  refine bind_congr fun s => ?_
  rw [conclude_bound (env.extend_self name x), conclude_congr_extend hnew.2 x]
  rfl

theorem evaluate_operand {before arg behind : List Token} {name : String} {f : Function}
    (hf : cfg.functions.get? name = some f) (hunbound : env name = none)
    (hbefore : ClosesCalls cfg env before) (harg : ∀ t ∈ arg, t.kind ≠ .rparen) :
    evaluate cfg env (before ++ ⟨.identifier, name⟩ :: (enclosed 1 arg ++ behind)) =
      run cfg env before .empty >>= fun s =>
        (evaluate cfg env arg >>= s.pushCall f) >>= conclude cfg env behind := by
  rw [hbefore.evaluate_append]
  refine bind_congr fun s => ?_
  rw [enclosed_succ, enclosed_zero, List.cons_append, List.append_assoc]
  have hrun := run_operand hf hunbound harg "(" ")" behind s
  unfold conclude
  rw [← bind_assoc]
  exact congrArg (· >>= Stacks.result cfg) hrun

/-- A call with a complete argument evaluates as a name that is bound to its value, and as one that is
skipped if the argument has no value, between any tokens. -/
theorem evaluate_call_operand {before arg behind : List Token} {name : String} {f : Function}
    (hf : cfg.functions.get? name = some f) (hunbound : env name = none)
    (hbefore : ClosesCalls cfg env before) (harg : ∀ t ∈ arg, t.kind ≠ .rparen) {other : String}
    (hfunction : cfg.isFunction other = false) (hother : env other = none)
    (hnew : ⟨.identifier, other⟩ ∉ before ++ behind) :
    (∀ x y, evaluate cfg env arg = .ok (some x) → f x = .ok y →
      evaluate cfg env (before ++ ⟨.identifier, name⟩ :: (enclosed 1 arg ++ behind)) =
        evaluate cfg (env.extend other y) (before ++ ⟨.identifier, other⟩ :: behind)) ∧
    (evaluate cfg env arg = .ok none →
      evaluate cfg env (before ++ ⟨.identifier, name⟩ :: (enclosed 1 arg ++ behind)) =
        evaluate cfg env (before ++ ⟨.identifier, other⟩ :: behind)) := by
  refine ⟨fun x y hx hy => ?_, fun hnone => ?_⟩
  · have hpush (s : Stacks) : s.pushCall f (some x) = .ok (s.push y) := congrArg (Except.map s.push) hy
    rw [evaluate_operand hf hunbound hbefore harg, evaluate_extend hbefore hnew, hx]
    exact bind_congr fun s => congrArg (· >>= conclude cfg env behind) (hpush s)
  · rw [evaluate_operand hf hunbound hbefore harg, hbefore.evaluate_append, hnone]
    refine bind_congr fun s => ?_
    exact (conclude_skipped hother (Table.contains_eq_false_iff.1 hfunction) behind s).symm

end

/-- `abs(1)*(`, where nothing closes the last parenthesis. -/
def openProduct : List Token :=
  ⟨.identifier, "abs"⟩ :: (enclosed 1 [⟨.number, "1"⟩] ++ [⟨.operator, "*"⟩, .lparen])

def leftOfZero : Bindings := .ofList [("x", .float (-3.0))]

/-- In `abs(1)*(abs(x)-1` the name `y` may stand for the second call, and in `abs(1)*(abs()-1` too. -/
theorem evaluate_call_operand_abs :
    evaluate Config.standard (.ofBindings leftOfZero)
        (openProduct ++ ⟨.identifier, "abs"⟩ :: (enclosed 1 [⟨.identifier, "x"⟩] ++
          [⟨.operator, "-"⟩, ⟨.number, "1"⟩])) =
      evaluate Config.standard (.ofBindings (leftOfZero.insert "y" (.float 3.0)))
        (openProduct ++ ⟨.identifier, "y"⟩ :: [⟨.operator, "-"⟩, ⟨.number, "1"⟩]) ∧
    evaluate Config.standard (.ofBindings leftOfZero)
        (openProduct ++ ⟨.identifier, "abs"⟩ :: (enclosed 1 [] ++
          [⟨.operator, "-"⟩, ⟨.number, "1"⟩])) =
      evaluate Config.standard (.ofBindings leftOfZero)
        (openProduct ++ ⟨.identifier, "y"⟩ :: [⟨.operator, "-"⟩, ⟨.number, "1"⟩]) := by
  have hsome : (Config.standard.functions.get? "abs").isSome = true := by decide +kernel
  have hbefore : ClosesCalls Config.standard (.ofBindings leftOfZero) openProduct := by decide +kernel
  have hfunction : Config.standard.isFunction "y" = false := by decide +kernel
  have hnew : ⟨.identifier, "y"⟩ ∉ openProduct ++ [⟨.operator, "-"⟩, ⟨.number, "1"⟩] := by
    decide +kernel
  have hargument : evaluate Config.standard (.ofBindings leftOfZero) [⟨.identifier, "x"⟩] =
      .ok (some (-3.0)) := by decide +kernel
  have hvalue : ((Config.standard.functions.get? "abs").get hsome) (-3.0) = .ok 3.0 := by
    decide +kernel +revert
  have hf := (Option.some_get hsome).symm
  rw [Environment.ofBindings_insert]
  exact ⟨(evaluate_call_operand hf rfl hbefore (by decide) hfunction rfl hnew).1 _ _ hargument hvalue,
    (evaluate_call_operand hf rfl hbefore (by decide) hfunction rfl hnew).2 (conclude_nil _)⟩

end Formulary
