import Mathlib.Logic.Function.Iterate
import Formulary.Proofs.EvaluationRuns
import Formulary.Proofs.ExpressionValue
/-!
# Calls within calls

The argument of a call ends at the first closing parenthesis, so a call inside it has none of its own.
Evaluation then fails: in a run that comes to its end every call is closed and none stands in the
argument of another. No run evaluates an argument of an argument.
-/

set_option autoImplicit false
namespace Formulary

section
variable {cfg : Config} {env : Environment}

/-- Whether each call among the tokens has a closing parenthesis, with no other call before it. -/
def Unnested (cfg : Config) (env : Environment) (ts : List Token) : Prop :=
  ∀ t behind, t :: behind <:+ ts → t.isCall cfg env = true →
    ∃ arg rest, splitArgument behind = some (arg, rest) ∧ ∀ u ∈ arg, u.isCall cfg env = false

theorem unnested_nil : Unnested cfg env [] := by
  intro t behind hsuffix
  cases List.suffix_nil.1 hsuffix

theorem Unnested.cons {t : Token} {ts : List Token} (h : Unnested cfg env ts)
    (ht : t.isCall cfg env = false) : Unnested cfg env (t :: ts) := by
  intro u behind hsuffix hu
  rcases List.suffix_cons_iff.1 hsuffix with heq | hsuffix
  · cases heq
    rw [ht] at hu
    cases hu
  · exact h u behind hsuffix hu

theorem suffix_append_cases {α : Type} {x : α} {xs ys zs : List α} (h : x :: xs <:+ ys ++ zs) :
    x ∈ ys ∨ x :: xs <:+ zs := by
  induction ys with
  | nil => exact .inr h
  | cons y ys ih =>
    rcases List.suffix_cons_iff.1 h with heq | hsuffix
    · cases heq
      exact .inl List.mem_cons_self
    · exact (ih hsuffix).imp_left (List.mem_cons_of_mem y)

/-- Tokens without a closing parenthesis have no call if they have none within another. -/
theorem Unnested.isCall_eq_false {ts : List Token} (h : Unnested cfg env ts)
    (hopen : ∀ t ∈ ts, t.kind ≠ .rparen) : ∀ t ∈ ts, t.isCall cfg env = false := by
  intro t ht
  refine Bool.eq_false_iff.2 fun hcall => ?_
  obtain ⟨before, behind, rfl⟩ := List.append_of_mem ht
  obtain ⟨arg, rest, hsplit, -⟩ := h t behind (List.suffix_append before _) hcall
  obtain ⟨close, rfl⟩ := append_of_splitArgument hsplit
  exact hopen close (by simp) (kinds_of_splitArgument hsplit).1

theorem Unnested.call {arg rest : List Token} (name text closing : String)
    (harg : Unnested cfg env arg) (hopen : ∀ t ∈ arg, t.kind ≠ .rparen) (hrest : Unnested cfg env rest) :
    Unnested cfg env (⟨.identifier, name⟩ :: ⟨.lparen, text⟩ :: (arg ++ ⟨.rparen, closing⟩ :: rest)) := by
  have hnone := harg.isCall_eq_false hopen
  have hparen : Token.isCall cfg env ⟨.lparen, text⟩ = false := Token.isCall_of_kind (by rintro ⟨⟩)
  have hclosing : Token.isCall cfg env ⟨.rparen, closing⟩ = false := Token.isCall_of_kind (by rintro ⟨⟩)
  have hbehind : Unnested cfg env (arg ++ ⟨.rparen, closing⟩ :: rest) := by
    intro t behind hsuffix hcall
    rcases suffix_append_cases hsuffix with ht | hsuffix
    · rw [hnone t ht] at hcall
      cases hcall
    · exact hrest.cons hclosing t behind hsuffix hcall
  intro t behind hsuffix hcall
  rcases List.suffix_cons_iff.1 hsuffix with heq | hsuffix
  · cases heq
    refine ⟨⟨.lparen, text⟩ :: arg, rest, ?_, List.forall_mem_cons.2 ⟨hparen, hnone⟩⟩
    rw [splitArgument, if_neg (by rintro ⟨⟩), splitArgument_append hopen]
    rfl
  · exact hbehind.cons hparen t behind hsuffix hcall

theorem unnested_of_run {ts : List Token} {s s' : Stacks} (h : run cfg env ts s = .ok s') :
    Unnested cfg env ts := by
  refine run_ok_induction (motive := fun ts _ _ => Unnested cfg env ts) ?nil ?number ?operator
    ?lparen ?rparen ?bound ?skipped ?call h
  case nil => exact fun _ => unnested_nil
  case number =>
    intro text x ts s s' ih
    exact ih.cons (Token.isCall_of_kind (by rintro ⟨⟩))
  case operator =>
    intro symbol ts s next s' _ ih
    exact ih.cons (Token.isCall_of_kind (by rintro ⟨⟩))
  case lparen =>
    intro text ts s s' ih
    exact ih.cons (Token.isCall_of_kind (by rintro ⟨⟩))
  case rparen =>
    intro text ts s next s' _ ih
    exact ih.cons (Token.isCall_of_kind (by rintro ⟨⟩))
  case bound =>
    intro name x y ts s s' hbound ih
    exact ih.cons (Token.isCall_of_bound hbound)
  case skipped =>
    intro name ts s s' _ hno ih
    exact ih.cons (Token.isCall_of_skipped hno)
  case call =>
    intro name f text arg closing rest inside value s next s' _ _ hopen harg _ _ hrest
    exact harg.call name text closing hopen hrest

/-- What stands before the first closing parenthesis belongs to the argument. -/
theorem prefix_of_splitArgument {xs ys arg rest : List Token} (hopen : ∀ t ∈ xs, t.kind ≠ .rparen)
    (h : splitArgument (xs ++ ys) = some (arg, rest)) : xs <+: arg := by
  induction xs generalizing arg with
  | nil => exact List.nil_prefix
  | cons x xs ih =>
    obtain ⟨hx, hxs⟩ := List.forall_mem_cons.1 hopen
    rw [List.cons_append, splitArgument, if_neg hx] at h
    obtain ⟨p, hp, heq⟩ := Option.map_eq_some_iff.1 h
    cases heq
    exact List.cons_prefix_cons.2 ⟨rfl, ih hxs hp⟩

theorem Unnested.not_nested {before between behind : List Token} {t u : Token}
    (h : Unnested cfg env (before ++ t :: (between ++ u :: behind))) (ht : t.isCall cfg env = true)
    (hopen : ∀ v ∈ between, v.kind ≠ .rparen) : u.isCall cfg env = false := by
  obtain ⟨arg, rest, hsplit, hnone⟩ := h t _ (List.suffix_append before _) ht
  by_cases hu : u.kind = .rparen
  · exact Token.isCall_of_kind (by rw [hu]; rintro ⟨⟩)
  · rw [List.append_cons] at hsplit
    have hfirst := prefix_of_splitArgument (List.forall_mem_append.2 ⟨hopen, by simpa using hu⟩) hsplit
    exact hnone u (hfirst.mem (List.mem_append_right between List.mem_cons_self))

/-- The argument that begins with these tokens, and the tokens behind it. -/
def argument? : List Token → Option (List Token × List Token)
  | [] => none
  | t :: ts => if t.kind = .lparen then splitArgument ts else none

theorem argument?_cases {ts arg rest : List Token} (h : argument? ts = some (arg, rest)) :
    ∃ t close, ts = t :: (arg ++ close :: rest) ∧ close.kind = .rparen ∧
      ∀ u ∈ arg, u.kind ≠ .rparen := by
  cases ts with
  | nil => cases h
  | cons t ts =>
    rw [argument?] at h
    split at h
    · obtain ⟨close, rfl⟩ := append_of_splitArgument h
      exact ⟨t, close, rfl, kinds_of_splitArgument h⟩
    · cases h

theorem length_of_argument? {ts arg rest : List Token} (h : argument? ts = some (arg, rest)) :
    arg.length + rest.length + 2 = ts.length := by
  obtain ⟨t, close, rfl, -⟩ := argument?_cases h
  simp only [List.length_cons, List.length_append]
  omega

/-- How deep an evaluation of the tokens goes into arguments of arguments if it gets to their end: it
evaluates the argument of each call on its own and then goes on behind it. -/
def argumentDepth (cfg : Config) (env : Environment) : List Token → Nat
  | [] => 0
  | t :: ts =>
    if t.isCall cfg env then
      match h : argument? ts with
      | none => 0
      | some (arg, rest) =>
        have := length_of_argument? h
        max (argumentDepth cfg env arg + 1) (argumentDepth cfg env rest)
    else argumentDepth cfg env ts
termination_by ts => ts.length
decreasing_by all_goals simp_wf; try omega

theorem argumentDepth_of_open {ts : List Token} (h : ∀ t ∈ ts, t.kind ≠ .rparen) :
    argumentDepth cfg env ts = 0 := by
  fun_induction argumentDepth cfg env ts with
  | case1 => rfl
  | case2 => rfl
  | case3 t ts hcall arg rest hargument =>
    obtain ⟨u, close, rfl, hclose, -⟩ := argument?_cases hargument
    exact absurd hclose (h close (by simp))
  | case4 t ts hcall ih => exact ih (List.forall_mem_cons.1 h).2

theorem argumentDepth_le_one (ts : List Token) : argumentDepth cfg env ts ≤ 1 := by
  fun_induction argumentDepth cfg env ts with
  | case1 => exact Nat.zero_le 1
  | case2 => exact Nat.zero_le 1
  | case3 t ts hcall arg rest hargument _ _ ihrest =>
    obtain ⟨u, close, rfl, -, hopen⟩ := argument?_cases hargument
    rw [argumentDepth_of_open hopen]
    exact Nat.max_le.2 ⟨Nat.le_refl 1, ihrest⟩
  | case4 t ts hcall ih => exact ih

example : argumentDepth Config.standard (.single "x" 0.0)
    (⟨.identifier, "sin"⟩ :: enclosed 1 [⟨.identifier, "x"⟩]) = 1 := by decide +kernel

/-- A run in which `inner` evaluates the arguments of calls. -/
def runBy (cfg : Config) (env : Environment) (inner : List Token → Except Fault (Option Float)) :
    List Token → Stacks → Except Fault Stacks
  | [], s => .ok s
  | t :: ts, s =>
    match t.kind with
    | .number => do
      let x ← t.literal
      runBy cfg env inner ts (s.push x)
    | .operator => do
      let s ← s.operator cfg t
      runBy cfg env inner ts s
    | .lparen => runBy cfg env inner ts (s.pushOperator t)
    | .rparen => do
      let s ← s.close cfg
      runBy cfg env inner ts s
    | .identifier =>
      match env t.text with
      | some bound => do
        let x ← bound.mapError .operand
        runBy cfg env inner ts (s.push x)
      | none =>
        match cfg.functions.get? t.text with
        | none => runBy cfg env inner ts s
        | some f =>
          match ts with
          | ⟨.lparen, _⟩ :: ts =>
            match h : splitArgument ts with
            | none => .error (.formula (.unclosedCall t.text))
            | some (arg, rest) =>
              have := length_of_splitArgument h
              do
                let value ← inner arg
                let s ← s.pushCall f value
                runBy cfg env inner rest s
          | _ => .error (.formula (.argumentNotParenthesized t.text))
termination_by ts => ts.length
decreasing_by all_goals simp_wf; try omega

/-- The value of a list of tokens if `inner` evaluates the arguments of calls. -/
def evaluateBy (cfg : Config) (env : Environment) (inner : List Token → Except Fault (Option Float))
    (ts : List Token) : Except Fault (Option Float) := do
  let s ← runBy cfg env inner ts .empty
  s.result cfg

theorem argumentDepth_cons {t : Token} (h : t.isCall cfg env = false) (ts : List Token) :
    argumentDepth cfg env (t :: ts) = argumentDepth cfg env ts := by
  rw [argumentDepth, if_neg (Bool.eq_false_iff.1 h)]

theorem argumentDepth_call {t : Token} {ts arg rest : List Token} (ht : t.isCall cfg env = true)
    (h : argument? ts = some (arg, rest)) : argumentDepth cfg env (t :: ts) =
      max (argumentDepth cfg env arg + 1) (argumentDepth cfg env rest) := by
  rw [argumentDepth, if_pos ht]
  split
  · rename_i hnone
    rw [h] at hnone
    cases hnone
  · rename_i hsome
    rw [h] at hsome
    cases hsome
    rfl

theorem runBy_operand {name : String} {f : Function} (hf : cfg.functions.get? name = some f)
    (hu : env name = none) (inner : List Token → Except Fault (Option Float)) {arg : List Token}
    (harg : ∀ t ∈ arg, t.kind ≠ .rparen) (text closing : String) (ts : List Token) (s : Stacks) :
    runBy cfg env inner (⟨.identifier, name⟩ :: ⟨.lparen, text⟩ :: (arg ++ ⟨.rparen, closing⟩ :: ts)) s =
      (inner arg >>= s.pushCall f) >>= runBy cfg env inner ts := by
  have hsplit := splitArgument_append harg closing ts
  rw [runBy]
  simp only [hu, hf]
  split
  · rename_i hnone
    rw [hsplit] at hnone
    cases hnone
  · rename_i hsome
    rw [hsplit] at hsome
    cases hsome
    exact (bind_assoc _ _ _).symm

/-- The depth is that of the recursion of `run`: evaluations nested so deep are all that it needs, and what
would evaluate the arguments below them does not matter. -/
theorem runBy_iterate (inner : List Token → Except Fault (Option Float)) (ts : List Token) {d : Nat}
    (hd : argumentDepth cfg env ts ≤ d) (s : Stacks) :
    runBy cfg env ((evaluateBy cfg env)^[d] inner) ts s = run cfg env ts s := by
  induction ts using run_induction cfg env generalizing d s with
  | nil => rw [runBy, run_nil]
  | number text ts ih =>
    rw [argumentDepth_cons (Token.isCall_of_kind (by rintro ⟨⟩))] at hd
    rw [runBy, run_number]
    exact bind_congr fun x => ih hd _
  | operator symbol ts ih =>
    rw [argumentDepth_cons (Token.isCall_of_kind (by rintro ⟨⟩))] at hd
    rw [runBy, run_operator]
    exact bind_congr (ih hd)
  | lparen text ts ih =>
    rw [argumentDepth_cons (Token.isCall_of_kind (by rintro ⟨⟩))] at hd
    rw [runBy, run_lparen]
    exact ih hd _
  | rparen text ts ih =>
    rw [argumentDepth_cons (Token.isCall_of_kind (by rintro ⟨⟩))] at hd
    rw [runBy, run_rparen]
    exact bind_congr (ih hd)
  | bound name x ts hbound ih =>
    rw [argumentDepth_cons (Token.isCall_of_bound hbound)] at hd
    rw [runBy, run_bound hbound]
    simp only [hbound]
    exact bind_congr fun y => ih hd _
  | skipped name ts hunbound hno ih =>
    rw [argumentDepth_cons (Token.isCall_of_skipped hno)] at hd
    rw [runBy, run_skipped hunbound hno]
    simp only [hunbound, hno]
    exact ih hd s
  | unclosed name f text behind hunbound hf hsplit =>
    rw [runBy, run_unclosed hf hunbound hsplit]
    simp only [hunbound, hf]
    split
    · rfl
    · rename_i hsome
      rw [hsplit] at hsome
      cases hsome
  | call name f text arg close rest hunbound hf hsplit iharg ihrest =>
    obtain ⟨hclose, harg⟩ := kinds_of_splitArgument hsplit
    obtain ⟨_, closing⟩ := close
    cases hclose
    have hargument : argument? (⟨.lparen, text⟩ :: (arg ++ ⟨.rparen, closing⟩ :: rest)) = some (arg, rest) := by
      rw [argument?, if_pos rfl, hsplit]
    rw [argumentDepth_call (Token.isCall_of_get? hf hunbound) hargument] at hd
    -- the argument uses up one of the levels, and what stands behind the call has all of them
    obtain ⟨hinside, hbehind⟩ := Nat.max_le.1 hd
    obtain ⟨d, rfl⟩ : ∃ d', d = d' + 1 := ⟨d - 1, by omega⟩
    have hvalue : (evaluateBy cfg env)^[d + 1] inner arg = evaluate cfg env arg := by
      rw [Function.iterate_succ_apply', evaluateBy, evaluate, iharg (Nat.le_of_succ_le_succ hinside)]
    rw [runBy_operand hf hunbound _ harg, run_operand hf hunbound harg, hvalue]
    exact bind_congr (ihrest hbehind)
  | unparenthesized name f ts hunbound hf hopen =>
    rw [runBy, run_unparenthesized hf hunbound hopen]
    simp only [hunbound, hf]

/-- Whatever would evaluate the arguments of arguments, the value is the same. -/
theorem evaluateBy_evaluateBy (inner : List Token → Except Fault (Option Float)) (ts : List Token) :
    evaluateBy cfg env (evaluateBy cfg env inner) ts = evaluate cfg env ts := by
  rw [evaluateBy, evaluate, ← runBy_iterate inner ts (argumentDepth_le_one ts) .empty]
  rfl

/-- A call in front of the closing parenthesis of another call makes the evaluation fail, and no
evaluation goes into an argument of an argument. -/
theorem evaluate_nested_call (ts : List Token) :
    (∀ before t between u behind, ts = before ++ t :: (between ++ u :: behind) →
      t.isCall cfg env = true → u.isCall cfg env = true → (∀ v ∈ between, v.kind ≠ .rparen) →
        ∃ e, evaluate cfg env ts = .error e) ∧
      argumentDepth cfg env ts ≤ 1 := by
  refine ⟨?_, argumentDepth_le_one ts⟩
  rintro before t between u behind rfl ht hu hopen
  cases hvalue : evaluate cfg env (before ++ t :: (between ++ u :: behind)) with
  | error e => exact ⟨e, rfl⟩
  | ok value =>
    obtain ⟨s, hs, -⟩ := ok_of_bind hvalue
    rw [(unnested_of_run hs).not_nested ht hopen] at hu
    cases hu

end

theorem evaluate_nested_call_sin_cos :
    ∃ e, evaluate Config.standard (.single "x" 0.0)
      [⟨.identifier, "sin"⟩, .lparen, ⟨.identifier, "x"⟩, ⟨.operator, "+"⟩, ⟨.identifier, "cos"⟩, .lparen,
        ⟨.identifier, "x"⟩, .rparen, .rparen] = .error e :=
  (evaluate_nested_call _).1 [] _ [.lparen, ⟨.identifier, "x"⟩, ⟨.operator, "+"⟩] _ _ rfl
    (by decide +kernel) (by decide +kernel) (by decide)

end Formulary
