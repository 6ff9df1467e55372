import Formulary.Event
import Formulary.Proofs.ExpressionCalculation
import Formulary.Proofs.ScanTokens
/-!
# What a calculation comes to

With elementary functions and operators, and numbers for all bound names, a formula always has an
outcome: a value or none, or one of the errors of formulas. Which one it is depends first on whether all
variables are bound and then on what the evaluation of the tokens gives.
-/

set_option autoImplicit false
namespace Formulary

/-- Whether nothing that was needed failed to be a number. -/
def Numeric {α : Type} (v : Except Fault α) : Prop := ∀ e, v ≠ .error (.operand e)

namespace Numeric
variable {α β : Type}

theorem ok (a : α) : Numeric (Except.ok a) := fun _ h => by cases h

theorem formula (e : EvalError) : Numeric (Except.error (.formula e) : Except Fault α) :=
  fun _ h => by cases h

theorem error {v : Except Fault α} (hv : Numeric v) {e : Fault} (he : v = .error e) :
    Numeric (.error e : Except Fault β) := by
  cases e with
  | formula e => exact formula e
  | operand e => exact absurd he (hv e)

theorem bind {v : Except Fault α} {f : α → Except Fault β} (hv : Numeric v)
    (hf : ∀ a, v = .ok a → Numeric (f a)) : Numeric (v >>= f) := by
  cases v with
  | ok a => exact hf a rfl
  | error e => exact hv.error rfl

theorem map {v : Except Fault α} (hv : Numeric v) (f : α → β) : Numeric (v.map f) := by
  cases v with
  | ok a => exact ok (f a)
  | error e => exact hv.error rfl

theorem of_settles {zero : Bool} {v : Except Fault Float} (h : Settles zero v) : Numeric v := by
  unfold Settles at h
  split at h
  · obtain ⟨symbol, rfl⟩ := h
    exact formula _
  · obtain ⟨x, rfl⟩ := h
    exact ok x

theorem cases {v : Except Fault α} (h : Numeric v) :
    (∃ a, v = .ok a) ∨ ∃ e, v = .error (.formula e) := by
  cases v with
  | ok a => exact .inl ⟨a, rfl⟩
  | error e =>
    cases e with
    | formula e => exact .inr ⟨e, rfl⟩
    | operand e => exact absurd rfl (h e)

end Numeric

/-- Whether every configured function and operator gives a number or an error of the formula. -/
structure Config.Calculates (cfg : Config) : Prop where
  function : ∀ name f, cfg.functions.get? name = some f → ∀ x, Numeric (f x)
  operator : ∀ symbol op, cfg.operators.get? symbol = some op → ∀ a b, Numeric (op.apply a b)

theorem Config.Elementary.calculates {cfg : Config} (h : cfg.Elementary) : cfg.Calculates where
  function _ _ hf x := Numeric.of_settles (h.settles_function hf x)
  operator _ _ hop a b := Numeric.of_settles (h.settles_apply hop a b)

namespace Stacks
variable {cfg : Config}

theorem numeric_apply (hcfg : cfg.Calculates) (op : Token) (values : List Float) :
    Numeric (apply cfg op values) := by
  unfold apply
  simp only
  split
  · exact .formula _
  · rename_i f hf
    exact (hcfg.operator _ f hf _ _).map _

theorem numeric_applyWhile (hcfg : cfg.Calculates) (binds : Token → Bool) (ops : List Token)
    (values : List Float) : Numeric (applyWhile cfg binds ops values) := by
  induction ops generalizing values with
  | nil => exact .ok _
  | cons op ops ih =>
    rw [applyWhile]
    split
    · exact .ok _
    · have happly := numeric_apply hcfg op values
      split
      · exact ih _
      · rename_i e he
        exact happly.error he

theorem numeric_applyAll (hcfg : cfg.Calculates) (ops : List Token) (values : List Float) :
    Numeric (applyAll cfg ops values) := by
  induction ops generalizing values with
  | nil => exact .ok _
  | cons op ops ih =>
    rw [applyAll]
    split
    · exact ih _
    · have happly := numeric_apply hcfg op values
      split
      · exact ih _
      · rename_i e he
        exact happly.error he

theorem numeric_operator (hcfg : cfg.Calculates) (t : Token) (s : Stacks) :
    Numeric (s.operator cfg t) := (numeric_applyWhile hcfg _ _ _).map _

theorem numeric_close (hcfg : cfg.Calculates) (s : Stacks) : Numeric (s.close cfg) :=
  (numeric_applyWhile hcfg _ _ _).map _

theorem numeric_result (hcfg : cfg.Calculates) (s : Stacks) : Numeric (s.result cfg) :=
  (numeric_applyAll hcfg _ _).map _

end Stacks

/-- Whether every numeral among the tokens has a value. -/
def Literate (ts : List Token) : Prop := ∀ t ∈ ts, t.kind = .number → ∃ x, t.literal = .ok x

theorem Literate.tail {t : Token} {ts : List Token} (h : Literate (t :: ts)) : Literate ts :=
  fun u hu => h u (List.mem_cons_of_mem t hu)

section
variable {cfg : Config} {env : Environment}

/-- A run that reads only numbers ends with stacks or with an error of the formula. -/
theorem numeric_run (hcfg : cfg.Calculates)
    (henv : ∀ name bound, env name = some bound → ∃ x, bound = .ok x) {ts : List Token}
    (hts : Literate ts) (s : Stacks) : Numeric (run cfg env ts s) := by
  induction ts using run_induction cfg env generalizing s with
  | nil =>
    rw [run_nil]
    exact .ok s
  | number text ts ih =>
    obtain ⟨x, hx⟩ := hts ⟨.number, text⟩ List.mem_cons_self rfl
    rw [run_number, hx]
    exact ih hts.tail (s.push x)
  | operator symbol ts ih =>
    rw [run_operator]
    exact (Stacks.numeric_operator hcfg _ s).bind fun s' _ => ih hts.tail s'
  | lparen text ts ih =>
    rw [run_lparen]
    exact ih hts.tail _
  | rparen text ts ih =>
    rw [run_rparen]
    exact (Stacks.numeric_close hcfg s).bind fun s' _ => ih hts.tail s'
  | bound name value ts hbound ih =>
    obtain ⟨x, rfl⟩ := henv _ _ hbound
    rw [run_bound hbound]
    exact ih hts.tail (s.push x)
  | skipped name ts hunbound hno ih =>
    rw [run_skipped hunbound hno]
    exact ih hts.tail s
  | unclosed name f text inner hunbound hf hsplit =>
    rw [run_unclosed hf hunbound hsplit]
    exact .formula _
  | call name f text arg close rest hunbound hf hsplit iharg ihrest =>
    have harg : Literate arg := fun u hu => hts u (by simp [hu])
    have hrest : Literate rest := fun u hu => hts u (by simp [hu])
    have hvalue : Numeric (evaluate cfg env arg) :=
      (iharg harg .empty).bind fun inside _ => Stacks.numeric_result hcfg inside
    rw [run_call hf hunbound hsplit]
    refine hvalue.bind fun value _ => ?_
    cases value with
    | none => exact ihrest hrest s
    | some x => exact (hcfg.function _ f hf x).bind fun y _ => ihrest hrest (s.push y)
  | unparenthesized name f ts hunbound hf hopen =>
    rw [run_unparenthesized hf hunbound hopen]
    exact .formula _

theorem numeric_evaluate (hcfg : cfg.Calculates)
    (henv : ∀ name bound, env name = some bound → ∃ x, bound = .ok x) {ts : List Token}
    (hts : Literate ts) : Numeric (evaluate cfg env ts) :=
  (numeric_run hcfg henv hts .empty).bind fun s _ => Stacks.numeric_result hcfg s

end

namespace Token

theorem literate_scan (cfg : Config) (formula : String) : Literate (scan cfg formula) := by
  intro t ht hkind
  cases scanned_of_mem_scan ht with
  | @pending p =>
    cases hp : isNumeral p with
    | true =>
      rw [pendingToken_of_isNumeral hp]
      exact literal_of_isNumeral (by rwa [String.toList_ofList])
    | false =>
      rw [pendingToken_of_not_isNumeral hp] at hkind
      cases hkind
  | function => cases hkind
  | symbol => exact absurd hkind (kind_ofSymbol _).2
  | implicit => cases hkind

end Token

/-- Whether all names are bound to numbers of 64 bits. -/
def Bindings.Floating (b : Bindings) : Prop := ∀ d ∈ b.values, ∃ x, d = .float x

theorem Bindings.floating_empty : Bindings.Floating .empty := fun _ hd => absurd hd List.not_mem_nil

theorem Bindings.Floating.insert {b : Bindings} (h : b.Floating) (name : String) (x : Float) :
    Bindings.Floating (Table.insert b name (.float x)) := by
  intro d hd
  obtain ⟨k, hk⟩ := Table.get?_of_mem_values hd
  rw [Table.get?_insert] at hk
  split at hk
  · exact ⟨x, (Option.some.inj hk).symm⟩
  · exact h d (Table.mem_values_of_get? hk)

theorem Bindings.Floating.environment {b : Bindings} (h : b.Floating) (name : String)
    (bound : Except OperandError Float) (hbound : Environment.ofBindings b name = some bound) :
    ∃ x, bound = .ok x := by
  obtain ⟨d, hd, rfl⟩ := Option.map_eq_some_iff.1 hbound
  obtain ⟨x, rfl⟩ := h d (Table.mem_values_of_get? hd)
  exact ⟨x, rfl⟩

namespace Config
variable {cfg : Config} {formula : String} {b : Bindings}

/-- The variables of a formula that are not bound, in the order of their first appearance. -/
def unbound (cfg : Config) (formula : String) (b : Bindings) : List String :=
  (cfg.variableNames formula).filter fun name => !b.contains name

theorem outcome_of_unbound (h : cfg.unbound formula b ≠ []) :
    cfg.outcome formula b = .ok (.error (.unbound (cfg.unbound formula b))) := by
  have hcheck : cfg.checkBindings b.contains formula = .error (cfg.unbound formula b) := by
    have hne : (cfg.unbound formula b).isEmpty = false := List.isEmpty_eq_false_iff.2 h
    unfold unbound at hne ⊢
    unfold checkBindings
    simp only [hne]
    rfl
  unfold outcome
  rw [hcheck]

theorem outcome_of_bound (hcfg : cfg.Calculates) (hb : b.Floating)
    (h : cfg.unbound formula b = []) :
    (∃ value, evaluate cfg (.ofBindings b) (Token.scan cfg formula) = .ok value ∧
      cfg.outcome formula b = .ok (.ok value)) ∨
    ∃ e, evaluate cfg (.ofBindings b) (Token.scan cfg formula) = .error (.formula e) ∧
      cfg.outcome formula b = .ok (.error (.evaluation e)) := by
  have hbound : ∀ name ∈ cfg.variableNames formula, b.contains name = true := by
    intro name hname
    have hnot := List.filter_eq_nil_iff.1 h name hname
    simpa using hnot
  unfold outcome
  rw [checkBindings_ok rfl hbound]
  have hnumeric := numeric_evaluate hcfg hb.environment (Token.literate_scan cfg formula)
  rcases hnumeric.cases with ⟨value, hvalue⟩ | ⟨e, he⟩
  · exact .inl ⟨value, hvalue, by rw [hvalue]⟩
  · exact .inr ⟨e, he, by rw [he]⟩

end Config

namespace EvalError

/-- The codes of the errors that an evaluation can end with. -/
def codes : List String :=
  ["division_by_zero", "function_argument_not_parenthesized", "mismatched_parentheses",
    "unknown_operator"]

theorem code_mem_codes (e : EvalError) : e.code ∈ codes := by cases e <;> simp [code, codes]

end EvalError

/-- What an event says of a calculation. -/
structure Report where
  kind : EventKind
  level : Level
  errorCode : Option String
  deriving DecidableEq, Repr

/-- The shapes of a calculation, and what the event about each of them says. -/
inductive Config.Reports (cfg : Config) (formula : String) (b : Bindings) (c : Calculation) :
    Report → Prop
  | unbound (unbound : cfg.unbound formula b ≠ []) (value : c.value? = none)
    (failure : c.failure? = some (.unbound (cfg.unbound formula b)))
    (code : c.failure?.map Failure.code = some "unbound_variables")
    (message : c.failure?.map Failure.message =
      some ("Please define all variables: " ++ ", ".intercalate (cfg.unbound formula b))) :
    Reports cfg formula b c ⟨.variablesMissing, .warning, some "unbound_variables"⟩
  | failed (bound : cfg.unbound formula b = []) {e : EvalError}
    (evaluation : evaluate cfg (.ofBindings b) (Token.scan cfg formula) = .error (.formula e))
    (value : c.value? = none) (failure : c.failure? = some (.evaluation e))
    (code : c.failure?.map Failure.code = some e.code)
    (message : c.failure?.map Failure.message = some e.message) (known : e.code ∈ EvalError.codes) :
    Reports cfg formula b c ⟨.formulaFailed, .error, some e.code⟩
  | evaluated (bound : cfg.unbound formula b = []) {value : Option Float}
    (evaluation : evaluate cfg (.ofBindings b) (Token.scan cfg formula) = .ok value)
    (result : c.value? = value) (failure : c.failure? = none) :
    Reports cfg formula b c ⟨.formulaEvaluated, .info, none⟩

namespace Config
variable {cfg : Config} {formula : String} {b : Bindings}

theorem Reports.unique {c : Calculation} {r r' : Report} (h : cfg.Reports formula b c r)
    (h' : cfg.Reports formula b c r') : r = r' := by
  cases h with
  | unbound unbound =>
    cases h' with
    | unbound => rfl
    | failed bound => exact absurd bound unbound
    | evaluated bound => exact absurd bound unbound
  | failed bound _ _ failure =>
    cases h' with
    | unbound unbound => exact absurd bound unbound
    | failed _ _ _ failure' =>
      rw [failure] at failure'
      cases failure'
      rfl
    | evaluated _ _ _ failure' =>
      rw [failure] at failure'
      cases failure'
  | evaluated bound _ _ failure =>
    cases h' with
    | unbound unbound => exact absurd bound unbound
    | failed _ _ _ failure' =>
      rw [failure] at failure'
      cases failure'
    | evaluated => rfl

/-- A calculation has one of the shapes. -/
theorem Calculates.reports (hcfg : cfg.Calculates) (formula : String) (hb : b.Floating) :
    ∃ c r, cfg.calculate formula b = .ok c ∧ cfg.Reports formula b c r := by
  have hcalculate (o : Except Failure (Option Float)) (ho : cfg.outcome formula b = .ok o) :
      cfg.calculate formula b = .ok ⟨o, Markup.display cfg formula, cfg.variableNames formula⟩ := by
    unfold calculate
    rw [ho]
    rfl
  by_cases hunbound : cfg.unbound formula b = []
  · rcases outcome_of_bound hcfg hb hunbound with ⟨value, hvalue, ho⟩ | ⟨e, he, ho⟩
    · exact ⟨_, _, hcalculate _ ho, .evaluated hunbound hvalue rfl rfl⟩
    · exact ⟨_, _, hcalculate _ ho, .failed hunbound he rfl rfl rfl rfl e.code_mem_codes⟩
  · exact ⟨_, _, hcalculate _ (outcome_of_unbound hunbound), .unbound hunbound rfl rfl rfl rfl⟩

theorem calculate_reports (hcfg : cfg.Elementary) (formula : String) (hb : b.Floating) :
    ∃ c r, cfg.calculate formula b = .ok c ∧ cfg.Reports formula b c r :=
  hcfg.calculates.reports formula hb

end Config
end Formulary
