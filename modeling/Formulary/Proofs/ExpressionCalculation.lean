import Formulary.Calculation
import Formulary.Proofs.ExpressionText
import Formulary.Proofs.ExpressionValue
/-!
# The calculation of an expression

From the text to the result: with a preset, the calculation of any layout of an expression gives the
value of the expression, unless somewhere in it the divisor is exactly zero, which is the failure that
it then reports.
-/

set_option autoImplicit false
namespace Formulary

theorem Token.literal_of_isNumeral {s : String} (h : isNumeral s.toList = true) :
    ∃ x, Token.literal ⟨.number, s⟩ = .ok x := by
  obtain ⟨x, hx⟩ := Numeral.float_of_isNumeral h
  refine ⟨x, ?_⟩
  unfold Token.literal
  rw [hx]
  rfl

/-- Whether an evaluation ends with a value or, if `zero` says so, with a division by zero. -/
def Settles (zero : Bool) (v : Except Fault Float) : Prop :=
  if zero = true then ∃ symbol, v = .error (.formula (.divisionByZero symbol)) else ∃ x, v = .ok x

theorem Settles.bind {zero later : Bool} {v : Except Fault Float} {f : Float → Except Fault Float}
    (hv : Settles zero v) (hf : ∀ x, v = .ok x → Settles later (f x)) :
    Settles (zero || later) (v >>= f) := by
  cases zero with
  | true =>
    obtain ⟨symbol, rfl⟩ := hv
    exact ⟨symbol, rfl⟩
  | false =>
    obtain ⟨x, rfl⟩ := hv
    exact hf x rfl

namespace Config.Elementary
variable {cfg : Config}

theorem settles_function (h : cfg.Elementary) {name : String} {f : Function}
    (hf : cfg.functions.get? name = some f) (x : Float) : Settles false (f x) :=
  h.function_ok name f hf x

theorem settles_apply (h : cfg.Elementary) {symbol : String} {op : Operator}
    (hop : cfg.operators.get? symbol = some op) (a b : Float) :
    Settles (Formulary.Elementary.divides symbol && b == 0.0) (op.apply a b) := by
  cases hzero : Formulary.Elementary.divides symbol && b == 0.0 with
  | true =>
    obtain ⟨hdivides, hb⟩ := Bool.and_eq_true_iff.1 hzero
    exact ⟨symbol, h.division symbol op hop a b hdivides hb⟩
  | false => exact h.operator_ok symbol op hop a b hzero

end Config.Elementary

namespace Expression
variable {cfg : Config} {env : Environment}

/-- Whether the evaluation comes to a division by exactly zero. -/
def dividesByZero : Expression cfg env → Bool
  | literal _ => false
  | reference _ _ _ => false
  | binary symbol _ _ left right =>
    left.dividesByZero || right.dividesByZero ||
      Elementary.divides symbol && right.value.toOption.any (· == 0.0)
  | group inner => inner.dividesByZero
  | call _ _ _ _ argument => argument.dividesByZero

/-- A division by zero is the only way to have no value. -/
theorem settles_value (hcfg : cfg.Elementary) {e : Expression cfg env} (he : e.Textual)
    (hb : ∀ name ∈ e.variableNames, ∃ x, env name = some (.ok x)) :
    Settles e.dividesByZero e.value := by
  induction e with
  | literal text => exact Token.literal_of_isNumeral he
  | reference name x bound =>
    obtain ⟨y, hy⟩ := hb name (List.mem_singleton_self name)
    rw [bound] at hy
    cases hy
    exact ⟨y, rfl⟩
  | binary symbol op configured left right ihl ihr =>
    have hl := ihl he.1 fun name hname => hb name (List.mem_append_left _ hname)
    have hr := ihr he.2 fun name hname => hb name (List.mem_append_right _ hname)
    rw [dividesByZero, Bool.or_assoc]
    refine hl.bind fun a _ => hr.bind fun b hb => ?_
    rw [hb]
    exact hcfg.settles_apply configured a b
  | group inner ih => exact ih he hb
  | call name f configured unbound argument ih =>
    have hx := (ih he hb).bind fun x _ => hcfg.settles_function configured x
    rwa [Bool.or_false] at hx

end Expression

section
variable {cfg : Config} {b : Bindings}

theorem checkBindings_ok {formula : String} {names : List String}
    (hnames : cfg.variableNames formula = names) (hb : ∀ name ∈ names, b.contains name = true) :
    cfg.checkBindings b.contains formula = .ok names := by
  have hunbound : (names.filter fun name => !b.contains name) = [] := by
    rw [List.filter_eq_nil_iff]
    intro name hname
    rw [hb name hname]
    exact Bool.false_ne_true
  unfold Config.checkBindings
  rw [hnames]
  simp only [hunbound]
  rfl

theorem ofBindings_of_bound {name : String} (h : ∃ x, b.get? name = some (.float x)) :
    ∃ x, Environment.ofBindings b name = some (.ok x) := by
  obtain ⟨x, hx⟩ := h
  refine ⟨x, ?_⟩
  unfold Environment.ofBindings
  rw [hx]
  rfl

theorem variableNames_of_laidOut (hcfg : cfg.Legible) {env : Environment} {e : Expression cfg env}
    {ts : List Token} (h : Renders e ts) (he : e.Textual) {text : String}
    (ht : LaidOut ts text.toList) : cfg.variableNames text = e.variableNames.eraseDups := by
  rw [variableNames_eq_eraseDups, scan_of_laidOut hcfg h he ht, variableTexts_of_renders hcfg h he]

/-- With either preset, the calculation of any layout of an expression lists its variables in the order
of first appearance, and gives its value or reports the division by zero that it comes to. -/
theorem calculate_layout {preset : String}
    (hcfg : Catalog.elementary.configurePreset preset = .ok cfg) {e : Expression cfg (.ofBindings b)}
    (he : e.Textual) (hb : ∀ name ∈ e.variableNames, ∃ x, b.get? name = some (.float x))
    {ts : List Token} (h : Renders e ts) {text : String} (ht : LaidOut ts text.toList) :
    ∃ c, cfg.calculate text b = .ok c ∧ c.variableNames = e.variableNames.eraseDups ∧
      if e.dividesByZero = true then
        c.value? = none ∧ c.failure?.map Failure.code = some "division_by_zero"
      else c.failure? = none ∧ ∃ x, e.value = .ok x ∧ c.value? = some x := by
  have hlegible := Config.legible_of_configurePreset hcfg
  have hnames := variableNames_of_laidOut hlegible h he ht
  have hbound : ∀ name ∈ e.variableNames.eraseDups, b.contains name = true := by
    intro name hname
    obtain ⟨x, hx⟩ := hb name (List.mem_eraseDups.1 hname)
    exact Table.contains_of_get? hx
  have hcheck := checkBindings_ok hnames hbound
  have heval := evaluate_of_computes (computes_of_renders h)
  rw [← scan_of_laidOut hlegible h he ht] at heval
  have hvalue := Expression.settles_value (Config.elementary_of_configurePreset hcfg) he
    fun name hname => ofBindings_of_bound (hb name hname)
  have hcalculate (o : Except Failure (Option Float)) (ho : cfg.outcome text b = .ok o) :
      cfg.calculate text b = .ok ⟨o, Markup.display cfg text, e.variableNames.eraseDups⟩ := by
    unfold Config.calculate
    rw [ho, hnames]
    rfl
  unfold Config.outcome at hcalculate
  rw [hcheck, heval] at hcalculate
  cases hzero : e.dividesByZero with
  | true =>
    rw [hzero] at hvalue
    obtain ⟨symbol, hs⟩ := hvalue
    rw [hs] at hcalculate
    exact ⟨_, hcalculate _ rfl, rfl, rfl, rfl⟩
  | false =>
    rw [hzero] at hvalue
    obtain ⟨x, hx⟩ := hvalue
    rw [hx] at hcalculate
    exact ⟨_, hcalculate _ rfl, rfl, rfl, x, hx, rfl⟩

end

def Bindings.pair : Bindings := Table.ofList [("x", .float (-7.0)), ("y", .float 4.0)]

/-- `abs(x)%y-.5` in the extended configuration. -/
def Expression.remainder : Expression Config.extended (.ofBindings .pair) :=
  ofSymbol "-" (by decide +kernel)
    (ofSymbol "%" (by decide +kernel)
      (ofName "abs" (by decide +kernel) rfl (reference "x" (.ok (-7.0)) rfl))
      (reference "y" (.ok 4.0) rfl))
    (literal ".5")

theorem textual_remainder : Expression.remainder.Textual := by
  have hliteral : isNumeral ".5".toList = true := by decide +kernel
  exact ⟨⟨⟨'x', rfl, rfl⟩, ⟨'y', rfl, rfl⟩⟩, hliteral⟩

theorem renders_remainder : Renders Expression.remainder
    [⟨.identifier, "abs"⟩, .lparen, ⟨.identifier, "x"⟩, .rparen, ⟨.operator, "%"⟩,
      ⟨.identifier, "y"⟩, ⟨.operator, "-"⟩, ⟨.number, ".5"⟩] :=
  .binary _ 0 0
    (.binary _ 0 0 (.call _ _ (.reference _ _ _) (by decide +kernel)) (.reference _ _ _)
      (by decide +kernel) (by decide +kernel))
    (.literal _) (by decide +kernel) (by decide +kernel)

theorem laidOut_remainder : LaidOut
    [⟨.identifier, "abs"⟩, .lparen, ⟨.identifier, "x"⟩, .rparen, ⟨.operator, "%"⟩,
      ⟨.identifier, "y"⟩, ⟨.operator, "-"⟩, ⟨.number, ".5"⟩] "abs (x)%y - .5 ".toList := by
  have hnone : ∀ c ∈ [], Text.isBlank c = true := List.forall_mem_nil _
  have hone : ∀ c ∈ [' '], Text.isBlank c = true := List.forall_mem_singleton.2 rfl
  have htext : "abs (x)%y - .5 ".toList =
      [] ++ ("abs".toList ++ ([' '] ++ ("(".toList ++ ([] ++ ("x".toList ++ ([] ++ (")".toList ++
        ([] ++ ("%".toList ++ ([] ++ ("y".toList ++ ([' '] ++ ("-".toList ++ ([' '] ++
          (".5".toList ++ [' ']))))))))))))))) := by decide +kernel
  rw [htext]
  exact .token hnone _ (.token hone _ (.token hnone _ (.token hnone _ (.token hnone _
    (.token hnone _ (.token hone _ (.token hone _ (.done hone))))))))

theorem calculate_remainder : ∃ c, Config.extended.calculate "abs (x)%y - .5 " .pair = .ok c ∧
    c.variableNames = ["x", "y"] ∧ c.failure? = none ∧ c.value? = some 2.5 := by
  have hbound : ∀ name ∈ Expression.remainder.variableNames,
      ∃ x, Bindings.pair.get? name = some (.float x) := by
    intro name hname
    change name ∈ ["x", "y"] at hname
    simp only [List.mem_cons, List.not_mem_nil, or_false] at hname
    rcases hname with rfl | rfl
    · exact ⟨_, rfl⟩
    · exact ⟨_, rfl⟩
  obtain ⟨c, hc, hnames, hvalue⟩ := calculate_layout Config.configurePreset_extended
    textual_remainder hbound renders_remainder laidOut_remainder
  have hzero : Expression.remainder.dividesByZero = false := by decide +kernel
  rw [hzero, if_neg Bool.false_ne_true] at hvalue
  obtain ⟨hfailure, x, hx, hcx⟩ := hvalue
  have hresult : Expression.remainder.value.toOption = some 2.5 := by decide +kernel
  rw [hx] at hresult
  exact ⟨c, hc, hnames, hfailure, hcx.trans hresult⟩

end Formulary
