import Formulary.Proofs.AppliedOperators
/-!
# Only the order of precedences counts

An evaluation compares precedences and does nothing else with them. So it takes the same steps under two
configurations that differ in the precedences alone, as long as they order the operators alike, and the
precedence of functions never comes into it: no function waits among the operators.
-/

set_option autoImplicit false
namespace Formulary

/-- Whether two configurations have the same functions and operators, and the precedences of the second are
those of the first under a map that is strictly increasing on them. -/
structure Config.Rescales (cfg cfg' : Config) (scale : Int → Int) : Prop where
  functions : ∀ name, cfg'.functions.get? name = cfg.functions.get? name
  operators : ∀ symbol, cfg'.operators.get? symbol =
    (cfg.operators.get? symbol).map fun op => ⟨scale op.precedence, op.apply⟩
  increasing : ∀ a b f g, cfg.operators.get? a = some f → cfg.operators.get? b = some g →
    f.precedence < g.precedence → scale f.precedence < scale g.precedence

section
variable {cfg cfg' : Config} {scale : Int → Int}

theorem Config.exists_of_isOperator {symbol : String} (h : cfg.isOperator symbol = true) :
    ∃ op, cfg.operators.get? symbol = some op := Option.isSome_iff_exists.1 h

theorem Config.Rescales.precedence_le_iff (h : cfg.Rescales cfg' scale) {a b : String}
    (ha : cfg.isOperator a = true) (hb : cfg.isOperator b = true) :
    cfg'.precedence a ≤ cfg'.precedence b ↔ cfg.precedence a ≤ cfg.precedence b := by
  have hscaled {symbol : String} {op : Operator} (hop : cfg.operators.get? symbol = some op) :
      cfg'.precedence symbol = scale op.precedence := by
    have hop' := h.operators symbol
    rw [hop] at hop'
    exact Config.precedence_of_get? hop'
  obtain ⟨f, hf⟩ := Config.exists_of_isOperator ha
  obtain ⟨g, hg⟩ := Config.exists_of_isOperator hb
  rw [hscaled hf, hscaled hg, Config.precedence_of_get? hf, Config.precedence_of_get? hg]
  rcases Int.lt_trichotomy f.precedence g.precedence with hlt | heq | hgt
  · have hscale := h.increasing a b f g hf hg hlt
    omega
  · rw [heq]
    exact iff_of_true (Int.le_refl _) (Int.le_refl _)
  · have hscale := h.increasing b a g f hg hf hgt
    omega

namespace Stacks

/-- Whether every operator among waiting tokens is configured. -/
def Configured (cfg : Config) (ops : List Token) : Prop :=
  ∀ op ∈ ops, op.kind ≠ .lparen → cfg.isOperator op.text = true

theorem configured_empty : Configured cfg empty.operators := List.forall_mem_nil _

theorem apply_rescaled (h : cfg.Rescales cfg' scale) (op : Token) (values : List Float) :
    apply cfg' op values = apply cfg op values := by
  unfold apply
  rw [h.operators]
  cases cfg.operators.get? op.text <;> rfl

theorem applyWhile_rescaled (h : cfg.Rescales cfg' scale) {binds binds' : Token → Bool}
    {ops : List Token} (hbinds : ∀ op ∈ ops, op.kind ≠ .lparen → binds' op = binds op)
    (values : List Float) : applyWhile cfg' binds' ops values = applyWhile cfg binds ops values := by
  induction ops generalizing values with
  | nil => rfl
  | cons op ops ih =>
    obtain ⟨hop, hops⟩ := List.forall_mem_cons.1 hbinds
    rw [applyWhile, applyWhile]
    by_cases hopen : op.kind = .lparen
    · rw [if_pos (.inl hopen), if_pos (.inl hopen)]
    · rw [hop hopen, apply_rescaled h]
      simp only [ih hops]

theorem applyAll_rescaled (h : cfg.Rescales cfg' scale) (ops : List Token) (values : List Float) :
    applyAll cfg' ops values = applyAll cfg ops values := by
  induction ops generalizing values with
  | nil => rfl
  | cons op ops ih =>
    rw [applyAll, applyAll, apply_rescaled h]
    simp only [ih]

theorem operator_rescaled (h : cfg.Rescales cfg' scale) {t : Token} {s : Stacks}
    (ht : cfg.isOperator t.text = true) (hs : Configured cfg s.operators) :
    s.operator cfg' t = s.operator cfg t := by
  refine congrArg (·.map (·.pushOperator t)) (applyWhile_rescaled h (fun op hop hclosed => ?_) s.values)
  exact decide_eq_decide.2 (h.precedence_le_iff ht (hs op hop hclosed))

theorem close_rescaled (h : cfg.Rescales cfg' scale) (s : Stacks) : s.close cfg' = s.close cfg := by
  unfold close
  rw [applyWhile_rescaled h fun _ _ _ => rfl]

theorem result_rescaled (h : cfg.Rescales cfg' scale) (s : Stacks) : s.result cfg' = s.result cfg := by
  unfold result
  rw [applyAll_rescaled h]

end Stacks

variable {env : Environment}

/-- Under both configurations a run takes the same steps, since only configured operators wait. -/
theorem run_rescaled (h : cfg.Rescales cfg' scale) {ts : List Token}
    (hts : ∀ t ∈ ts, t.kind = .operator → cfg.isOperator t.text = true) {s : Stacks}
    (hs : Stacks.Configured cfg s.operators) : run cfg' env ts s = run cfg env ts s := by
  induction ts using run_induction cfg env generalizing s with
  | nil => rw [run_nil, run_nil]
  | number text ts ih =>
    rw [run_number, run_number]
    exact bind_congr fun x => ih (List.forall_mem_cons.1 hts).2 hs
  | operator symbol ts ih =>
    obtain ⟨hsymbol, hrest⟩ := List.forall_mem_cons.1 hts
    have hall : Stacks.Configured cfg (⟨.operator, symbol⟩ :: s.operators) :=
      List.forall_mem_cons.2 ⟨fun _ => hsymbol rfl, hs⟩
    rw [run_operator, run_operator, Stacks.operator_rescaled h (hsymbol rfl) hs]
    exact bind_congr_of_ok fun s' hs' =>
      ih hrest fun op hop => hall op (Stacks.subset_of_operator hs' hop)
  | lparen text ts ih =>
    rw [run_lparen, run_lparen]
    exact ih (List.forall_mem_cons.1 hts).2 (List.forall_mem_cons.2 ⟨fun hclosed => absurd rfl hclosed, hs⟩)
  | rparen text ts ih =>
    rw [run_rparen, run_rparen, Stacks.close_rescaled h]
    exact bind_congr_of_ok fun s' hs' =>
      ih (List.forall_mem_cons.1 hts).2 fun op hop => hs op (Stacks.subset_of_close hs' hop)
  | bound name x ts hbound ih =>
    rw [run_bound hbound, run_bound hbound]
    exact bind_congr fun y => ih (List.forall_mem_cons.1 hts).2 hs
  | skipped name ts hunbound hno ih =>
    rw [run_skipped hunbound hno, run_skipped hunbound ((h.functions name).trans hno)]
    exact ih (List.forall_mem_cons.1 hts).2 hs
  | unclosed name f text inner hunbound hf hsplit =>
    rw [run_unclosed hf hunbound hsplit, run_unclosed ((h.functions name).trans hf) hunbound hsplit]
  | call name f text arg close rest hunbound hf hsplit iharg ihrest =>
    have harg := fun t (ht : t ∈ arg) => hts t (by simp [ht])
    have hrest := fun t (ht : t ∈ rest) => hts t (by simp [ht])
    have hargument : evaluate cfg' env arg = evaluate cfg env arg := by
      unfold evaluate
      rw [iharg harg Stacks.configured_empty]
      exact bind_congr (Stacks.result_rescaled h)
    rw [run_call hf hunbound hsplit, run_call ((h.functions name).trans hf) hunbound hsplit, hargument]
    refine bind_congr fun value => ?_
    cases value with
    | none => exact ihrest hrest hs
    | some x => exact bind_congr fun y => ihrest hrest hs
  | unparenthesized name f ts hunbound hf hopen =>
    rw [run_unparenthesized hf hunbound hopen,
      run_unparenthesized ((h.functions name).trans hf) hunbound hopen]

theorem evaluate_rescaled (h : cfg.Rescales cfg' scale) {ts : List Token}
    (hts : ∀ t ∈ ts, t.kind = .operator → cfg.isOperator t.text = true) :
    evaluate cfg' env ts = evaluate cfg env ts := by
  unfold evaluate
  rw [run_rescaled h hts Stacks.configured_empty]
  exact bind_congr (Stacks.result_rescaled h)

end

/-- Two configurations with the same functions and operators, whose precedences are in the same order, give
every list of tokens with configured operators the same result or the same error, and the precedence of
functions has no part in it. -/
theorem evaluate_precedences (cfg : Config) (env : Environment) {ts : List Token}
    (hts : ∀ t ∈ ts, t.kind = .operator → cfg.isOperator t.text = true) :
    (∀ cfg' scale, cfg.Rescales cfg' scale → evaluate cfg' env ts = evaluate cfg env ts) ∧
      ∀ p, evaluate { cfg with functionPrecedence := p } env ts = evaluate cfg env ts := by
  refine ⟨fun cfg' scale h => evaluate_rescaled h hts, fun p => ?_⟩
  have hsame : cfg.Rescales { cfg with functionPrecedence := p } id := by
    refine ⟨fun _ => rfl, fun symbol => ?_, fun _ _ _ _ _ _ hlt => hlt⟩
    exact Option.map_id'.symm
  exact evaluate_rescaled hsame hts

namespace Config

/-- The operators of a configuration with other precedences. -/
def rescaled (cfg : Config) (scale : Int → Int) (functionPrecedence : Int) : Config where
  functions := cfg.functions
  operators := cfg.operators.map fun op => ⟨scale op.precedence, op.apply⟩
  functionPrecedence := functionPrecedence
  implicitOperator := cfg.implicitOperator
  functions_valid := cfg.functions_valid
  operators_valid := by
    rw [Table.keys_map]
    exact cfg.operators_valid

theorem rescales_rescaled (cfg : Config) {scale : Int → Int}
    (h : ∀ p q, p < q → scale p < scale q) (p : Int) :
    cfg.Rescales (cfg.rescaled scale p) scale where
  functions _ := rfl
  operators symbol := Table.get?_map _ _ symbol
  increasing _ _ f g _ _ hlt := h f.precedence g.precedence hlt

end Config

/-- `9-8/2/x-1`. -/
def quotients : List Token :=
  [⟨.number, "9"⟩, ⟨.operator, "-"⟩, ⟨.number, "8"⟩, ⟨.operator, "/"⟩, ⟨.number, "2"⟩,
    ⟨.operator, "/"⟩, ⟨.identifier, "x"⟩, ⟨.operator, "-"⟩, ⟨.number, "1"⟩]

/-- Precedences that are far apart and all above that of functions make no difference. -/
theorem evaluate_precedences_quotients :
    (∀ t ∈ quotients, t.kind = .operator → Config.standard.isOperator t.text = true) ∧
      Config.standard.Rescales (Config.standard.rescaled (fun p => 100 * p - 7) 0)
        (fun p => 100 * p - 7) ∧
      (evaluate (Config.standard.rescaled (fun p => 100 * p - 7) 0) (.single "x" 4.0)
        quotients).toOption = some (some 7.0) ∧
      (evaluate { Config.standard with functionPrecedence := -1 } (.single "x" 4.0)
        quotients).toOption = some (some 7.0) := by
  have hts : ∀ t ∈ quotients, t.kind = .operator → Config.standard.isOperator t.text = true := by
    decide +kernel
  have hscale : ∀ p q : Int, p < q → 100 * p - 7 < 100 * q - 7 := by
    intro p q hpq
    omega
  have hrescales := Config.standard.rescales_rescaled hscale 0
  have hvalue : (evaluate Config.standard (.single "x" 4.0) quotients).toOption = some (some 7.0) := by
    decide +kernel
  obtain ⟨horder, hfunctions⟩ := evaluate_precedences Config.standard (.single "x" 4.0) hts
  refine ⟨hts, hrescales, ?_, ?_⟩
  · rw [horder _ _ hrescales, hvalue]
  · rw [hfunctions, hvalue]

end Formulary
