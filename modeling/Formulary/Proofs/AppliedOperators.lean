import Mathlib.Data.List.Basic
import Formulary.Proofs.EvaluationRuns
import Formulary.Proofs.ExpressionValue
import Formulary.Proofs.ScanTokens
/-!
# Every operator is applied

An operator that waits is applied before the evaluation comes to its end: where the stack is cut, only
opening parentheses go. So an evaluation with a result has met configured operators only, and the
operator that an evaluation fails of is among its tokens. In the tokens of a formula it can be none but
the implicit operator, since the text itself has no symbols but the configured ones.
-/

set_option autoImplicit false
namespace Formulary

namespace Stacks
variable {cfg : Config}

theorem isOperator_of_apply {op : Token} {values values' : List Float}
    (h : apply cfg op values = .ok values') : cfg.isOperator op.text = true := by
  unfold apply at h
  simp only at h
  split at h
  · cases h
  · rename_i f hf
    exact Table.contains_of_get? hf

/-- What is applied, and what stops it. -/
theorem applyWhile_ok {binds : Token → Bool} {ops : List Token} {values : List Float} {s : Stacks}
    (h : applyWhile cfg binds ops values = .ok s) :
    ∃ applied, ops = applied ++ s.operators ∧ (∀ op ∈ applied, cfg.isOperator op.text = true) ∧
      ∀ op ∈ s.operators.head?, op.kind = .lparen ∨ binds op = false := by
  induction ops generalizing values with
  | nil =>
    cases h
    exact ⟨[], rfl, List.forall_mem_nil _, nofun⟩
  | cons op ops ih =>
    rw [applyWhile] at h
    split at h
    · rename_i hstop
      cases h
      refine ⟨[], rfl, List.forall_mem_nil _, fun u hu => ?_⟩
      cases hu
      exact hstop
    · split at h
      · rename_i values' happly
        obtain ⟨applied, rfl, hconfigured, hhead⟩ := ih h
        exact ⟨op :: applied, rfl,
          List.forall_mem_cons.2 ⟨isOperator_of_apply happly, hconfigured⟩, hhead⟩
      · cases h

theorem subset_of_applyWhile {binds : Token → Bool} {ops : List Token} {values : List Float}
    {s : Stacks} (h : applyWhile cfg binds ops values = .ok s) : s.operators ⊆ ops := by
  obtain ⟨applied, rfl, -⟩ := applyWhile_ok h
  exact List.subset_append_right applied _

theorem subset_of_operator {t : Token} {s s' : Stacks} (h : s.operator cfg t = .ok s') :
    s'.operators ⊆ t :: s.operators := by
  obtain ⟨next, hnext, rfl⟩ := ok_of_map h
  exact List.cons_subset_cons t (subset_of_applyWhile hnext)

theorem subset_of_close {s s' : Stacks} (h : s.close cfg = .ok s') : s'.operators ⊆ s.operators := by
  obtain ⟨next, hnext, rfl⟩ := ok_of_map h
  exact fun op hop => subset_of_applyWhile hnext (List.mem_of_mem_drop hop)

theorem isOperator_of_applyAll {ops : List Token} {values values' : List Float}
    (h : applyAll cfg ops values = .ok values') :
    ∀ op ∈ ops, op.kind ≠ .lparen → cfg.isOperator op.text = true := by
  induction ops generalizing values with
  | nil => exact List.forall_mem_nil _
  | cons op ops ih =>
    rw [applyAll] at h
    split at h
    · rename_i hopen
      exact List.forall_mem_cons.2 ⟨fun hkind => absurd hopen hkind, ih h⟩
    · split at h
      · rename_i values' happly
        exact List.forall_mem_cons.2 ⟨fun _ => isOperator_of_apply happly, ih h⟩
      · cases h

/-- Whether each operator among these tokens is configured, if it does not wait on the stacks. -/
def Carries (cfg : Config) (ops : List Token) (s : Stacks) : Prop :=
  ∀ op ∈ ops, op.kind = .operator → cfg.isOperator op.text = true ∨ op ∈ s.operators

theorem Carries.cons {t : Token} {ops : List Token} {s : Stacks} (h : Carries cfg ops s)
    (ht : t.kind ≠ .operator) : Carries cfg (t :: ops) s :=
  List.forall_mem_cons.2 ⟨fun hkind => absurd hkind ht, h⟩

theorem Carries.trans {ops : List Token} {s s' : Stacks} (h : Carries cfg ops s)
    (h' : Carries cfg s.operators s') : Carries cfg ops s' := by
  intro op hop hkind
  rcases h op hop hkind with hconfigured | hwaits
  · exact .inl hconfigured
  · exact h' op hwaits hkind

theorem carries_of_applyWhile {binds : Token → Bool} {ops : List Token} {values : List Float}
    {s : Stacks} (h : applyWhile cfg binds ops values = .ok s) : Carries cfg ops s := by
  obtain ⟨applied, rfl, hconfigured, -⟩ := applyWhile_ok h
  intro op hop _
  exact (List.mem_append.1 hop).imp_left (hconfigured op)

theorem carries_of_operator {t : Token} {s s' : Stacks} (h : s.operator cfg t = .ok s') :
    Carries cfg (t :: s.operators) s' := by
  obtain ⟨next, hnext, rfl⟩ := ok_of_map h
  intro op hop hkind
  rcases List.mem_cons.1 hop with rfl | hop
  · exact .inr List.mem_cons_self
  · exact (carries_of_applyWhile hnext op hop hkind).imp_right (List.mem_cons_of_mem t)

/-- A closing parenthesis takes nothing but its partner away. -/
theorem carries_of_close {s s' : Stacks} (h : s.close cfg = .ok s') :
    Carries cfg s.operators s' := by
  obtain ⟨⟨values, ops⟩, hnext, rfl⟩ := ok_of_map h
  obtain ⟨applied, -, -, hhead⟩ := applyWhile_ok hnext
  intro op hop hkind
  refine (carries_of_applyWhile hnext op hop hkind).imp_right fun hwaits => ?_
  cases ops with
  | nil => cases hwaits
  | cons u ops =>
    rcases List.mem_cons.1 hwaits with rfl | hbelow
    · rcases hhead op rfl with hopen | hbinds
      · rw [hkind] at hopen
        cases hopen
      · cases hbinds
    · exact hbelow

theorem Carries.isOperator {ops : List Token} {s : Stacks} {value : Option Float}
    (hcarries : Carries cfg ops s) (h : s.result cfg = .ok value) :
    ∀ op ∈ ops, op.kind = .operator → cfg.isOperator op.text = true := by
  obtain ⟨values, hvalues, -⟩ := ok_of_map h
  intro op hop hkind
  rcases hcarries op hop hkind with hconfigured | hwaits
  · exact hconfigured
  · exact isOperator_of_applyAll hvalues op hwaits (by rw [hkind]; nofun)

end Stacks

section
variable {cfg : Config} {env : Environment}

/-- A run has applied each operator of its tokens and of its stacks, or leaves it waiting. -/
theorem carries_of_run {ts : List Token} {s s' : Stacks} (h : run cfg env ts s = .ok s') :
    Stacks.Carries cfg ts s' ∧ Stacks.Carries cfg s.operators s' := by
  refine run_ok_induction
    (motive := fun ts s s' => Stacks.Carries cfg ts s' ∧ Stacks.Carries cfg s.operators s')
    ?nil ?number ?operator ?lparen ?rparen ?bound ?skipped ?call h
  case nil => exact fun s => ⟨List.forall_mem_nil _, fun op hop _ => .inr hop⟩
  case number =>
    intro text x ts s s' ih
    exact ih.imp_left (·.cons (by rintro ⟨⟩))
  case operator =>
    intro symbol ts s next s' hnext ⟨htokens, hstack⟩
    obtain ⟨hsymbol, hbelow⟩ := List.forall_mem_cons.1 ((Stacks.carries_of_operator hnext).trans hstack)
    exact ⟨List.forall_mem_cons.2 ⟨hsymbol, htokens⟩, hbelow⟩
  case lparen =>
    intro text ts s s' ⟨htokens, hstack⟩
    exact ⟨htokens.cons (by rintro ⟨⟩), (List.forall_mem_cons.1 hstack).2⟩
  case rparen =>
    intro text ts s next s' hnext ⟨htokens, hstack⟩
    exact ⟨htokens.cons (by rintro ⟨⟩), (Stacks.carries_of_close hnext).trans hstack⟩
  case bound =>
    intro name x y ts s s' _ ih
    exact ih.imp_left (·.cons (by rintro ⟨⟩))
  case skipped =>
    intro name ts s s' _ _ ih
    exact ih.imp_left (·.cons (by rintro ⟨⟩))
  case call =>
    intro name f text arg closing rest inside value s next s' _ _ _ harg hresult hnext ⟨htokens, hstack⟩
    -- the argument has come to its own end, so nothing of it waits
    have hargument := harg.1.isOperator hresult
    have hbehind : Stacks.Carries cfg (arg ++ ⟨.rparen, closing⟩ :: rest) s' :=
      List.forall_mem_append.2 ⟨fun op hop hkind => .inl (hargument op hop hkind),
        htokens.cons (by rintro ⟨⟩)⟩
    rw [Stacks.operators_of_pushCall hnext] at hstack
    exact ⟨.cons (.cons hbehind (by rintro ⟨⟩)) (by rintro ⟨⟩), hstack⟩

theorem isOperator_of_evaluate {ts : List Token} {value : Option Float}
    (h : evaluate cfg env ts = .ok value) :
    ∀ t ∈ ts, t.kind = .operator → cfg.isOperator t.text = true := by
  obtain ⟨s, hrun, hresult⟩ := ok_of_bind h
  exact (carries_of_run hrun).1.isOperator hresult

end

/-- Whether a configured function or operator itself ends with an error. -/
def Config.Raises (cfg : Config) (e : Fault) : Prop :=
  (∃ name f x, cfg.functions.get? name = some f ∧ f x = .error e) ∨
    ∃ symbol op a b, cfg.operators.get? symbol = some op ∧ op.apply a b = .error e

theorem Config.Elementary.not_raises {cfg : Config} (h : cfg.Elementary) (symbol : String) :
    ¬cfg.Raises (.formula (.unknownOperator symbol)) := by
  rintro (⟨name, f, x, hf, hraises⟩ | ⟨other, op, a, b, hop, hraises⟩)
  · obtain ⟨y, hy⟩ := h.function_ok name f hf x
    rw [hy] at hraises
    cases hraises
  · cases hzero : Formulary.Elementary.divides other && b == 0.0 with
    | true =>
      obtain ⟨hdivides, hb⟩ := Bool.and_eq_true_iff.1 hzero
      rw [h.division other op hop a b hdivides hb] at hraises
      cases hraises
    | false =>
      obtain ⟨y, hy⟩ := h.operator_ok other op hop a b hzero
      rw [hy] at hraises
      cases hraises

/-- Whether the unknown operator that an evaluation ends with, if it does, is one that `P` holds of. -/
def Blames {α : Type} (P : String → Prop) (v : Except Fault α) : Prop :=
  ∀ symbol, v = .error (.formula (.unknownOperator symbol)) → P symbol

namespace Blames
variable {α β : Type} {P : String → Prop}

theorem ok (a : α) : Blames P (Except.ok a) := nofun

theorem of_error {v : Except Fault α} (hv : Blames P v) {e : Fault} (he : v = .error e) :
    Blames P (.error e : Except Fault β) := by
  intro symbol h
  cases h
  exact hv symbol he

theorem bind {v : Except Fault α} {f : α → Except Fault β} (hv : Blames P v)
    (hf : ∀ a, v = .ok a → Blames P (f a)) : Blames P (v >>= f) := by
  cases v with
  | ok a => exact hf a rfl
  | error e => exact hv.of_error rfl

theorem map {v : Except Fault α} (hv : Blames P v) (f : α → β) : Blames P (v.map f) := by
  cases v with
  | ok a => exact ok (f a)
  | error e => exact hv.of_error rfl

theorem of_raises {cfg : Config} {v : Except Fault α}
    (hown : ∀ symbol, cfg.Raises (.formula (.unknownOperator symbol)) → P symbol)
    (h : ∀ e, v = .error e → cfg.Raises e) : Blames P v :=
  fun symbol hv => hown symbol (h _ hv)

theorem mapError {ε : Type} (v : Except ε α) (operand : ε → OperandError) :
    Blames P (v.mapError fun e => .operand (operand e)) := by
  intro symbol h
  cases v <;> cases h

end Blames

namespace Stacks
variable {cfg : Config} {P : String → Prop}

/-- Whether `P` holds of every token that may be applied and is not configured. -/
def Suspects (cfg : Config) (P : String → Prop) (ops : List Token) : Prop :=
  ∀ op ∈ ops, op.kind ≠ .lparen → cfg.isOperator op.text = false → P op.text

theorem blames_apply (hown : ∀ symbol, cfg.Raises (.formula (.unknownOperator symbol)) → P symbol)
    {op : Token} (hop : cfg.isOperator op.text = false → P op.text) (values : List Float) :
    Blames P (apply cfg op values) := by
  unfold apply
  simp only
  split
  · rename_i hnone
    rintro symbol ⟨⟩
    exact hop (Table.contains_eq_false_iff.2 hnone)
  · rename_i f hf
    exact (Blames.of_raises hown fun e he => .inr ⟨op.text, f, _, _, hf, he⟩).map _

theorem blames_applyWhile
    (hown : ∀ symbol, cfg.Raises (.formula (.unknownOperator symbol)) → P symbol)
    (binds : Token → Bool) {ops : List Token} (h : Suspects cfg P ops) (values : List Float) :
    Blames P (applyWhile cfg binds ops values) := by
  induction ops generalizing values with
  | nil => exact .ok _
  | cons op ops ih =>
    obtain ⟨hop, hops⟩ := List.forall_mem_cons.1 h
    rw [applyWhile]
    split
    · exact .ok _
    · rename_i hgo
      have happly := blames_apply hown (hop fun hopen => hgo (.inl hopen)) values
      split
      · exact ih hops _
      · rename_i e he
        exact happly.of_error he

theorem blames_applyAll
    (hown : ∀ symbol, cfg.Raises (.formula (.unknownOperator symbol)) → P symbol)
    {ops : List Token} (h : Suspects cfg P ops) (values : List Float) :
    Blames P (applyAll cfg ops values) := by
  induction ops generalizing values with
  | nil => exact .ok _
  | cons op ops ih =>
    obtain ⟨hop, hops⟩ := List.forall_mem_cons.1 h
    rw [applyAll]
    split
    · exact ih hops _
    · rename_i hclosed
      have happly := blames_apply hown (hop hclosed) values
      split
      · exact ih hops _
      · rename_i e he
        exact happly.of_error he

end Stacks

section
variable {cfg : Config} {env : Environment} {P : String → Prop}

theorem blames_conclude
    (hown : ∀ symbol, cfg.Raises (.formula (.unknownOperator symbol)) → P symbol) {ts : List Token}
    (hts : ∀ t ∈ ts, t.kind = .operator → cfg.isOperator t.text = false → P t.text) {s : Stacks}
    (hs : Stacks.Suspects cfg P s.operators) : Blames P (conclude cfg env ts s) := by
  induction ts using run_induction cfg env generalizing s with
  | nil =>
    rw [conclude_nil]
    exact (Stacks.blames_applyAll hown hs _).map _
  | number text ts ih =>
    rw [conclude_number]
    exact (Blames.mapError _ _).bind fun x _ => ih (List.forall_mem_cons.1 hts).2 hs
  | operator symbol ts ih =>
    obtain ⟨hsymbol, hrest⟩ := List.forall_mem_cons.1 hts
    rw [conclude_operator]
    have hall : Stacks.Suspects cfg P (⟨.operator, symbol⟩ :: s.operators) :=
      List.forall_mem_cons.2 ⟨fun _ => hsymbol rfl, hs⟩
    exact ((Stacks.blames_applyWhile hown _ hs _).map _).bind fun s' hs' =>
      ih hrest fun op hop => hall op (Stacks.subset_of_operator hs' hop)
  | lparen text ts ih =>
    rw [conclude_lparen]
    exact ih (List.forall_mem_cons.1 hts).2 (List.forall_mem_cons.2 ⟨fun h => absurd rfl h, hs⟩)
  | rparen text ts ih =>
    rw [conclude_rparen]
    exact ((Stacks.blames_applyWhile hown _ hs _).map _).bind fun s' hs' =>
      ih (List.forall_mem_cons.1 hts).2 fun op hop => hs op (Stacks.subset_of_close hs' hop)
  | bound name x ts hbound ih =>
    rw [conclude_bound hbound]
    exact (Blames.mapError x id).bind fun y _ => ih (List.forall_mem_cons.1 hts).2 hs
  | skipped name ts hunbound hno ih =>
    rw [conclude_skipped hunbound hno]
    exact ih (List.forall_mem_cons.1 hts).2 hs
  | unclosed name f text inner hunbound hf hsplit =>
    rw [conclude, run_unclosed hf hunbound hsplit]
    nofun
  | call name f text arg close rest hunbound hf hsplit iharg ihrest =>
    have harg := fun t (ht : t ∈ arg) => hts t (by simp [ht])
    have hrest := fun t (ht : t ∈ rest) => hts t (by simp [ht])
    have hargument : Blames P (evaluate cfg env arg) :=
      iharg (s := .empty) harg (List.forall_mem_nil _)
    rw [conclude_call hf hunbound hsplit]
    refine hargument.bind fun value _ => ?_
    cases value with
    | none => exact ihrest hrest hs
    | some x =>
      have hvalue : Blames P (f x) := .of_raises hown fun e he => .inl ⟨name, f, x, hf, he⟩
      exact hvalue.bind fun y _ => ihrest hrest hs
  | unparenthesized name f ts hunbound hf hopen =>
    rw [conclude, run_unparenthesized hf hunbound hopen]
    nofun

/-- An evaluation fails only of an unknown operator that is one of its tokens, or that a function or
operator of the configuration fails of. -/
theorem unknownOperator_cases {ts : List Token} {symbol : String}
    (h : evaluate cfg env ts = .error (.formula (.unknownOperator symbol))) :
    (∃ t ∈ ts, t.kind = .operator ∧ t.text = symbol ∧ cfg.isOperator symbol = false) ∨
      cfg.Raises (.formula (.unknownOperator symbol)) := by
  have hblames : Blames (fun symbol =>
      (∃ t ∈ ts, t.kind = .operator ∧ t.text = symbol ∧ cfg.isOperator symbol = false) ∨
        cfg.Raises (.formula (.unknownOperator symbol))) (conclude cfg env ts .empty) :=
    blames_conclude (fun _ hraises => .inr hraises)
      (fun t ht hkind hno => .inl ⟨t, ht, hkind, rfl, hno⟩) (List.forall_mem_nil _)
  exact hblames symbol h

end

namespace Token
variable {cfg : Config}

theorem isOperator_of_ofSymbol {c : Char} (hc : cfg.isSymbol c = true)
    (hkind : (ofSymbol c).kind = .operator) : cfg.isOperator (ofSymbol c).text = true := by
  rcases Config.isSymbol_iff.1 hc with rfl | rfl | ho
  · cases hkind
  · cases hkind
  · rwa [ofSymbol_of_isOperator ho]

/-- The operators of a formula are configured, but the implicit one may not be. -/
theorem operator_of_mem_scan {formula : String} {t : Token} (ht : t ∈ scan cfg formula)
    (hkind : t.kind = .operator) : cfg.isOperator t.text = true ∨ t = cfg.implicitToken := by
  cases scanned_of_mem_scan ht with
  | @pending p =>
    unfold pendingToken at hkind
    split at hkind <;> cases hkind
  | function => cases hkind
  | symbol hc => exact .inl (isOperator_of_ofSymbol hc hkind)
  | implicit => exact .inr rfl

end Token

/-- If an evaluation has a result, all operators among its tokens are configured. So the evaluation of a
formula can fail of no unknown operator but the implicit one, and only where that is not configured, unless
a configured function or operator itself fails with such an error; and then it does fail if the scan has
entered that operator. -/
theorem operators_applied (cfg : Config) (env : Environment) :
    (∀ ts value, evaluate cfg env ts = .ok value →
      ∀ t ∈ ts, t.kind = .operator → cfg.isOperator t.text = true) ∧
    (∀ formula symbol,
      evaluate cfg env (Token.scan cfg formula) = .error (.formula (.unknownOperator symbol)) →
        cfg.isOperator cfg.implicitOperator = false ∧ symbol = cfg.implicitOperator ∨
          cfg.Raises (.formula (.unknownOperator symbol))) ∧
    ∀ formula, cfg.isOperator cfg.implicitOperator = false →
      cfg.implicitToken ∈ Token.scan cfg formula →
        ∃ e, evaluate cfg env (Token.scan cfg formula) = .error e := by
  refine ⟨fun ts value h => isOperator_of_evaluate h, fun formula symbol h => ?_,
    fun formula hno hmem => ?_⟩
  · refine (unknownOperator_cases h).imp_left ?_
    rintro ⟨t, ht, hkind, rfl, hno⟩
    rcases Token.operator_of_mem_scan ht hkind with hyes | rfl
    · rw [hyes] at hno
      cases hno
    · exact ⟨hno, rfl⟩
  · cases hvalue : evaluate cfg env (Token.scan cfg formula) with
    | error e => exact ⟨e, rfl⟩
    | ok value =>
      have hyes := isOperator_of_evaluate hvalue cfg.implicitToken hmem rfl
      rw [Config.implicitToken, hno] at hyes
      cases hyes

/-- A configuration of sums, where products are not configured. -/
def Config.sums : Config :=
  (Catalog.elementary.configure [] ["+"]).toOption.get (by decide +kernel)

theorem operators_applied_sums :
    Config.sums.isOperator "+" = true ∧ Config.sums.isOperator "*" = false ∧
      ∃ e, evaluate Config.sums (.single "x" 1.0) (Token.scan Config.sums "2x") = .error e := by
  have hsum : evaluate Config.sums (.single "x" 1.0)
      [⟨.number, "1"⟩, ⟨.operator, "+"⟩, ⟨.identifier, "x"⟩] = .ok (some 2.0) := by decide +kernel
  have hproduct : evaluate Config.sums (.single "x" 1.0) (Token.scan Config.sums "2x") =
      .error (.formula (.unknownOperator "*")) := by decide +kernel
  have hscan : Config.sums.implicitToken ∈ Token.scan Config.sums "2x" := by decide +kernel
  have helementary : Config.sums.Elementary :=
    Catalog.elementary_of_configure (ok_get (x := Catalog.elementary.configure [] ["+"]) (by decide +kernel))
  obtain ⟨hresult, hunknown, hfails⟩ := operators_applied Config.sums (.single "x" 1.0)
  have hno : Config.sums.isOperator "*" = false := by
    rcases hunknown "2x" "*" hproduct with ⟨hno, heq⟩ | hraises
    · rwa [← heq] at hno
    · exact absurd hraises (helementary.not_raises "*")
  refine ⟨hresult _ _ hsum ⟨.operator, "+"⟩ (by decide) rfl, hno, hfails "2x" ?_ hscan⟩
  decide +kernel

end Formulary
