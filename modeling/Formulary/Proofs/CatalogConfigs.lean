import Formulary.Catalog
import Formulary.Proofs.Outcomes
import Formulary.Proofs.Tables
/-!
# Configurations from a catalog

A configuration that is built from a catalog has, under each of its names, what the catalog has under
it. Of the elementary catalog that means: every function gives a value, and so does every operator
but a division by exactly zero.
-/

set_option autoImplicit false
namespace Formulary

namespace Table
variable {α β : Type} (t : Table String α) (entry : String → α → β) (unknown : String → ConfigError)

/-- What is made of the values under the given keys, or what is said of the first key without one. -/
def select : List String → Except ConfigError (List β)
  | [] => .ok []
  | key :: keys =>
    match t.get? key with
    | some v => (select keys).map (entry key v :: ·)
    | none => .error (unknown key)

theorem select_registered {keys : List String} {es : List β} (h : t.select entry unknown keys = .ok es) :
    ∀ e ∈ es, ∃ k v, t.get? k = some v ∧ e = entry k v := by
  induction keys generalizing es with
  | nil =>
    cases h
    exact fun _ he => absurd he List.not_mem_nil
  | cons k keys ih =>
    rw [select] at h
    split at h
    · rename_i v hv
      obtain ⟨rest, hrest, rfl⟩ := ok_of_map h
      exact List.forall_mem_cons.2 ⟨⟨k, v, hv, rfl⟩, ih hrest⟩
    · cases h

theorem select_cases (keys : List String) :
    (∃ es, t.select entry unknown keys = .ok es ∧ (∀ k ∈ keys, t.contains k = true) ∧
      ∀ key : β → String, (∀ k v, key (entry k v) = k) → es.map key = keys) ∨
    ∃ before missing after, keys = before ++ missing :: after ∧
      (∀ k ∈ before, t.contains k = true) ∧ t.contains missing = false ∧
        t.select entry unknown keys = .error (unknown missing) := by
  induction keys with
  | nil => exact .inl ⟨[], rfl, fun _ hk => absurd hk List.not_mem_nil, fun _ _ => rfl⟩
  | cons k keys ih =>
    rw [select]
    cases hk : t.get? k with
    | none =>
      exact .inr ⟨[], k, keys, rfl, fun _ hk => absurd hk List.not_mem_nil,
        contains_eq_false_iff.2 hk, rfl⟩
    | some v =>
      have hcontains := contains_of_get? hk
      rcases ih with
        ⟨es, hes, hall, hkeys⟩ | ⟨before, missing, after, rfl, hbefore, hmissing, herror⟩
      · refine .inl ⟨entry k v :: es, ?_, List.forall_mem_cons.2 ⟨hcontains, hall⟩, fun key hkey => ?_⟩
        · rw [hes]
          rfl
        · rw [List.map_cons, hkey, hkeys key hkey]
      · refine .inr ⟨k :: before, missing, after, rfl,
          List.forall_mem_cons.2 ⟨hcontains, hbefore⟩, hmissing, ?_⟩
        rw [herror]
        rfl

end Table

namespace Catalog

theorem selectFunctions_eq (c : Catalog) (names : List String) :
    c.selectFunctions names = c.functions.select Prod.mk .unknownFunction names := by
  induction names with
  | nil => rfl
  | cons name names ih =>
    rw [selectFunctions, Table.select, ih]
    cases c.functions.get? name <;> rfl

theorem selectOperators_eq (c : Catalog) (symbols : List String) :
    c.selectOperators symbols =
      c.operators.select (fun symbol op => ⟨symbol, symbol, op⟩) .unknownOperator symbols := by
  induction symbols with
  | nil => rfl
  | cons symbol symbols ih =>
    rw [selectOperators, Table.select, ih]
    cases c.operators.get? symbol <;> rfl

variable {c : Catalog}

theorem selectFunctions_registered {names : List String} {fs : List (String × Function)}
    (h : c.selectFunctions names = .ok fs) : ∀ e ∈ fs, c.functions.get? e.1 = some e.2 := by
  intro e he
  rw [selectFunctions_eq] at h
  obtain ⟨name, f, hf, rfl⟩ := Table.select_registered _ _ _ h e he
  exact hf

theorem selectOperators_registered {symbols : List String} {ops : List Config.OperatorEntry}
    (h : c.selectOperators symbols = .ok ops) :
    ∀ e ∈ ops, c.operators.get? e.key = some e.operator := by
  intro e he
  rw [selectOperators_eq] at h
  obtain ⟨symbol, op, hop, rfl⟩ := Table.select_registered _ _ _ h e he
  exact hop

end Catalog

theorem Config.tables_of_build {fs : List (String × Function)} {ops : List OperatorEntry} {p : Int}
    {implicit : String} {cfg : Config} (h : build fs ops p implicit = .ok cfg) :
    cfg.functions = Table.ofList fs ∧
      cfg.operators = (Table.ofList (ops.map fun e => (e.key, e))).map OperatorEntry.operator := by
  unfold build at h
  simp only at h
  split at h
  · cases h
    exact ⟨rfl, rfl⟩
  · cases h

/-- What a configuration calls by a name is what the catalog registers under it. -/
theorem Catalog.registered_of_configure {c : Catalog} {names symbols : List String} {cfg : Config}
    (h : c.configure names symbols = .ok cfg) :
    (∀ name f, cfg.functions.get? name = some f → c.functions.get? name = some f) ∧
      ∀ symbol op, cfg.operators.get? symbol = some op → c.operators.get? symbol = some op := by
  unfold configure at h
  obtain ⟨fs, hfs, h⟩ := ok_of_bind h
  obtain ⟨ops, hops, h⟩ := ok_of_bind h
  obtain ⟨hfunctions, hoperators⟩ := Config.tables_of_build (ok_of_mapError h)
  refine ⟨fun name f hf => ?_, fun symbol op hop => ?_⟩
  · rw [hfunctions] at hf
    exact selectFunctions_registered hfs _ (Table.mem_of_get?_ofList hf)
  · rw [hoperators, Table.get?_map] at hop
    obtain ⟨e, he, rfl⟩ := Option.map_eq_some_iff.1 hop
    obtain ⟨e', he', heq⟩ := List.mem_map.1 (Table.mem_of_get?_ofList he)
    cases heq
    exact selectOperators_registered hops e he'

/-- Whether an operator divides, so that a divisor of exactly zero is an error. -/
def Elementary.divides (symbol : String) : Bool := symbol == "/" || symbol == "%"

/-- A configuration that has nothing but elementary functions and operators. -/
structure Config.Elementary (cfg : Config) : Prop where
  function_ok : ∀ name f, cfg.functions.get? name = some f → ∀ x, ∃ y, f x = .ok y
  division : ∀ symbol op, cfg.operators.get? symbol = some op → ∀ a b,
    Elementary.divides symbol = true → (b == 0.0) = true →
      op.apply a b = .error (.formula (.divisionByZero symbol))
  operator_ok : ∀ symbol op, cfg.operators.get? symbol = some op → ∀ a b,
    (Elementary.divides symbol && b == 0.0) = false → ∃ x, op.apply a b = .ok x

theorem Elementary.function_ok {name : String} {f : Function}
    (h : Catalog.elementary.functions.get? name = some f) (x : Float) : ∃ y, f x = .ok y := by
  obtain ⟨e, _, he⟩ := List.mem_map.1 (Table.mem_of_get?_ofList h)
  cases he
  exact ⟨e.2 x, rfl⟩

theorem Elementary.operator_cases {symbol : String} {op : Operator}
    (h : Catalog.elementary.operators.get? symbol = some op) :
    (divides symbol = false ∧ ∀ a b, ∃ x, op.apply a b = .ok x) ∨
      divides symbol = true ∧ ∃ quotient : Float → Float → Float, ∀ a b, op.apply a b =
        if b == 0.0 then .error (.formula (.divisionByZero symbol)) else .ok (quotient a b) := by
  have hmem := Table.mem_of_get?_ofList h
  simp only [operators, List.mem_cons, Prod.mk.injEq, List.not_mem_nil, or_false] at hmem
  rcases hmem with ⟨rfl, rfl⟩ | ⟨rfl, rfl⟩ | ⟨rfl, rfl⟩ | ⟨rfl, rfl⟩ | ⟨rfl, rfl⟩ | ⟨rfl, rfl⟩
  · exact .inl ⟨by decide, fun a b => ⟨a + b, rfl⟩⟩
  · exact .inl ⟨by decide, fun a b => ⟨a - b, rfl⟩⟩
  · exact .inl ⟨by decide, fun a b => ⟨a * b, rfl⟩⟩
  · exact .inr ⟨by decide, (· / ·), fun _ _ => rfl⟩
  · exact .inl ⟨by decide, fun a b => ⟨power a b, rfl⟩⟩
  · exact .inr ⟨by decide, Binary64.remainder, fun _ _ => rfl⟩

theorem Catalog.elementary_of_configure {names symbols : List String} {cfg : Config}
    (h : elementary.configure names symbols = .ok cfg) : cfg.Elementary := by
  obtain ⟨hfunctions, hoperators⟩ := registered_of_configure h
  refine ⟨fun name f hf => Elementary.function_ok (hfunctions name f hf), ?_, ?_⟩
  · intro symbol op hop a b hdivides hb
    rcases Elementary.operator_cases (hoperators symbol op hop) with ⟨hno, _⟩ | ⟨_, quotient, hq⟩
    · rw [hno] at hdivides
      cases hdivides
    · rw [hq, if_pos hb]
  · intro symbol op hop a b hb
    rcases Elementary.operator_cases (hoperators symbol op hop) with ⟨_, hok⟩ | ⟨hyes, quotient, hq⟩
    · exact hok a b
    · rw [hyes, Bool.true_and] at hb
      refine ⟨quotient a b, ?_⟩
      rw [hq, hb]
      rfl

end Formulary
