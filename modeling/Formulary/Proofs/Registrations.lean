import Formulary.Proofs.Selection
/-!
# Registrations

A catalog is what has been registered in it: under each name and each symbol it has what was registered
there last. A configuration that is made after any registrations therefore has, under each of its names
and symbols, the function or operator of the last registration, and there is one exactly when all names
and symbols are registered and well formed.
-/

set_option autoImplicit false
namespace Formulary

/-- A function or operator that is entered in a catalog. -/
inductive Registration where
  | function (name : String) (f : Function)
  | operator (symbol : String) (op : Operator)

namespace Registration

def place : Registration → Catalog.Place
  | function name _ => .function name
  | operator symbol _ => .operator symbol

/-- The registrations that the elementary catalog comes from. -/
def elementary : List Registration :=
  (Elementary.functions.map fun e => function e.1 fun x => .ok (e.2 x)) ++
    Elementary.operators.map fun e => operator e.1 e.2

/-- All that has been registered in a catalog that began as the elementary one. -/
def history (rs : List Registration) : List Registration := elementary ++ rs

/-- Whether something has been registered for a place. -/
def Registered (rs : List Registration) (p : Catalog.Place) : Prop := p ∈ rs.map place

instance (rs : List Registration) : DecidablePred (Registered rs) :=
  fun p => inferInstanceAs (Decidable (p ∈ rs.map place))

/-- A registration that no later one replaces. -/
def Latest (rs : List Registration) (r : Registration) : Prop :=
  ∃ before after, rs = before ++ r :: after ∧ ∀ s ∈ after, s.place ≠ r.place

theorem not_latest_nil (r : Registration) : ¬ Latest [] r := by
  rintro ⟨before, after, h, -⟩
  exact List.append_ne_nil_of_right_ne_nil before (List.cons_ne_nil r after) h.symm

theorem latest_cons {s r : Registration} {rs : List Registration} :
    Latest (s :: rs) r ↔ Latest rs r ∨ r = s ∧ ∀ t ∈ rs, t.place ≠ r.place := by
  constructor
  · rintro ⟨before, after, h, hafter⟩
    rcases List.cons_eq_append_iff.1 h with ⟨rfl, h⟩ | ⟨before, rfl, rfl⟩
    · cases h
      exact .inr ⟨rfl, hafter⟩
    · exact .inl ⟨before, after, rfl, hafter⟩
  · rintro (⟨before, after, rfl, hafter⟩ | ⟨rfl, hrs⟩)
    · exact ⟨s :: before, after, rfl, hafter⟩
    · exact ⟨[], rs, rfl, hrs⟩

theorem exists_latest_iff {p : Catalog.Place} {rs : List Registration} :
    (∃ r, r.place = p ∧ Latest rs r) ↔ Registered rs p := by
  constructor
  · rintro ⟨r, rfl, before, after, rfl, -⟩
    exact List.mem_map_of_mem (List.mem_append_right before List.mem_cons_self)
  · intro h
    induction rs with
    | nil => cases h
    | cons s rs ih =>
      by_cases hrs : p ∈ rs.map place
      · obtain ⟨r, hr, hlatest⟩ := ih hrs
        exact ⟨r, hr, latest_cons.2 (.inl hlatest)⟩
      · rcases List.mem_cons.1 h with rfl | hmem
        · refine ⟨s, rfl, latest_cons.2 (.inr ⟨rfl, fun t ht heq => hrs ?_⟩)⟩
          exact heq ▸ List.mem_map_of_mem ht
        · exact absurd hmem hrs

end Registration

namespace Catalog
open Registration (Latest Registered history)

def register (c : Catalog) : Registration → Catalog
  | .function name f => c.registerFunction name f
  | .operator symbol op => c.registerOperator symbol op

def registerAll (c : Catalog) (rs : List Registration) : Catalog := rs.foldl register c

/-- Whether a catalog has what a registration enters, at its place. -/
def Holds (c : Catalog) : Registration → Prop
  | .function name f => c.functions.get? name = some f
  | .operator symbol op => c.operators.get? symbol = some op

theorem has_iff {c : Catalog} {p : Place} : c.Has p ↔ ∃ r : Registration, r.place = p ∧ c.Holds r := by
  cases p with
  | function name =>
    refine ⟨fun h => ?_, ?_⟩
    · obtain ⟨f, hf⟩ := Option.isSome_iff_exists.1 h
      exact ⟨.function name f, rfl, hf⟩
    · rintro ⟨⟨_, f⟩ | _, ⟨⟩, hf⟩
      exact Table.contains_of_get? hf
  | operator symbol =>
    refine ⟨fun h => ?_, ?_⟩
    · obtain ⟨op, hop⟩ := Option.isSome_iff_exists.1 h
      exact ⟨.operator symbol op, rfl, hop⟩
    · rintro ⟨_ | ⟨_, op⟩, ⟨⟩, hop⟩
      exact Table.contains_of_get? hop

/-- A registration enters what it says, in place of what was there, and leaves all other places alone. -/
theorem holds_register {c : Catalog} {s r : Registration} :
    (c.register s).Holds r ↔ r = s ∨ s.place ≠ r.place ∧ c.Holds r := by
  cases s with
  | function name f =>
    cases r with
    | function name' f' =>
      refine Table.get?_insert_eq_some_iff.trans ?_
      simp [Registration.place, Holds]
    | operator symbol op => simp [register, registerFunction, Holds, Registration.place]
  | operator symbol op =>
    cases r with
    | function name f => simp [register, registerOperator, Holds, Registration.place]
    | operator symbol' op' =>
      refine Table.get?_insert_eq_some_iff.trans ?_
      simp [Registration.place, Holds]

theorem holds_registerAll {c : Catalog} {rs : List Registration} {r : Registration} :
    (c.registerAll rs).Holds r ↔ Latest rs r ∨ (∀ s ∈ rs, s.place ≠ r.place) ∧ c.Holds r := by
  induction rs generalizing c with
  | nil =>
    have hnone := Registration.not_latest_nil r
    simp [registerAll, hnone]
  | cons s rs ih =>
    have hrest : (c.registerAll (s :: rs)).Holds r ↔ ((c.register s).registerAll rs).Holds r := .rfl
    rw [hrest, ih, holds_register, Registration.latest_cons, List.forall_mem_cons]
    tauto

theorem registerAll_append (c : Catalog) (rs rs' : List Registration) :
    c.registerAll (rs ++ rs') = (c.registerAll rs).registerAll rs' := List.foldl_append

def empty : Catalog := ⟨∅, ∅⟩

theorem not_holds_empty (r : Registration) : ¬ empty.Holds r := by
  cases r <;> nofun

theorem registerAll_functions {α : Type} (c : Catalog) (entry : α → String × Function) (as : List α) :
    c.registerAll (as.map fun a => .function (entry a).1 (entry a).2) =
      { c with functions := c.functions.insertAll (as.map entry) } := by
  induction as generalizing c with
  | nil => rfl
  | cons a as ih => exact ih (c.registerFunction (entry a).1 (entry a).2)

theorem registerAll_operators (c : Catalog) (es : List (String × Operator)) :
    c.registerAll (es.map fun e => .operator e.1 e.2) =
      { c with operators := c.operators.insertAll es } := by
  induction es generalizing c with
  | nil => rfl
  | cons e es ih => exact ih (c.registerOperator e.1 e.2)

theorem registerAll_elementary : empty.registerAll Registration.elementary = elementary := by
  have hfunctions := registerAll_functions empty
    (fun e : String × (Float → Float) => (e.1, fun x => .ok (e.2 x))) Elementary.functions
  unfold Registration.elementary
  rw [registerAll_append]
  exact (congrArg (registerAll · _) hfunctions).trans (registerAll_operators _ _)

/-- What a catalog has at a place is what was registered there last. -/
theorem holds_iff_latest (rs : List Registration) (r : Registration) :
    (elementary.registerAll rs).Holds r ↔ Latest (history rs) r := by
  rw [← registerAll_elementary, ← registerAll_append]
  exact holds_registerAll.trans (or_iff_left fun h => not_holds_empty r h.2)

theorem has_eq_registered (rs : List Registration) :
    (elementary.registerAll rs).Has = Registered (history rs) := by
  funext p
  rw [has_iff, ← Registration.exists_latest_iff]
  simp only [holds_iff_latest]

end Catalog

namespace Config
open Registration (Latest)

/-- Whether a configuration has each of the given names and symbols once, in the order of their first
occurrences, and under each of them what was registered there last. -/
structure DrawnFrom (cfg : Config) (rs : List Registration) (names symbols : List String) : Prop where
  functionNames : cfg.functions.keys = names.eraseDups
  operatorSymbols : cfg.operators.keys = symbols.eraseDups
  function_latest : ∀ name ∈ names, ∃ f, cfg.functions.get? name = some f ∧
    Latest rs (.function name f)
  operator_latest : ∀ symbol ∈ symbols, ∃ op, cfg.operators.get? symbol = some op ∧
    Latest rs (.operator symbol op)

theorem drawnFrom_of_configure {cfg : Config} {rs : List Registration} {names symbols : List String}
    (h : (Catalog.elementary.registerAll rs).configure names symbols = .ok cfg)
    (hnames : cfg.functions.keys = names.eraseDups)
    (hsymbols : cfg.operators.keys = symbols.eraseDups) :
    cfg.DrawnFrom (Registration.history rs) names symbols := by
  obtain ⟨hfunctions, hoperators⟩ := Catalog.registered_of_configure h
  refine ⟨hnames, hsymbols, fun name hname => ?_, fun symbol hsymbol => ?_⟩
  · obtain ⟨f, hf⟩ := Table.exists_of_keys_eq hnames hname
    exact ⟨f, hf, (Catalog.holds_iff_latest rs (.function name f)).1 (hfunctions name f hf)⟩
  · obtain ⟨op, hop⟩ := Table.exists_of_keys_eq hsymbols hsymbol
    exact ⟨op, hop, (Catalog.holds_iff_latest rs (.operator symbol op)).1 (hoperators symbol op hop)⟩

end Config

namespace Catalog
open Registration (Latest Registered history)

/-- After any registrations there is a configuration of names and symbols exactly when all of them are
registered and well formed, and it is drawn from the last registrations. Otherwise there is an error that
says what is missing or malformed. -/
theorem configure_registered (rs : List Registration) (names symbols : List String) :
    ((∃ cfg, (elementary.registerAll rs).configure names symbols = .ok cfg) ↔
      Accepts (Registered (history rs)) names symbols) ∧
    (∀ cfg, (elementary.registerAll rs).configure names symbols = .ok cfg →
      cfg.DrawnFrom (history rs) names symbols) ∧
    (¬ Accepts (Registered (history rs)) names symbols →
      ∃ e, (elementary.registerAll rs).configure names symbols = .error e ∧
        Refuses (Registered (history rs)) names symbols e) := by
  rw [← has_eq_registered]
  rcases configure_cases (elementary.registerAll rs) names symbols with
    ⟨e, he, hrefuses⟩ | ⟨cfg, hcfg, haccepts, hnames, hsymbols⟩
  · rw [he]
    exact ⟨iff_of_false nofun hrefuses.not_accepts, nofun, fun _ => ⟨e, rfl, hrefuses⟩⟩
  · refine ⟨iff_of_true ⟨cfg, hcfg⟩ haccepts, ?_, fun h => absurd haccepts h⟩
    intro cfg' hcfg'
    cases Except.ok.inj (hcfg.symm.trans hcfg')
    exact Config.drawnFrom_of_configure hcfg hnames hsymbols

/-- A new operator, the logarithm to another base, a name that no function can have, and the operator once
more. -/
def severalRegistrations : List Registration :=
  [.operator "&" ⟨1, fun a b => .ok (a + b)⟩, .function "log" fun x => .ok x.log2,
    .function "2x" fun x => .ok (2.0 * x), .operator "&" ⟨9, fun a b => .ok (a - b)⟩]

theorem configure_registered_again :
    (∃ cfg, (elementary.registerAll severalRegistrations).configure ["log", "sin", "log"]
        ["&", "+", "&"] = .ok cfg ∧ cfg.functions.keys = ["log", "sin"] ∧
      cfg.operators.keys = ["&", "+"] ∧
      cfg.operators.get? "&" = some ⟨9, fun a b => .ok (a - b)⟩) ∧
    (elementary.registerAll severalRegistrations).configure ["sin", "2x"] ["+"] =
      .error (.invalid [.refused "functions" "invalid function name: '2x'"]) := by
  constructor
  · obtain ⟨hiff, hdrawn, -⟩ :=
      configure_registered severalRegistrations ["log", "sin", "log"] ["&", "+", "&"]
    obtain ⟨cfg, hcfg⟩ := hiff.2 (by decide +kernel)
    have hfrom := hdrawn cfg hcfg
    obtain ⟨op, hop, hlatest⟩ := hfrom.operator_latest "&" List.mem_cons_self
    have hlast : Latest (history severalRegistrations) (.operator "&" ⟨9, fun a b => .ok (a - b)⟩) :=
      ⟨history (severalRegistrations.take 3), [], rfl, nofun⟩
    have hsame := ((holds_iff_latest _ _).2 hlatest).symm.trans ((holds_iff_latest _ _).2 hlast)
    exact ⟨cfg, hcfg, hfrom.functionNames, hfrom.operatorSymbols, hop.trans hsame⟩
  · obtain ⟨-, -, hrefused⟩ := configure_registered severalRegistrations ["sin", "2x"] ["+"]
    obtain ⟨e, he, hrefuses⟩ := hrefused (by decide +kernel)
    obtain ⟨-, rfl⟩ := hrefuses.eq_invalid (by decide +kernel) (by decide +kernel)
    rw [he]
    exact congrArg (Except.error ∘ ConfigError.invalid) (by decide +kernel)

end Catalog
end Formulary
