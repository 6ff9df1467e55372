import Formulary.Proofs.CatalogConfigs
import Formulary.Proofs.ConfigNames
import Formulary.Proofs.ExpressionText
/-!
# Selections from a catalog

A configuration is made of names and symbols that a catalog has and that are well formed. It has each of
them once, in the order of their first occurrences. Otherwise the first name that the catalog does not
have is reported, or else the first such symbol, or else what is malformed.
-/

set_option autoImplicit false
namespace Formulary

namespace Table

theorem keys_insertAll {α : Type} (es : List (String × α)) (t : Table String α) :
    (t.insertAll es).keys = (es.map Prod.fst).foldl Token.addName t.keys := by
  induction es generalizing t with
  | nil => rfl
  | cons e es ih =>
    have hrest : (t.insertAll (e :: es)).keys = ((t.insert e.1 e.2).insertAll es).keys := rfl
    rw [hrest, ih, keys_insert]
    rfl

theorem keys_ofList {α : Type} (es : List (String × α)) :
    (ofList es).keys = (es.map Prod.fst).eraseDups := by
  have hkeys : (ofList es).keys = (es.map Prod.fst).foldl Token.addName [] := keys_insertAll es empty
  rw [hkeys, foldl_addName]
  simp

theorem exists_of_keys_eq {α : Type} {t : Table String α} {ks : List String}
    (h : t.keys = ks.eraseDups) {k : String} (hk : k ∈ ks) : ∃ v, t.get? k = some v :=
  exists_of_mem_keys (h ▸ List.mem_eraseDups.2 hk)

end Table

theorem find?_eraseDups {α : Type} [BEq α] [LawfulBEq α] (p : α → Bool) (xs : List α) :
    xs.eraseDups.find? p = xs.find? p := by
  cases h : xs.find? p with
  | none =>
    rw [List.find?_eq_none] at h ⊢
    exact fun x hx => h x (List.mem_eraseDups.1 hx)
  | some x =>
    obtain ⟨hx, before, after, rfl, hbefore⟩ := List.find?_eq_some_iff_append.1 h
    -- The first hit is new where it stands, so it is not erased.
    have hnew : x ∉ before := fun hmem => by simpa [hx] using hbefore x hmem
    rw [List.eraseDups_append, List.find?_append]
    have hnone : before.eraseDups.find? p = none :=
      List.find?_eq_none.2 fun y hy => by simpa using hbefore y (List.mem_eraseDups.1 hy)
    rw [hnone, Option.none_or, List.removeAll, List.filter_cons_of_pos (by simpa using hnew),
      List.eraseDups_cons, List.find?_cons_of_pos hx]

namespace Config

/-- What is wrong with the names and symbols of a configuration: the first name and the first symbol that
are not well formed. -/
def malformed (names symbols : List String) : List FieldFault :=
  (names.find? fun n => !isFunctionName n).toList.map
      (fun n => .refused "functions" ("invalid function name: " ++ Text.quoted n)) ++
    (symbols.find? fun s => !isOperatorSymbol s).toList.map
      (fun s => .refused "operators" ("invalid operator symbol: " ++ Text.quoted s))

theorem malformed_eraseDups (names symbols : List String) :
    malformed names.eraseDups symbols.eraseDups = malformed names symbols := by
  unfold malformed
  rw [find?_eraseDups, find?_eraseDups]

theorem malformed_eq_nil_iff {names symbols : List String} : malformed names symbols = [] ↔
    (∀ name ∈ names, isFunctionName name = true) ∧
      ∀ symbol ∈ symbols, isOperatorSymbol symbol = true := by
  simp [malformed, List.find?_eq_none]

theorem OperatorEntry.fault?_of_symbol {e : OperatorEntry} (h : e.symbol = e.key) :
    e.fault? = if isOperatorSymbol e.key then none
      else some ("invalid operator symbol: " ++ Text.quoted e.key) := by
  unfold fault?
  cases isOperatorSymbol e.key with
  | true => exact if_neg (not_not.2 h)
  | false => rfl

/-- Operators under their keys. -/
def entries (ops : List OperatorEntry) : Table String OperatorEntry :=
  Table.ofList (ops.map fun e => (e.key, e))

section
variable {fs : List (String × Function)} {ops : List OperatorEntry}

theorem mem_of_get?_entries {k : String} {e : OperatorEntry} (h : (entries ops).get? k = some e) :
    e ∈ ops ∧ e.key = k := by
  obtain ⟨e', he', heq⟩ := List.mem_map.1 (Table.mem_of_get?_ofList h)
  cases heq
  exact ⟨he', rfl⟩

theorem keys_entries : (entries ops).keys = (ops.map OperatorEntry.key).eraseDups := by
  unfold entries
  rw [Table.keys_ofList, List.map_map]
  rfl

theorem keys_entries_eq_map : (entries ops).keys = (entries ops).values.map OperatorEntry.key :=
  Table.keys_eq_map_values fun _ _ he => (mem_of_get?_entries he).2

/-- Operators that name themselves by their keys are refused for their keys only. -/
theorem faults_eq_malformed (h : ∀ e ∈ ops, e.symbol = e.key) :
    faults (Table.ofList fs) (entries ops) =
      malformed (fs.map Prod.fst) (ops.map OperatorEntry.key) := by
  rw [← malformed_eraseDups, ← Table.keys_ofList, ← keys_entries, keys_entries_eq_map]
  have hvalues : ∀ e ∈ (entries ops).values, e.symbol = e.key := by
    intro e he
    obtain ⟨k, hk⟩ := Table.get?_of_mem_values he
    exact h e (mem_of_get?_entries hk).1
  unfold faults malformed
  congr 1
  generalize (entries ops).values = es at hvalues
  induction es with
  | nil => rfl
  | cons e es ih =>
    obtain ⟨he, hes⟩ := List.forall_mem_cons.1 hvalues
    rw [List.findSome?_cons, OperatorEntry.fault?_of_symbol he, List.map_cons, List.find?_cons]
    cases isOperatorSymbol e.key with
    | true => exact ih hes
    | false => rfl

theorem OperatorEntry.isOperatorSymbol_key {e : OperatorEntry} (h : e.fault? = none) :
    isOperatorSymbol e.key = true := by
  unfold fault? at h
  cases hsymbol : isOperatorSymbol e.key with
  | true => rfl
  | false =>
    rw [hsymbol] at h
    cases h

theorem faults_eq_nil_iff {functions : Table String Function} :
    faults functions (entries ops) = [] ↔ (∀ name ∈ functions.keys, isFunctionName name = true) ∧
      (∀ symbol ∈ ((entries ops).map OperatorEntry.operator).keys, isOperatorSymbol symbol = true) ∧
        (entries ops).values.all (·.fault?.isNone) = true := by
  have hfaults : faults functions (entries ops) = [] ↔
      (∀ name ∈ functions.keys, isFunctionName name = true) ∧
        ∀ e ∈ (entries ops).values, e.fault? = none := by
    simp [faults, List.find?_eq_none]
  have hall : (entries ops).values.all (·.fault?.isNone) = true ↔
      ∀ e ∈ (entries ops).values, e.fault? = none := by
    simp
  rw [hfaults, hall, Table.keys_map, keys_entries_eq_map]
  refine and_congr_right fun _ => ⟨fun h => ⟨fun symbol hsymbol => ?_, h⟩, And.right⟩
  obtain ⟨e, he, rfl⟩ := List.mem_map.1 hsymbol
  exact e.isOperatorSymbol_key (h e he)

/-- Functions and operators make a configuration exactly when there is no fault in them. -/
theorem build_cases (fs : List (String × Function)) (ops : List OperatorEntry) (precedence : Int)
    (implicit : String) :
    (faults (Table.ofList fs) (entries ops) ≠ [] ∧
      build fs ops precedence implicit = .error (faults (Table.ofList fs) (entries ops))) ∨
    faults (Table.ofList fs) (entries ops) = [] ∧ ∃ cfg, build fs ops precedence implicit = .ok cfg := by
  unfold build
  simp only
  split
  · rename_i h
    exact .inr ⟨faults_eq_nil_iff.2 h, _, rfl⟩
  · rename_i h
    exact .inl ⟨fun hnone => h (faults_eq_nil_iff.1 hnone), rfl⟩

theorem build_of_symbols {names symbols : List String} (hfs : fs.map Prod.fst = names)
    (hkeys : ops.map OperatorEntry.key = symbols) (hsymbols : ops.map OperatorEntry.symbol = symbols)
    (precedence : Int) (implicit : String) :
    (malformed names symbols ≠ [] ∧
      build fs ops precedence implicit = .error (malformed names symbols)) ∨
    malformed names symbols = [] ∧ ∃ cfg, build fs ops precedence implicit = .ok cfg ∧
      cfg.functions.keys = names.eraseDups ∧ cfg.operators.keys = symbols.eraseDups := by
  have hfaults : faults (Table.ofList fs) (entries ops) = malformed names symbols := by
    rw [← hfs, ← hkeys]
    exact faults_eq_malformed (List.map_inj_left.1 (hsymbols.trans hkeys.symm))
  rw [← hfaults]
  refine (build_cases fs ops precedence implicit).imp_right fun ⟨hnone, cfg, hcfg⟩ => ?_
  obtain ⟨hfunctions, hoperators⟩ := tables_of_build hcfg
  refine ⟨hnone, cfg, hcfg, ?_, ?_⟩
  · rw [hfunctions, Table.keys_ofList, hfs]
  · rw [hoperators, Table.keys_map]
    exact keys_entries.trans (congrArg List.eraseDups hkeys)

end
end Config

namespace Catalog

/-- Where a catalog has a function or an operator. -/
inductive Place where
  | function (name : String)
  | operator (symbol : String)
  deriving DecidableEq

/-- Names and symbols that are all there and well formed: a name is a letter and then letters, digits and
low lines, a symbol a single character that is no letter, numeral, blank, parenthesis or point. -/
structure Accepts (present : Place → Prop) (names symbols : List String) : Prop where
  names_present : ∀ name ∈ names, present (.function name)
  names_formed : ∀ name ∈ names, ∃ c cs, name.toList = c :: cs ∧ c.isAlpha = true ∧
    ∀ d ∈ cs, d.isAlphanum = true ∨ d = '_'
  symbols_present : ∀ symbol ∈ symbols, present (.operator symbol)
  symbols_formed : ∀ symbol ∈ symbols, ∃ c, symbol = String.singleton c ∧ Text.isAlphanumeric c = false ∧
    Text.isBlank c = false ∧ c ≠ '(' ∧ c ≠ ')' ∧ c ≠ '.'

theorem accepts_iff {present : Place → Prop} {names symbols : List String} :
    Accepts present names symbols ↔ (∀ name ∈ names, present (.function name)) ∧
      (∀ symbol ∈ symbols, present (.operator symbol)) ∧ Config.malformed names symbols = [] := by
  rw [Config.malformed_eq_nil_iff]
  constructor
  · intro h
    refine ⟨h.names_present, h.symbols_present, fun name hname => ?_, fun symbol hsymbol => ?_⟩
    · exact isFunctionName_iff.2 (h.names_formed name hname)
    · exact isOperatorSymbol_iff.2 (h.symbols_formed symbol hsymbol)
  · rintro ⟨hnames, hsymbols, hnames', hsymbols'⟩
    exact ⟨hnames, fun name hname => isFunctionName_iff.1 (hnames' name hname), hsymbols,
      fun symbol hsymbol => isOperatorSymbol_iff.1 (hsymbols' symbol hsymbol)⟩

instance (present : Place → Prop) [DecidablePred present] (names symbols : List String) :
    Decidable (Accepts present names symbols) := decidable_of_iff' _ accepts_iff

/-- Why there is no configuration of names and symbols: the first name that is missing is reported, or else
the first symbol that is missing, or else what is not well formed. -/
inductive Refuses (present : Place → Prop) (names symbols : List String) : ConfigError → Prop where
  | function {before after : List String} {name : String} (split : names = before ++ name :: after)
      (names_present : ∀ n ∈ before, present (.function n)) (missing : ¬ present (.function name)) :
      Refuses present names symbols (.unknownFunction name)
  | operator {before after : List String} {symbol : String}
      (names_present : ∀ n ∈ names, present (.function n)) (split : symbols = before ++ symbol :: after)
      (symbols_present : ∀ s ∈ before, present (.operator s)) (missing : ¬ present (.operator symbol)) :
      Refuses present names symbols (.unknownOperator symbol)
  | malformed (names_present : ∀ n ∈ names, present (.function n))
      (symbols_present : ∀ s ∈ symbols, present (.operator s))
      (malformed : Config.malformed names symbols ≠ []) :
      Refuses present names symbols (.invalid (Config.malformed names symbols))

namespace Refuses
variable {present : Place → Prop} {names symbols : List String} {e : ConfigError}

theorem eq_invalid (h : Refuses present names symbols e) (hnames : ∀ n ∈ names, present (.function n))
    (hsymbols : ∀ s ∈ symbols, present (.operator s)) :
    Config.malformed names symbols ≠ [] ∧ e = .invalid (Config.malformed names symbols) := by
  cases h with
  | function split _ missing =>
    subst split
    exact absurd (hnames _ (List.mem_append_right _ List.mem_cons_self)) missing
  | operator _ split _ missing =>
    subst split
    exact absurd (hsymbols _ (List.mem_append_right _ List.mem_cons_self)) missing
  | malformed _ _ hmalformed => exact ⟨hmalformed, rfl⟩

theorem not_accepts (h : Refuses present names symbols e) : ¬ Accepts present names symbols := by
  rw [accepts_iff]
  rintro ⟨hnames, hsymbols, hmalformed⟩
  exact (h.eq_invalid hnames hsymbols).1 hmalformed

end Refuses

/-- Whether a catalog has something at a place. -/
def Has (c : Catalog) : Place → Prop
  | .function name => c.functions.contains name = true
  | .operator symbol => c.operators.contains symbol = true

/-- A catalog makes a configuration of names and symbols that it accepts, and refuses all others. -/
theorem configure_cases (c : Catalog) (names symbols : List String) :
    (∃ e, c.configure names symbols = .error e ∧ Refuses c.Has names symbols e) ∨
    ∃ cfg, c.configure names symbols = .ok cfg ∧ Accepts c.Has names symbols ∧
      cfg.functions.keys = names.eraseDups ∧ cfg.operators.keys = symbols.eraseDups := by
  unfold configure
  rw [selectFunctions_eq, selectOperators_eq]
  -- All names are looked up before the first symbol, and all symbols before anything is checked.
  rcases c.functions.select_cases Prod.mk .unknownFunction names with
    ⟨fs, hfs, hnames, hfirst⟩ | ⟨before, name, after, rfl, hbefore, hmissing, herror⟩
  · rcases c.operators.select_cases (fun symbol op => Config.OperatorEntry.mk symbol symbol op)
        .unknownOperator symbols with
      ⟨ops, hops, hsymbols, hkeys⟩ | ⟨before, symbol, after, rfl, hbefore, hmissing, herror⟩
    · rw [hfs, hops]
      rcases Config.build_of_symbols (hfirst Prod.fst fun _ _ => rfl) (hkeys _ fun _ _ => rfl)
          (hkeys _ fun _ _ => rfl) Config.defaultFunctionPrecedence Config.defaultImplicitOperator with
        ⟨hmalformed, hbuild⟩ | ⟨hnone, cfg, hbuild, htables⟩
      · refine .inl ⟨_, ?_, .malformed hnames hsymbols hmalformed⟩
        exact congrArg (Except.mapError ConfigError.invalid) hbuild
      · refine .inr ⟨cfg, ?_, accepts_iff.2 ⟨hnames, hsymbols, hnone⟩, htables⟩
        exact congrArg (Except.mapError ConfigError.invalid) hbuild
    · rw [hfs, herror]
      exact .inl ⟨_, rfl, .operator hnames rfl hbefore (Bool.eq_false_iff.1 hmissing)⟩
  · rw [herror]
    exact .inl ⟨_, rfl, .function rfl hbefore (Bool.eq_false_iff.1 hmissing)⟩

end Catalog
end Formulary
