import Formulary.Proofs.CalculationOutcome
import Formulary.Proofs.JournalReading
import Formulary.Proofs.PreparedEvents
import Formulary.Session
/-!
# The record of a calculation

A calculation adds one line to the journal, if one is attached and can be written: the record of an
event about the formula, which has all the context that it must have.
-/

set_option autoImplicit false
namespace Formulary

namespace Context

/-- Data that can be written once they are sanitized, and read back. -/
structure Recordable (d : Datum) : Prop where
  legible : (strict (clean d)).Legible
  converts : Json.dumpError? (clean d) = none

theorem recordable_null : Recordable .null := ⟨.null, rfl⟩

theorem recordable_text (s : String) : Recordable (.text s) := ⟨.text _, rfl⟩

theorem recordable_float (x : Float) : Recordable (.float x) := by
  by_cases hfinite : Binary64.isFinite x = true
  · have hclean : clean (.float x) = .float x := if_pos hfinite
    constructor
    · rw [hclean, strict, if_pos hfinite]
      exact .float hfinite
    · rw [hclean]
      rfl
  · have hclean : clean (.float x) = .text (Decimal.text x) := if_neg hfinite
    constructor
    · rw [hclean]
      exact .text _
    · rw [hclean]
      rfl

theorem recordable_list {items : List Datum} (h : ∀ d ∈ items, Recordable d) :
    Recordable (.list items) := by
  constructor
  · rw [clean_list, strict, strictItems_eq, List.map_map]
    refine .list fun d hd => ?_
    obtain ⟨item, hitem, rfl⟩ := List.mem_map.1 hd
    exact (h item hitem).legible
  · rw [clean_list]
    refine Json.itemsError?_eq_none.2 fun d hd => ?_
    obtain ⟨item, hitem, rfl⟩ := List.mem_map.1 hd
    exact (h item hitem).converts

theorem strict_clean_ofFields {fields : List (String × Datum)} (hn : (fields.map Prod.fst).Nodup) :
    strict (clean (.ofFields fields)) = .ofFields (fields.map fun f => (f.1, strict (clean f.2))) := by
  have hkeys : ((fields.map fun f => (f.1, clean f.2)).map Prod.fst).Nodup := by
    rw [List.map_map]
    exact hn
  rw [clean_ofFields, strict_ofFields hkeys, List.map_map]
  rfl

theorem recordable_entries {t : Table String Datum} (h : ∀ d ∈ t.values, Recordable d) :
    Recordable (.ofFields t.entries) := by
  constructor
  · rw [strict_clean_ofFields t.nodup]
    refine Datum.legible_ofFields ?_ ?_
    · rw [List.map_map]
      exact t.nodup
    · intro f hf
      obtain ⟨g, hg, rfl⟩ := List.mem_map.1 hf
      exact (h g.2 (List.mem_map_of_mem hg)).legible
  · rw [clean_ofFields, Json.dumpError?_ofFields, List.map_map]
    intro d hd
    obtain ⟨f, hf, rfl⟩ := List.mem_map.1 hd
    exact (h f.2 (List.mem_map_of_mem hf)).converts

end Context

/-- Bindings that can be read back from the record of an event. -/
def Bindings.Recordable (b : Bindings) : Prop := ∀ d ∈ b.values, Context.Recordable d

theorem Bindings.Floating.recordable {b : Bindings} (h : b.Floating) : b.Recordable := by
  intro d hd
  obtain ⟨x, rfl⟩ := h d hd
  exact Context.recordable_float x

namespace Event

/-- An event about a formula that lacks nothing, and whose context can be read back once it is
sanitized. -/
structure About (formula : Datum) (e : Event) : Prop where
  version : e.schemaVersion = currentVersion
  formula : e.context.get? "formula" = some formula
  complete : e.missing = []
  recordable : ∀ d ∈ e.context.values, Context.Recordable d

namespace About
variable {formula : Datum} {e : Event}

theorem prepared (h : e.About formula) : e.prepared = { e with context := e.context.sanitize } :=
  prepared_of_complete h.complete

theorem legible_prepared (h : e.About formula) : e.prepared.Legible := by
  have hvalues : e.context.sanitize.values = e.context.values.map Context.clean :=
    Table.values_map Context.clean e.context
  rw [h.prepared]
  refine ⟨?_, ?_, ?_⟩
  · simp only [h.version]
    exact currentVersion_lt
  · rw [hvalues, List.forall_mem_map]
    exact fun d hd => (h.recordable d hd).legible
  · rw [hvalues, List.forall_mem_map]
    exact fun d hd => (h.recordable d hd).converts

end About

section
variable {stamp message : String} {kind : EventKind} {level : Level} {errorCode : Option String}

theorem about_forFormula {formula : Datum} {more : List (String × Datum)}
    (hformula : Context.Recordable formula) (hnew : "formula" ∉ more.map Prod.fst)
    (hmore : ∀ f ∈ more, Context.Recordable f.2)
    (hcomplete : (forFormula stamp kind level message formula errorCode more).missing = []) :
    (forFormula stamp kind level message formula errorCode more).About formula where
  version := rfl
  formula := by
    change (formulaContext formula more).get? "formula" = some formula
    unfold formulaContext
    rw [Table.get?_insertAll_of_not_mem hnew]
    rfl
  complete := hcomplete
  recordable d hd := by
    obtain ⟨k, hk⟩ := Table.get?_of_mem_values hd
    rcases Table.get?_insertAll hk with hmem | hfirst
    · exact hmore _ hmem
    · have hpair := List.mem_singleton.1 (Table.mem_of_get?_ofList hfirst)
      cases hpair
      exact hformula

end

theorem about_ofCalculation (stamp formula : String) {b : Bindings} (hb : b.Recordable)
    (c : Calculation) : (ofCalculation stamp (.text formula) b c).About (.text formula) := by
  have hformula := Context.recordable_text formula
  have hbindings : Context.Recordable (.ofFields b.entries) := Context.recordable_entries hb
  obtain ⟨outcome, markup, names⟩ := c
  unfold ofCalculation
  rcases outcome with (missing | e) | value
  · refine about_forFormula hformula (by simp) ?_ rfl
    refine List.forall_mem_singleton.2 (Context.recordable_list fun d hd => ?_)
    obtain ⟨name, -, rfl⟩ := List.mem_map.1 hd
    exact Context.recordable_text name
  · exact about_forFormula hformula (by simp) (List.forall_mem_singleton.2 hbindings) rfl
  · have hvalue : Context.Recordable ((value.map Datum.float).getD .null) := by
      cases value with
      | none => exact Context.recordable_null
      | some x => exact Context.recordable_float x
    exact about_forFormula hformula (by simp)
      (List.forall_mem_cons.2 ⟨hbindings, List.forall_mem_singleton.2 hvalue⟩) rfl

end Event

theorem Calculation.outcome_of_failure? {c : Calculation} {f : Failure} (h : c.failure? = some f) :
    c.outcome = .error f := by
  unfold failure? at h
  split at h
  · rename_i heq
    cases h
    exact heq
  · cases h

theorem Calculation.outcome_of_no_failure {c : Calculation} (h : c.failure? = none) :
    ∃ value, c.outcome = .ok value := by
  unfold failure? at h
  split at h
  · cases h
  · rename_i value heq
    exact ⟨value, heq⟩

theorem Config.Reports.event {cfg : Config} {formula : String} {b : Bindings} {c : Calculation}
    {r : Report} (h : cfg.Reports formula b c r) (stamp : String) (d : Datum) :
    r = ⟨(Event.ofCalculation stamp d b c).kind, (Event.ofCalculation stamp d b c).level,
      (Event.ofCalculation stamp d b c).errorCode⟩ := by
  unfold Event.ofCalculation
  cases h with
  | unbound _ _ failure =>
    rw [Calculation.outcome_of_failure? failure]
    rfl
  | failed _ _ _ failure =>
    rw [Calculation.outcome_of_failure? failure]
    rfl
  | evaluated _ _ _ failure =>
    obtain ⟨value, hvalue⟩ := Calculation.outcome_of_no_failure failure
    rw [hvalue]
    rfl

/-- A single line with the record of an event that says this. -/
structure Report.Line (r : Report) (line : String) : Prop where
  single : ∀ c ∈ line.toList, Text.isLineEnd c = false
  fields : ∃ record, Json.parse line.toList = .ok (.map record) ∧
    Datum.field? "event_type" record = some (.text r.kind.name) ∧
    Datum.field? "level" record = some (.text r.level.name) ∧
    Datum.field? "error_code" record = some ((r.errorCode.map Datum.text).getD .null)

theorem Event.Legible.line {e : Event} (h : e.Legible) :
    Report.Line ⟨e.kind, e.level, e.errorCode⟩ (Json.line e.record) where
  single := Journal.isLineEnd_lineChars e
  fields := ⟨e.written, parse_record h, kind_written e, level_written e, errorCode_written e⟩

namespace Session
variable {time : Type} [Clock time] {s : Session time} {j : Journal} {old : Option String}

theorem warn_cases (s : Session time) (message : String) :
    ∃ last errors, s.warn message = { s with lastWarning := last, errors := errors } := by
  unfold warn
  split
  · exact ⟨s.lastWarning, s.errors, rfl⟩
  · exact ⟨_, _, rfl⟩

theorem emit_cases (s : Session time) (e : Event) : ∃ files last errors,
    s.emit e = { s with files := files, lastWarning := last, errors := errors } := by
  unfold emit
  split
  · exact ⟨s.files, s.lastWarning, s.errors, rfl⟩
  · split
    · exact ⟨_, s.lastWarning, s.errors, rfl⟩
    · obtain ⟨last, errors, hwarn⟩ := s.warn_cases _
      exact ⟨s.files, last, errors, hwarn⟩

theorem emit_of_holds (hj : s.journal = some j) (hold : s.files.Holds j.path old) {e : Event}
    (he : e.prepared.Legible) : ∃ files, s.emit e = { s with files } ∧
      files.Holds j.path (some (old.getD "" ++ Journal.lineOf e.prepared)) := by
  obtain ⟨files, hwrite, hholds⟩ := Journal.write_of_holds hold he
  refine ⟨files, ?_, hholds⟩
  unfold emit
  simp only [hj, hwrite]

theorem calculate_text {cfg : Config} {formula : String} {b : Bindings} {c : Calculation}
    (h : cfg.calculate formula b = .ok c) (s : Session time) : s.calculate cfg (.text formula) b =
      (.ok c, s.emit (.ofCalculation s.stamp (.text formula) b c)) := by
  unfold calculate Datum.formulaText
  simp only [h]

theorem calculate_fst (cfg : Config) (formula : String) (b : Bindings) (s : Session time) :
    (s.calculate cfg (.text formula) b).1 = (cfg.calculate formula b).mapError .operand := by
  cases hc : cfg.calculate formula b with
  | ok c =>
    rw [calculate_text hc]
    rfl
  | error e =>
    unfold calculate Datum.formulaText
    simp only [hc]
    rfl

/-- With a configuration from the elementary catalog and numbers for the bound names, every formula has
a calculation of exactly one shape. In a session with a journal that can be written it adds one line,
which says so. -/
theorem calculate_line {names symbols : List String} {cfg : Config}
    (hcfg : Catalog.elementary.configure names symbols = .ok cfg) (formula : String) {b : Bindings}
    (hb : b.Floating) : ∃ c r,
      (cfg.Reports formula b c r ∧ ∀ r', cfg.Reports formula b c r' → r' = r) ∧
      ∀ {time : Type} [Clock time] (s : Session time), ∃ s',
        s.calculate cfg (.text formula) b = (.ok c, s') ∧
        ∀ j old, s.journal = some j → s.files.Holds j.path old → ∃ line, r.Line line ∧
          s'.files.Holds j.path (some (old.getD "" ++ line ++ "\n")) := by
  obtain ⟨c, r, hc, hr⟩ := Config.calculate_reports (Catalog.elementary_of_configure hcfg) formula hb
  refine ⟨c, r, ⟨hr, fun r' hr' => hr'.unique hr⟩, fun s => ⟨_, calculate_text hc s, ?_⟩⟩
  intro j old hj hold
  -- the event lacks nothing, so it keeps its level when it is prepared
  have habout := Event.about_ofCalculation s.stamp formula hb.recordable c
  generalize he : Event.ofCalculation s.stamp (.text formula) b c = e at habout
  obtain ⟨files, hemit, hholds⟩ := emit_of_holds hj hold habout.legible_prepared
  have hline := habout.legible_prepared.line
  rw [habout.prepared] at hline hholds
  rw [hr.event s.stamp (.text formula), he, hemit]
  refine ⟨_, hline, ?_⟩
  rw [String.append_assoc]
  exact hholds

/-- A session whose journal has been opened and holds nothing yet. -/
def begun (tailBytes : Int) : Session Rat where
  files := Journal.projectFiles none
  journal := some (.inProject tailBytes)
  stamp := "2024-01-01T00:00:00.000000Z"
  now := 0
  lastWarning := none
  errors := ""
  errorsOpen := true

theorem calculate_line_unbound : ∃ c s' line,
    (begun Project.defaultTailBytes).calculate .standard (.text "x/0") .empty = (.ok c, s') ∧
      c.failure? = some (.unbound ["x"]) ∧
      Report.Line ⟨.variablesMissing, .warning, some "unbound_variables"⟩ line ∧
      s'.files.Holds (Journal.pathIn ["p"]) (some (line ++ "\n")) := by
  have hunbound : Config.standard.unbound "x/0" .empty = ["x"] := by decide +kernel
  have hfloating : Bindings.Floating .empty := fun _ hd => absurd hd List.not_mem_nil
  have hcfg : Catalog.elementary.configure Preset.standard.functions Preset.standard.operators =
      .ok .standard := Config.configurePreset_standard
  obtain ⟨c, r, ⟨hr, -⟩, hs⟩ := calculate_line hcfg "x/0" hfloating
  obtain ⟨s', hcalculate, hlog⟩ := hs (begun Project.defaultTailBytes)
  obtain ⟨line, hline, hholds⟩ := hlog _ none rfl (Journal.holds_projectFiles none)
  rw [Option.getD_none, String.empty_append] at hholds
  cases hr with
  | unbound _ _ failure =>
    rw [hunbound] at failure
    exact ⟨c, s', line, hcalculate, failure, hline, hholds⟩
  | failed bound =>
    rw [hunbound] at bound
    cases bound
  | evaluated bound =>
    rw [hunbound] at bound
    cases bound

end Session
end Formulary
