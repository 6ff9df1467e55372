import Formulary.Proofs.CalculationRecord
import Formulary.Yaml.Document
/-!
# Runs of sessions

In a session projects are attached and detached, events are recorded and formulas are calculated, in any
order. What a calculation gives depends on its configuration, its formula and its bindings alone: not on
the journal and the files, whether they can be written or not, nor on the clocks and the error stream, nor
on what has been done before.
-/

set_option autoImplicit false
namespace Formulary

/-- A calculation that is asked for. Its formula may be any value but a text that is no sequence of
characters. -/
structure Request where
  cfg : Config
  formula : Datum
  bindings : Bindings
  whole : formula.isBroken = false

/-- What can be done in a session. -/
inductive Action (time : Type) where
  | attach (dir : Path)
  | detach
  | emit (e : Event)
  /-- Records an event that is not about a single formula and is made at its time. -/
  | inform (kind : EventKind) (message : String) (context : Context)
  | calculate (r : Request)
  /-- Lets the clocks go on. -/
  | wait (stamp : String) (now : time)
  /-- Lets the error stream take what is written to it from now on, or not. -/
  | setErrors (errorsOpen : Bool)

def Action.request? {time : Type} : Action time → Option Request
  | calculate r => some r
  | _ => none

namespace Session
section
variable {time : Type} [Clock time]

def act (s : Session time) (read : DocumentReader) : Action time → Session time
  | .attach dir => (s.attach read dir).2
  | .detach => s.detach
  | .emit e => s.emit e
  | .inform kind message context => s.emit (.info s.stamp kind message context)
  | .calculate r => (s.calculate r.cfg r.formula r.bindings).2
  | .wait stamp now => { s with stamp, now }
  | .setErrors errorsOpen => { s with errorsOpen }

def run (s : Session time) (read : DocumentReader) : List (Action time) → Session time
  | [] => s
  | a :: as => (s.act read a).run read as

def answer (s : Session time) (r : Request) : Except CalculationError Calculation :=
  (s.calculate r.cfg r.formula r.bindings).1

/-- What the calculations among actions give, each at its point. -/
def answers (s : Session time) (read : DocumentReader) :
    List (Action time) → List (Except CalculationError Calculation)
  | [] => []
  | a :: as => (a.request?.map s.answer).toList ++ (s.act read a).answers read as

end

section
variable {time time' : Type} [Clock time] [Clock time']

theorem answer_eq (s : Session time) (s' : Session time') (r : Request) :
    s.answer r = s'.answer r := by
  obtain ⟨cfg, formula, b, -⟩ := r
  unfold answer calculate
  simp only
  cases formula.formulaText with
  | error e => rfl
  | ok text =>
    simp only
    cases cfg.calculate text b with
    | error e => rfl
    | ok c => cases formula <;> rfl

/-- Along a run a calculation gives what it gives in any one session. -/
theorem answers_eq (s' : Session time') (read : DocumentReader) (actions : List (Action time))
    (s : Session time) : s.answers read actions = (actions.filterMap Action.request?).map s'.answer := by
  induction actions generalizing s with
  | nil => rfl
  | cons a as ih =>
    rw [answers, ih, List.filterMap_cons]
    cases a.request? with
    | none => rfl
    | some r =>
      rw [Option.map_some, s.answer_eq s']
      rfl

end

/-- What a calculation gives is the same in every session and along every run with the same calculations,
however settings files are read. With functions and operators that give numbers or errors of the formula,
and with numbers for all bound names, it is a result. -/
theorem calculate_undisturbed (cfg : Config) (formula : String) (b : Bindings) :
    (∀ {time time' : Type} [Clock time] [Clock time'] (s : Session time) (s' : Session time'),
      (s.calculate cfg (.text formula) b).1 = (s'.calculate cfg (.text formula) b).1) ∧
    (∀ {time time' : Type} [Clock time] [Clock time'] (s : Session time) (s' : Session time')
      (read read' : DocumentReader) (actions : List (Action time)) (actions' : List (Action time')),
      actions.filterMap Action.request? = actions'.filterMap Action.request? →
        s.answers read actions = s'.answers read' actions') ∧
    (cfg.Calculates → b.Floating → ∃ c, cfg.calculate formula b = .ok c ∧
      ∀ {time : Type} [Clock time] (s : Session time),
        (s.calculate cfg (.text formula) b).1 = .ok c) := by
  refine ⟨fun s s' => s.answer_eq s' ⟨cfg, .text formula, b, rfl⟩, ?_, ?_⟩
  · intro time time' _ _ s s' read read' actions actions' hrequests
    rw [answers_eq s', answers_eq s', hrequests]
  · intro hcfg hb
    obtain ⟨c, r, hc, -⟩ := hcfg.reports formula hb
    refine ⟨c, hc, fun s => ?_⟩
    rw [calculate_text hc]

/-- A session with a directory where the journal should be. -/
def blocked : Session Rat where
  files := .ofList [(["p"], .directory), (["p", "logs"], .directory),
    (["p", "logs", "events.ndjson"], .directory)]
  journal := some (.inProject Project.defaultTailBytes)
  stamp := "2024-01-01T00:00:00.000000Z"
  now := 0
  lastWarning := none
  errors := ""
  errorsOpen := true

theorem emit_blocked {e : Event} (h : e.prepared.Legible) : blocked.emit e = blocked.warn
    ("logging failed: " ++ FileError.isDirectory.name ++ ": " ++
      FileFault.message ⟨.isDirectory, Journal.pathIn ["p"]⟩) := by
  have hwrite : (Journal.inProject Project.defaultTailBytes).write blocked.files e.prepared =
      .error (.file ⟨.isDirectory, Journal.pathIn ["p"]⟩) :=
    (Journal.write_of_legible h _ _).trans rfl
  unfold emit
  rw [show blocked.journal = some (.inProject Project.defaultTailBytes) from rfl]
  simp only [hwrite]
  rfl

theorem calculate_blocked : ∃ c,
    (blocked.calculate .standard (.text "1/0") .empty).1 = .ok c ∧
      (blocked.calculate .standard (.text "1/0") .empty).2.errors ≠ "" ∧
      (begun Project.defaultTailBytes).answers Yaml.reader
        [.calculate ⟨.standard, .text "1/0", .empty, rfl⟩, .detach] = [.ok c] := by
  have hcfg := (Config.elementary_of_configurePreset Config.configurePreset_standard).calculates
  have hfloating := Bindings.floating_empty
  obtain ⟨-, hruns, hresult⟩ := calculate_undisturbed .standard "1/0" .empty
  obtain ⟨c, hcalculate, hc⟩ := hresult hcfg hfloating
  refine ⟨c, hc _, ?_, ?_⟩
  · have habout := Event.about_ofCalculation blocked.stamp "1/0" hfloating.recordable c
    rw [calculate_text hcalculate, emit_blocked habout.legible_prepared]
    simp only
    decide
  · have halone : blocked.answers (fun _ => .ok .null)
        [.calculate ⟨.standard, .text "1/0", .empty, rfl⟩] = [.ok c] :=
      congrArg (· :: []) (hc blocked)
    exact (hruns _ blocked _ (fun _ => .ok .null) _ _ rfl).trans halone

end Session
end Formulary
