import Formulary.Journal
/-!
# Sessions

A session holds the file tree, the journal that events go to, and what has been written to the error
stream. Recording an event never disturbs what caused it: when it fails, a warning is written instead,
and of warnings that follow each other within a minute only the first one. A warning that the error
stream does not take is lost, and counts as if it had been written.
-/

set_option autoImplicit false
namespace Formulary

/-- Times of a clock that never goes back. -/
class Clock (time : Type) where
  /-- Whether less than a minute lies between two times. -/
  withinMinute : time → time → Bool

/-- Seconds as numbers of 64 bits. -/
instance : Clock Float := ⟨fun earlier later => later - earlier < 60.0⟩

/-- Seconds as exact fractions. -/
instance : Clock Rat := ⟨fun earlier later => decide (later - earlier < 60)⟩

/-- The state that events and warnings depend on. -/
structure Session (time : Type) where
  files : FileTree
  journal : Option Journal
  /-- The time of day, as events note it. -/
  stamp : String
  now : time
  lastWarning : Option time
  /-- What has been written to the error stream. -/
  errors : String
  /-- Whether the error stream takes what is written to it. -/
  errorsOpen : Bool

/-- Why a calculation of a session gives no result. -/
inductive CalculationError where
  | formula (error : FormulaError)
  | operand (error : OperandError)
  /-- The result has a field of a wrong kind. -/
  | invalid (faults : List FieldFault)

/-- Why a project cannot be attached. -/
inductive AttachError where
  /-- The reader of the settings file ends with the error of this name. -/
  | raised (name : String)
  /-- The size of the part to be read is infinite. -/
  | tailTooLarge
  /-- An integer has too many digits to be written in a warning. -/
  | unshowable
  | file (fault : FileFault)
  deriving DecidableEq, Repr

namespace Session
variable {time : Type}

/-- A session before anything has happened in it. -/
def start (files : FileTree) (stamp : String) (now : time) : Session time :=
  ⟨files, none, stamp, now, none, "", true⟩

variable [Clock time]

/-- Writes a warning, unless that was last done less than a minute ago. The time is noted first, so it
counts whether the error stream takes the warning or not. -/
def warn (s : Session time) (message : String) : Session time :=
  if s.lastWarning.any fun last => Clock.withinMinute last s.now then s
  else
    { s with
      lastWarning := some s.now
      errors := if s.errorsOpen then s.errors ++ "[formulacalc] " ++ message ++ "\n" else s.errors }

/-- Records an event in the attached journal, if there is one. -/
def emit (s : Session time) (e : Event) : Session time :=
  match s.journal with
  | none => s
  | some j =>
    match j.write s.files e.prepared with
    | .ok files => { s with files }
    | .error e => s.warn ("logging failed: " ++ e.name ++ ": " ++ e.message)

def detach (s : Session time) : Session time := { s with journal := none }

/-- How many bytes of the journal the settings let be read; a value that is no number is ignored with
a warning. -/
def tailOption (s : Session time) (settings : Settings) :
    Except AttachError (Option Int) × Session time :=
  match settings.field "logging_tail_bytes" with
  | .null => (.ok none, s)
  | d =>
    match d.toInt with
    | .ok n => (.ok (some n), s)
    | .error .tooLarge => (.error .tailTooLarge, s)
    | .error _ =>
      if d.isShowable then (.ok none, s.warn ("ignoring logging_tail_bytes=" ++ d.shown))
      else (.error .unshowable, s)

/-- Sends later events to the journal of a directory, or nowhere if the settings say so. When it fails,
the journal stays the one before. -/
def attachWith (s : Session time) (dir : Path) (settings : Settings) :
    Except AttachError Unit × Session time :=
  if !settings.recordsEvents then (.ok (), s.detach)
  else
    match s.tailOption settings with
    | (.error e, s) => (.error e, s)
    | (.ok tailBytes, s) =>
      match Journal.openAt s.files dir (settings.field "logging_fsync").truthy tailBytes with
      | (files, .error f) => (.error (.file f), { s with files })
      | (files, .ok j) => (.ok (), { s with files, journal := some j })

/-- Sends later events where the settings of a project say. Settings that cannot be read are replaced by
none at all. -/
def attach (s : Session time) (read : DocumentReader) (dir : Path) :
    Except AttachError Unit × Session time :=
  match Project.loadSettings read s.files dir with
  | .ok settings => s.attachWith dir settings
  | .error (.raised name) => (.error (.raised name), s)
  | .error (.config _) | .error (.file _) =>
    (s.warn "could not read logging options; using defaults").attachWith dir []

/-- Calculates a formula that is given as data, and records what came of it. Only a text is a formula
whose calculation gives a result. -/
def calculate (s : Session time) (cfg : Config) (formula : Datum) (b : Bindings) :
    Except CalculationError Calculation × Session time :=
  match formula.formulaText with
  | .error e => (.error (.formula e), s)
  | .ok text =>
    match cfg.calculate text b with
    | .error e => (.error (.operand e), s)
    | .ok c =>
      let s := s.emit (.ofCalculation s.stamp formula b c)
      match formula with
      | .text _ => (.ok c, s)
      | _ => (.error (.invalid [.notText "formula"]), s)

end Session
end Formulary
