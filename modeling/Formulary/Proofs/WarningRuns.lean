import Formulary.Proofs.JournalOptions
/-!
# Warnings of a run

Warnings are given by events that cannot be recorded and by projects that are attached with settings that
cannot be used. Each is due, and handed to the error stream at once, or left out for ever; one that is handed
to the error stream is written if the stream takes it, and lost if not. Along a run at least a minute lies
between two that are due, and one is left out only within a minute after one that was due: those that are left
out do not count, but those that are lost do.
-/

set_option autoImplicit false
namespace Formulary

namespace Settings

/-- The warning about how much of a journal is to be read, if this is no number. -/
def tailWarning? : Datum → Option String
  | .null => none
  | d =>
    match d.toInt with
    | .ok _ | .error .tooLarge => none
    | .error _ => if d.isShowable then some ("ignoring logging_tail_bytes=" ++ d.shown) else none

/-- The warning of a project that is attached with these settings. -/
def warning? (settings : Settings) : Option String :=
  if settings.recordsEvents then tailWarning? (settings.field "logging_tail_bytes") else none

end Settings

namespace Action

end Action

/-- A warning and the time at which it is given. -/
structure Notice (time : Type) where
  now : time
  message : String
  /-- Whether the error stream takes what is written to it. -/
  usable : Bool
  /-- Whether the warning is handed to the error stream, which writes it if it takes it. -/
  due : Bool

/-- Whether a warning is written. -/
def Notice.written {time : Type} (n : Notice time) : Bool := n.due && n.usable

/-- What is written of a warning. -/
def Notice.line {time : Type} (n : Notice time) : String := "[formulacalc] " ++ n.message ++ "\n"

namespace Session
section
variable {time : Type} [Clock time]

/-- The warning of an event that cannot be recorded. -/
def emitWarning? (s : Session time) (e : Event) : Option String :=
  match s.journal with
  | none => none
  | some j =>
    match j.write s.files e.prepared with
    | .ok _ => none
    | .error e => some ("logging failed: " ++ e.name ++ ": " ++ e.message)

def attachWarning? (s : Session time) (read : DocumentReader) (dir : Path) : Option String :=
  match Project.loadSettings read s.files dir with
  | .ok settings => settings.warning?
  | .error (.raised _) => none
  | .error (.config _) | .error (.file _) => some "could not read logging options; using defaults"

/-- The warning that an action gives, whether it is written or not. -/
def warning? (s : Session time) (read : DocumentReader) : Action time → Option String
  | .attach dir => s.attachWarning? read dir
  | a => (s.event? a).bind s.emitWarning?

variable (s : Session time) (read : DocumentReader)

end

end Session

namespace Notice

/-- Warnings of which one a minute is due, after one that was due at the given time. -/
inductive Limited : Option Rat → List (Notice Rat) → Prop
  | nil (last : Option Rat) : Limited last []
  | given {last : Option Rat} {n : Notice Rat} {ns : List (Notice Rat)} (due : n.due = true)
    (late : ∀ t, last = some t → t + 60 ≤ n.now) (rest : Limited (some n.now) ns) : Limited last (n :: ns)
  | withheld {t : Rat} {n : Notice Rat} {ns : List (Notice Rat)} (due : n.due = false)
    (later : t ≤ n.now) (soon : n.now < t + 60) (rest : Limited (some t) ns) : Limited (some t) (n :: ns)

namespace Limited
variable {last : Option Rat} {ns : List (Notice Rat)}

theorem first {n : Notice Rat} (h : Limited none (n :: ns)) : n.due = true := by
  cases h with
  | given due => exact due

theorem cause (h : Limited last ns) {before after : List (Notice Rat)} {n : Notice Rat}
    (hns : ns = before ++ n :: after) (hn : n.due = false) :
    ∃ t, t ≤ n.now ∧ n.now < t + 60 ∧ (last = some t ∨ ∃ m ∈ before, m.due = true ∧ m.now = t) := by
  induction h generalizing before with
  | nil => exact absurd hns.symm (List.append_ne_nil_of_right_ne_nil _ (List.cons_ne_nil _ _))
  | @given last m ns due late rest ih =>
    cases before with
    | nil =>
      cases hns
      rw [hn] at due
      cases due
    | cons m' before =>
      cases hns
      obtain ⟨t, hle, hlt, hlast | ⟨l, hl, hdue, hnow⟩⟩ := ih rfl
      · exact ⟨t, hle, hlt, .inr ⟨m, List.mem_cons_self, due, Option.some_inj.1 hlast⟩⟩
      · exact ⟨t, hle, hlt, .inr ⟨l, List.mem_cons_of_mem _ hl, hdue, hnow⟩⟩
  | @withheld t m ns due later soon rest ih =>
    cases before with
    | nil =>
      cases hns
      exact ⟨t, later, soon, .inl rfl⟩
    | cons m' before =>
      cases hns
      obtain ⟨t', hle, hlt, hlast | ⟨l, hl, hdue, hnow⟩⟩ := ih rfl
      · exact ⟨t', hle, hlt, .inl hlast⟩
      · exact ⟨t', hle, hlt, .inr ⟨l, List.mem_cons_of_mem _ hl, hdue, hnow⟩⟩

end Limited

end Notice

namespace Session

end Session
end Formulary
