import Formulary.CommandLine.Outcome
/-!
# Runs of commands

What the parts of a command do to the session and the output, and that a part that fails ends the command
there.
-/

set_option autoImplicit false
namespace Formulary.CommandLine
variable {time α β ε : Type}

/-- A line as it is written to the output. -/
def echoed (line : String) : String := Text.withoutControlSequences line ++ "\n"

/-- A shell with some more output. -/
def Shell.write (sh : Shell time) (text : String) : Shell time := { sh with output := sh.output ++ text }

theorem Shell.write_write (sh : Shell time) (text more : String) :
    (sh.write text).write more = sh.write (text ++ more) := by
  unfold Shell.write
  rw [String.append_assoc]

theorem Shell.write_empty (sh : Shell time) : sh.write "" = sh := by
  unfold Shell.write
  rw [String.append_empty]

namespace Action
variable {sh sh' : Shell time}

theorem bind_ok {x : Action time α} (f : α → Action time β) {a : α} (h : x sh = (.ok a, sh')) :
    (x >>= f) sh = f a sh' := by
  change (match x sh with
    | (y, sh') => ExceptT.bindCont f y sh') = _
  rw [h]
  rfl

theorem bind_error {x : Action time α} (f : α → Action time β) {halt : Halt}
    (h : x sh = (.error halt, sh')) : (x >>= f) sh = (.error halt, sh') := by
  change (match x sh with
    | (y, sh') => ExceptT.bindCont f y sh') = _
  rw [h]
  rfl

theorem echo_run (line : String) (sh : Shell time) :
    (echo line : Action time Unit) sh = (.ok (), sh.write (echoed line)) := by
  unfold Shell.write echoed
  rw [← String.append_assoc]
  rfl

theorem orHalt_run (halt : ε → Halt) (x : Except ε α) (sh : Shell time) :
    (orHalt halt x : Action time α) sh = (x.mapError halt, sh) := rfl

theorem orHalt_of_error {x : Except ε α} {e : ε} (h : x = .error e) (halt : ε → Halt) (sh : Shell time) :
    (orHalt halt x : Action time α) sh = (.error (halt e), sh) := by
  rw [orHalt_run, h]
  rfl

theorem orHalt_of_ok {x : Except ε α} {a : α} (h : x = .ok a) (halt : ε → Halt) (sh : Shell time) :
    (orHalt halt x : Action time α) sh = (.ok a, sh) := by
  rw [orHalt_run, h]
  rfl

theorem ofSession_run (halt : ε → Halt) {f : Session time → Except ε α × Session time} {x : Except ε α}
    {s : Session time} (h : f sh.session = (x, s)) :
    ofSession halt f sh = (x.mapError halt, { sh with session := s }) := by
  have hrun : ofSession halt f sh =
      ((f sh.session).1.mapError halt, { sh with session := (f sh.session).2 }) := rfl
  rw [hrun, h]

end Action

section
variable [Clock time] {lib : Libraries} {c : Command} {s : Session time} {sh : Shell time}

theorem ofCommand_of_ok (h : c.execute lib ⟨s, ""⟩ = (.ok (), sh)) :
    Outcome.ofCommand lib c s = ⟨0, sh.output, sh.session.errors, none, sh.session.files⟩ := by
  unfold Outcome.ofCommand
  rw [h]
  simp only [String.append_empty]

theorem ofCommand_of_failed {message : String}
    (h : c.execute lib ⟨s, ""⟩ = (.error (.failed message), sh)) :
    Outcome.ofCommand lib c s = ⟨1, sh.output,
      sh.session.errors ++ Text.withoutControlSequences ("Error: " ++ message ++ "\n"), none,
      sh.session.files⟩ := by
  unfold Outcome.ofCommand
  rw [h]

theorem ofCommand_of_crashed {crash : Crash}
    (h : c.execute lib ⟨s, ""⟩ = (.error (.crashed crash), sh)) :
    Outcome.ofCommand lib c s = ⟨1, sh.output, sh.session.errors, some crash, sh.session.files⟩ := by
  unfold Outcome.ofCommand
  rw [h]
  simp only [String.append_empty]

end
end Formulary.CommandLine
