/-!
# Control sequences of a terminal

A control sequence is an escape character and an opening bracket, any number of parameter characters,
any number of intermediate characters, and one final character. It tells a terminal what to do, so a
text that goes elsewhere is written without it. A sequence that is not finished is text like any other.
-/

set_option autoImplicit false
namespace Formulary.Text

namespace ControlSequence

/-- The first character of a control sequence. -/
def escape : Char := '\x1b'

/-- Digits, colon, semicolon and the four characters after them. -/
def isParameter (c : Char) : Bool := '0' ≤ c && c ≤ '?'

/-- The blank and the punctuation from there to the slash. -/
def isIntermediate (c : Char) : Bool := ' ' ≤ c && c ≤ '/'

/-- Letters and the punctuation between and around them. -/
def isFinal (c : Char) : Bool := '@' ≤ c && c ≤ '~'

/-- What follows the control sequence at the start of a text, if the text starts with one. -/
def rest? : List Char → Option (List Char)
  | e :: '[' :: cs =>
    match (cs.dropWhile isParameter).dropWhile isIntermediate with
    | c :: rest => if e = escape ∧ isFinal c then some rest else none
    | [] => none
  | _ => none

theorem length_lt_of_rest?_eq_some {cs rest : List Char} (h : rest? cs = some rest) :
    rest.length < cs.length := by
  unfold rest? at h
  split at h
  · rename_i cs
    split at h
    · rename_i c tail hc
      split at h
      · cases h
        have hp := (List.dropWhile_sublist isParameter (l := cs)).length_le
        have hi := (List.dropWhile_sublist isIntermediate (l := cs.dropWhile isParameter)).length_le
        rw [hc, List.length_cons] at hi
        simp only [List.length_cons]
        omega
      · cases h
    · cases h
  · cases h

/-- A text that does not start with an escape character starts with no control sequence. -/
theorem rest?_cons_of_ne_escape {c : Char} (h : c ≠ escape) (cs : List Char) :
    rest? (c :: cs) = none := by
  unfold rest?
  split
  · rename_i heq
    cases heq
    split
    · exact if_neg fun hc => h hc.1
    · rfl
  · rfl

/-- Removes the control sequences in one pass: one that only the removal of another brings together
stays. -/
def remove : List Char → List Char
  | [] => []
  | c :: cs =>
    match _h : rest? (c :: cs) with
    | some rest => remove rest
    | none => c :: remove cs
termination_by cs => cs.length
decreasing_by
  · exact length_lt_of_rest?_eq_some _h
  · simp

@[simp] theorem remove_nil : remove [] = [] := by rw [remove]

theorem remove_cons_of_rest?_eq_none {c : Char} {cs : List Char} (h : rest? (c :: cs) = none) :
    remove (c :: cs) = c :: remove cs := by
  rw [remove]
  split <;> simp_all

theorem remove_of_escape_not_mem {cs : List Char} (h : escape ∉ cs) : remove cs = cs := by
  induction cs with
  | nil => simp
  | cons c cs ih =>
    rw [List.mem_cons, not_or] at h
    rw [remove_cons_of_rest?_eq_none (rest?_cons_of_ne_escape (Ne.symm h.1) cs), ih h.2]

end ControlSequence

/-- A text without its control sequences. -/
def withoutControlSequences (s : String) : String := String.ofList (ControlSequence.remove s.toList)

theorem withoutControlSequences_of_not_mem {s : String} (h : ControlSequence.escape ∉ s.toList) :
    withoutControlSequences s = s := by
  unfold withoutControlSequences
  rw [ControlSequence.remove_of_escape_not_mem h, String.ofList_toList]

end Formulary.Text
