/-!
# Lines of a text

A text is cut into lines at every line boundary of any script; a carriage return directly before a
line feed belongs to it. The end of the text ends a line that has begun and begins no new one.
-/

set_option autoImplicit false
namespace Formulary.Text

/-- Line feed, vertical tab, form feed, carriage return, the file, group and record separators,
next line, line separator and paragraph separator. -/
def isLineEnd (c : Char) : Bool :=
  [0xa, 0xb, 0xc, 0xd, 0x1c, 0x1d, 0x1e, 0x85, 0x2028, 0x2029].contains c.toNat

/-- The lines of a text, and its first character, from those of the text without its first
character. -/
def lineStep (c : Char) : Option Char × List (List Char) → Option Char × List (List Char)
  | (next, ls) =>
    (some c,
      if isLineEnd c then
        if c = '\r' ∧ next = some '\n' then ls else [] :: ls
      else
        match ls with
        | [] => [[c]]
        | l :: ls => (c :: l) :: ls)

/-- The lines of a text. -/
def splitLines (cs : List Char) : List (List Char) :=
  (cs.foldr lineStep (none, [])).2

theorem fst_foldr_lineStep (cs : List Char) : (cs.foldr lineStep (none, [])).1 = cs.head? := by
  cases cs with
  | nil => rfl
  | cons c cs =>
    rw [List.foldr_cons]
    rfl

/-- A line end before any text but a line feed after a carriage return ends an empty line. -/
theorem splitLines_cons_of_isLineEnd {c : Char} (h : isLineEnd c = true) {cs : List Char}
    (hn : c ≠ '\r' ∨ cs.head? ≠ some '\n') : splitLines (c :: cs) = [] :: splitLines cs := by
  have hs : ¬(c = '\r' ∧ (cs.foldr lineStep (none, [])).1 = some '\n') := by
    rw [fst_foldr_lineStep]
    rintro ⟨h₁, h₂⟩
    exact hn.elim (· h₁) (· h₂)
  simp only [splitLines, List.foldr_cons, lineStep, h, if_true]
  rw [if_neg hs]

end Formulary.Text
