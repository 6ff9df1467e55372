/-!
# Resemblance of texts

Two texts resemble each other as far as they share characters in runs: the longest common run counts,
and then what can be found to the left and to the right of it. The names that resemble a text closely
are the ones it may have been meant for.
-/

set_option autoImplicit false
namespace Formulary.Text

/-- Length of the common beginning. -/
def commonStart : List Char → List Char → Nat
  | a :: as, b :: bs => if a = b then commonStart as bs + 1 else 0
  | _, _ => 0

/-- A run of characters that two texts have in common. -/
structure CommonRun where
  length : Nat
  /-- Where it begins in the first text. -/
  left : Nat
  /-- Where it begins in the second text. -/
  right : Nat

/-- The longer of two runs, and of equally long ones the first. -/
def CommonRun.longer (r s : CommonRun) : CommonRun := if r.length < s.length then s else r

/-- The longest common run, and of equally long ones the first in `as` and then in `bs`. -/
def longestRun (as bs : List Char) : CommonRun :=
  (List.range as.length).foldl (fun best i =>
    (List.range bs.length).foldl (fun best j =>
      best.longer ⟨commonStart (as.drop i) (bs.drop j), i, j⟩) best) ⟨0, 0, 0⟩

/-- How many characters two texts share. -/
def shared (as bs : List Char) : Nat :=
  match longestRun as bs with
  | ⟨n, i, j⟩ =>
    if n = 0 ∨ as.length < i + n then 0
    else
      n + shared (as.take i) (bs.take j) + shared (as.drop (i + n)) (bs.drop (j + n))
termination_by as.length
decreasing_by
  all_goals
    simp only [List.length_take, List.length_drop]
    omega

/-- The share of the characters of a name and a text that the two have in common. -/
structure Resemblance where
  name : String
  shared : Nat
  total : Nat

namespace Resemblance

def of (s name : String) : Resemblance :=
  ⟨name, 2 * Text.shared name.toList s.toList, name.length + s.length⟩

/-- Three fifths of the characters are shared. -/
def isClose (r : Resemblance) : Bool := 3 * r.total ≤ 5 * r.shared

/-- The closer one comes first; of equally close ones the later one in the order of the alphabet. -/
def before (r s : Resemblance) : Bool :=
  let x := r.shared * s.total
  let y := s.shared * r.total
  decide (y < x) || (x == y && decide (s.name ≤ r.name))

end Resemblance

/-- The names that resemble a text closely, at most three, in the order of the alphabet. -/
def closeNames (s : String) (names : List String) : List String :=
  let close := ((names.map (Resemblance.of s)).filter Resemblance.isClose).mergeSort Resemblance.before
  ((close.take 3).map Resemblance.name).mergeSort fun a b => decide (a ≤ b)

end Formulary.Text
