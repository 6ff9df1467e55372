/-!
# Sets of code points

A character class is kept as the list of its maximal runs of code points, in increasing order.
-/

set_option autoImplicit false
namespace Formulary.Text

/-- Closed runs of code points, disjoint and in increasing order. -/
abbrev Ranges := List (Nat × Nat)

/-- Membership; the search ends at the first run that begins after the code point. -/
def Ranges.contains : Ranges → Nat → Bool
  | [], _ => false
  | run :: rest, n => if n < run.1 then false else n ≤ run.2 || contains rest n

end Formulary.Text
