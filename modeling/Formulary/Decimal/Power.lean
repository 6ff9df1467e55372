/-!
# Powers of two and ten

The bases of binary and of decimal numbers, as natural numbers.
-/

set_option autoImplicit false
namespace Formulary

def twoTo (n : Nat) : Nat := Nat.pow 2 n
def tenTo (n : Nat) : Nat := Nat.pow 10 n

end Formulary
