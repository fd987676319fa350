import ClusterSubmission.Number.Binary64

/-!
# Quantities

A quantity of time or memory is an exact integer or a binary number. Sums of integers are exact; a
sum with a binary number is binary. Comparisons are exact in every case.
-/
namespace ClusterSubmission

/-- An integer or a binary number. -/
inductive Quantity where
  | int (n : Int)
  | float (x : Binary64)
  deriving DecidableEq, Repr, Inhabited

namespace Quantity

/-- The sign of the difference to an exact integer, for a binary number that has one. -/
def compareInt (x : Binary64) (n : Int) : Option Ordering :=
  match x with
  | .nan => none
  | .infinite negative => some (if negative then .lt else .gt)
  | .finite .. => x.scaled?.map fun a => compare a (n * (Binary64.scale : Int))

def compare? : Quantity → Quantity → Option Ordering
  | .int m, .int n => some (compare m n)
  | .float x, .int n => compareInt x n
  | .int m, .float y => (compareInt y m).map Ordering.swap
  | .float x, .float y =>
    if x.lt y then some .lt else if y.lt x then some .gt else if x.beq y then some .eq else none

def lt (p q : Quantity) : Bool := compare? p q == some .lt

def le (p q : Quantity) : Bool := compare? p q == some .lt || compare? p q == some .eq

/-- The sum of a binary number and an integer that has a nearest finite binary number. -/
def addInt? (x : Binary64) (n : Int) : Option Quantity :=
  match Binary64.ofInt n with
  | .infinite _ => none
  | y => some (.float (x.add y))

/-- The sum of two quantities, none if an integer is too large to become binary. -/
def add? : Quantity → Quantity → Option Quantity
  | .int m, .int n => some (.int (m + n))
  | .float x, .float y => some (.float (x.add y))
  | .float x, .int n => addInt? x n
  | .int m, .float y => addInt? y m

end Quantity
end ClusterSubmission
