/-!
# Sets of characters as flips

A set of code points is kept as the ascending list of the points at which membership
changes : the first point is in the set, the next one is the first after it that is not, and
so on.
-/

namespace PageRecipe.Text

/-- Whether `n` is inside, reading the points from the left ; `inside` holds before the first. -/
def isInsideFrom (inside : Bool) (n : Nat) : List Nat → Bool
  | [] => inside
  | flip :: rest => if n < flip then inside else isInsideFrom (!inside) n rest

/-- Whether `n` is in the set with these points. -/
def isInside (flips : List Nat) (n : Nat) : Bool := isInsideFrom false n flips

end PageRecipe.Text
