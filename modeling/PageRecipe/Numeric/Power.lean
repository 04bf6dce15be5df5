/-!
# Powers

Powers of two, which bound the numbers of a word, and powers of ten, which scale decimals.
-/

namespace PageRecipe

/-- A power of two. -/
def twoTo (n : Nat) : Nat := Nat.pow 2 n

/-- A power of ten. -/
def tenTo (n : Nat) : Nat := Nat.pow 10 n

/-- An integer is a signed word of so many bits. -/
def isSigned (bits : Nat) (n : Int) : Bool :=
  decide (-(twoTo (bits - 1) : Int) ≤ n ∧ n < (twoTo (bits - 1) : Int))

end PageRecipe
