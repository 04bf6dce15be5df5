import PageRecipe.Prose.Node

/-!
# Ranks and tags

`Node.headingRank?` reads the rank of a heading off its tag as a byte in decimal. A number that
is written in decimal reads back as itself when it fits into a byte
(`byteOfDigits_toDigits`), so the tag of a level from 1 to 6 is a heading of that rank, and the
tag of any other level is none (`headingRank?_of_level`).
-/

namespace PageRecipe.Node

theorem byteOfDigits_append (value : Nat) (a b : List Char) :
    byteOfDigits value (a ++ b) =
      (byteOfDigits value a).bind fun value => byteOfDigits value b := by
  induction a generalizing value with
  | nil => rfl
  | cons c rest ih =>
    rw [List.cons_append, byteOfDigits, byteOfDigits]
    by_cases hdigit : c.isDigit = true
    · by_cases hsmall : value * 10 + (c.toNat - '0'.toNat) < 256
      · simp only [hdigit, hsmall, if_true, ih]
      · simp only [hdigit, hsmall, if_true, if_false, Option.bind_none]
    · simp only [hdigit, if_false, Option.bind_none, Bool.false_eq_true]

theorem byteOfDigits_digitChar (value : Nat) {digit : Nat} (h : digit < 10) :
    byteOfDigits value [digit.digitChar] =
      if value * 10 + digit < 256 then some (value * 10 + digit) else none := by
  have hchar : ∀ d < 10, (Nat.digitChar d).isDigit = true ∧
      (Nat.digitChar d).toNat - '0'.toNat = d := by decide
  obtain ⟨hdigit, hvalue⟩ := hchar digit h
  simp only [byteOfDigits, hdigit, hvalue, if_true]

/-- The decimal digits of a number are read as the number, if it fits into a byte. -/
theorem byteOfDigits_toDigits (n : Nat) :
    byteOfDigits 0 (Nat.toDigits 10 n) = if n < 256 then some n else none := by
  induction n using Nat.strongRecOn with
  | ind n ih =>
    rcases Nat.lt_or_ge n 10 with hlt | hge
    · rw [Nat.toDigits_of_lt_base hlt, byteOfDigits_digitChar 0 hlt, Nat.zero_mul, Nat.zero_add]
    · have hlast := byteOfDigits_digitChar (n / 10) (Nat.mod_lt n (by decide : 0 < 10))
      rw [Nat.mul_comm, Nat.div_add_mod] at hlast
      rw [Nat.toDigits_of_base_le (by decide) hge, byteOfDigits_append, ih (n / 10) (by omega)]
      by_cases hfront : n / 10 < 256
      · rw [if_pos hfront, Option.bind_some, hlast]
      · rw [if_neg hfront, Option.bind_none, if_neg (by omega)]

/-- Digits have no sign in front of them. -/
theorem byte?_toDigits (n : Nat) :
    byte? (Nat.toDigits 10 n) = byteOfDigits 0 (Nat.toDigits 10 n) := by
  cases hdigits : Nat.toDigits 10 n with
  | nil => exact absurd hdigits Nat.toDigits_ne_nil
  | cons c rest =>
    have hdigit : c.isDigit = true :=
      Nat.isDigit_of_mem_toDigits (b := 10) (n := n) (by decide) (by decide) (by simp [hdigits])
    have hsign : c ≠ '+' := by
      rintro rfl
      exact absurd hdigit (by decide)
    simp [byte?, hsign]

/-- The tag of a level is the tag of a heading for the levels 1 to 6 only. -/
theorem headingRank?_of_level (level : Nat) (id : Option String) (classes : List String)
    (children : List Node) :
    (element ("h" ++ toString level) id classes children).headingRank? =
      if 1 ≤ level ∧ level ≤ 6 then some level else none := by
  have htag : ("h" ++ toString level).toList = 'h' :: Nat.toDigits 10 level := by
    rw [String.toList_append, Nat.toString_eq_repr, Nat.toList_repr]
    rfl
  simp only [headingRank?, tag?, Option.map_some, htag, byte?_toDigits, byteOfDigits_toDigits]
  by_cases hbyte : level < 256
  · simp only [hbyte, if_true]
  · rw [if_neg hbyte, if_neg (by omega)]

end PageRecipe.Node
