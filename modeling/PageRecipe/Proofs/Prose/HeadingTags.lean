import Mathlib.Data.List.Induction
import PageRecipe.Proofs.Prose.HeadingIds
import PageRecipe.Proofs.Prose.NestedSections

/-!
# The tags of headings

`Node.headingRank?` reads a number behind the `h` of a tag, and `Node.isTag` compares a tag with a
given one. A number may be written with padding in front of its digits, which is zeros, or a plus
sign and zeros (`IsPadding`), and the padding has no part in what is read (`byte?_eq_some_iff`).

So a node has a rank when its tag is an `h` and the digit of the rank (`HasRankTag`), or when
there is padding in between (`HasPaddedTag`), and the two ways to tell a heading agree only on the
tags without padding (`headingRank?_iff_rankTag_or_paddedTag`). A page can have a tag with
padding : the block `<h02>` is a heading of rank 2, and its tag is not `h2` (`heading_paddedPage`).
-/

namespace PageRecipe

namespace Node

/-! ## Numbers behind padding -/

/-- What may stand in front of the digits of a number : zeros, or a plus sign and zeros. -/
inductive IsPadding : List Char → Prop where
  | zeros (count : Nat) : IsPadding (List.replicate count '0')
  | plus (count : Nat) : IsPadding ('+' :: List.replicate count '0')

theorem byteOfDigits_zeros (count : Nat) : byteOfDigits 0 (List.replicate count '0') = some 0 := by
  induction count with
  | zero => rfl
  | succ count ih => exact ih

theorem exists_digitChar {c : Char} (h : c.isDigit = true) :
    ∃ digit < 10, c = Nat.digitChar digit := by
  obtain ⟨hlow, hhigh⟩ := Char.isDigit_iff_toNat.mp h
  have hzero : '0'.toNat = 48 := rfl
  have hnine : '9'.toNat = 57 := rfl
  refine ⟨c.toNat - 48, by omega, Char.toNat_inj.mp ?_⟩
  rw [Nat.toNat_digitChar_of_lt_ten (by omega)]
  omega

/-- One more digit is read as the last one of the number. -/
theorem byteOfDigits_singleton_eq_some_iff {value n : Nat} {c : Char} :
    byteOfDigits value [c] = some n ↔
      ∃ digit < 10, c = Nat.digitChar digit ∧ n = 10 * value + digit ∧ n < 256 := by
  constructor
  · intro h
    by_cases hc : c.isDigit = true
    · obtain ⟨digit, hdigit, rfl⟩ := exists_digitChar hc
      rw [byteOfDigits_digitChar value hdigit] at h
      split at h
      · obtain rfl := Option.some.inj h
        exact ⟨digit, hdigit, rfl, by omega, by omega⟩
      · cases h
    · rw [byteOfDigits, if_neg hc] at h
      cases h
  · rintro ⟨digit, hdigit, rfl, rfl, hsmall⟩
    rw [byteOfDigits_digitChar value hdigit, Nat.mul_comm value, if_pos hsmall]

/-- A digit behind the digits of a number makes the digits of the next number. If the number is
zero, its own digit is one more of the zeros in front. -/
theorem exists_zeros_append_toDigits {value digit : Nat} (hdigit : digit < 10) (count : Nat) :
    ∃ zeros, List.replicate count '0' ++ Nat.toDigits 10 value ++ [Nat.digitChar digit] =
      List.replicate zeros '0' ++ Nat.toDigits 10 (10 * value + digit) := by
  rcases Nat.eq_zero_or_pos value with rfl | hpos
  · refine ⟨count + 1, ?_⟩
    rw [Nat.toDigits_zero, List.replicate_succ', Nat.mul_zero, Nat.zero_add,
      Nat.toDigits_of_lt_base hdigit]
  · refine ⟨count, ?_⟩
    rw [← Nat.toDigits_append_toDigits (by decide) hpos hdigit, Nat.toDigits_of_lt_base hdigit,
      List.append_assoc]

/-- Characters are read as a number, if there are any, when they are its digits behind zeros. -/
theorem byteOfDigits_eq_some_iff {digits : List Char} {n : Nat} :
    digits ≠ [] ∧ byteOfDigits 0 digits = some n ↔
      n < 256 ∧ ∃ count, digits = List.replicate count '0' ++ Nat.toDigits 10 n := by
  constructor
  · rintro ⟨hne, h⟩
    -- From the end, since the digits in front of the last one are those of a number too.
    induction digits using List.reverseRecOn generalizing n with
    | nil => exact absurd rfl hne
    | append_singleton front c ih =>
      rw [byteOfDigits_append] at h
      obtain ⟨value, hvalue, hlast⟩ := Option.bind_eq_some_iff.mp h
      obtain ⟨digit, hdigit, rfl, rfl, hsmall⟩ := byteOfDigits_singleton_eq_some_iff.mp hlast
      refine ⟨hsmall, ?_⟩
      by_cases hfront : front = []
      · subst hfront
        obtain rfl := Option.some.inj hvalue
        exact ⟨0, by rw [Nat.mul_zero, Nat.zero_add, Nat.toDigits_of_lt_base hdigit]; rfl⟩
      · obtain ⟨-, count, rfl⟩ := ih hfront hvalue
        exact exists_zeros_append_toDigits hdigit count
  · rintro ⟨hsmall, count, rfl⟩
    refine ⟨List.append_ne_nil_of_right_ne_nil _ Nat.toDigits_ne_nil, ?_⟩
    rw [byteOfDigits_append, byteOfDigits_zeros, Option.bind_some, byteOfDigits_toDigits,
      if_pos hsmall]

/-- A number has digits, and perhaps a plus sign in front of them. -/
theorem byte?_eq_some_iff_digits {s : List Char} {n : Nat} :
    byte? s = some n ↔
      ∃ digits, (s = digits ∨ s = '+' :: digits) ∧ digits ≠ [] ∧
        byteOfDigits 0 digits = some n := by
  constructor
  · intro h
    unfold byte? at h
    split at h
    · cases h
    · cases h
    · next digits hdigits => exact ⟨digits, .inr rfl, fun hnil => hdigits (by rw [hnil]), h⟩
    · next hne _ _ => exact ⟨s, .inl rfl, hne, h⟩
  · rintro ⟨digits, rfl | rfl, hne, h⟩
    · obtain ⟨c, rest, rfl⟩ := List.exists_cons_of_ne_nil hne
      have hsign : c ≠ '+' := by
        rintro rfl
        cases h
      simpa [byte?, hsign] using h
    · obtain ⟨c, rest, rfl⟩ := List.exists_cons_of_ne_nil hne
      exact h

/-- A text is read as a byte when it is the digits of the byte behind padding. -/
theorem byte?_eq_some_iff {s : List Char} {n : Nat} :
    byte? s = some n ↔
      n < 256 ∧ ∃ padding, IsPadding padding ∧ s = padding ++ Nat.toDigits 10 n := by
  rw [byte?_eq_some_iff_digits]
  simp only [byteOfDigits_eq_some_iff]
  constructor
  · rintro ⟨digits, hs, hsmall, count, rfl⟩
    rcases hs with rfl | rfl
    · exact ⟨hsmall, _, .zeros count, rfl⟩
    · exact ⟨hsmall, _, .plus count, rfl⟩
  · rintro ⟨hsmall, padding, hpadding, rfl⟩
    cases hpadding with
    | zeros count => exact ⟨_, .inl rfl, hsmall, count, rfl⟩
    | plus count => exact ⟨_, .inr rfl, hsmall, count, rfl⟩

/-! ## Tags with a rank -/

/-- The tag that is an `h`, some padding and the digits of a rank. -/
def paddedTag (padding : List Char) (rank : Nat) : String :=
  "h" ++ String.ofList padding ++ toString rank

theorem toList_paddedTag (padding : List Char) (rank : Nat) :
    (paddedTag padding rank).toList = 'h' :: (padding ++ Nat.toDigits 10 rank) := by
  have hpadding : (String.ofList padding).toList = padding := String.toList_ofList
  rw [paddedTag, String.toList_append, String.toList_append, hpadding, Nat.toString_eq_repr,
    Nat.toList_repr]
  rfl

theorem paddedTag_nil (rank : Nat) : paddedTag [] rank = "h" ++ toString rank := by
  rw [← String.toList_inj, toList_paddedTag, String.toList_append, Nat.toString_eq_repr,
    Nat.toList_repr]
  rfl

theorem padding_eq_of_paddedTag_eq {a b : List Char} {rank : Nat}
    (h : paddedTag a rank = paddedTag b rank) : a = b := by
  have hlist := congrArg String.toList h
  rw [toList_paddedTag, toList_paddedTag] at hlist
  exact List.append_cancel_right (List.cons.inj hlist).2

theorem isTag_paddedTag_iff {node : Node} {padding : List Char} {rank : Nat} :
    node.isTag (paddedTag padding rank) = true ↔
      ∃ tag, node.tag? = some tag ∧ tag.toList = 'h' :: (padding ++ Nat.toDigits 10 rank) := by
  simp only [isTag, beq_iff_eq, ← toList_paddedTag, String.toList_inj, exists_eq_right]

/-- The node is an element whose tag is an `h` and the digit of a rank from 1 to 6. -/
def HasRankTag (node : Node) (rank : Nat) : Prop :=
  (1 ≤ rank ∧ rank ≤ 6) ∧ node.isTag ("h" ++ toString rank) = true

/-- The node is an element whose tag is an `h` and the digit of a rank from 1 to 6, with padding
in between. -/
def HasPaddedTag (node : Node) (rank : Nat) : Prop :=
  (1 ≤ rank ∧ rank ≤ 6) ∧
    ∃ padding, IsPadding padding ∧ padding ≠ [] ∧ node.isTag (paddedTag padding rank) = true

theorem headingRank?_eq_some_iff_byte? {node : Node} {rank : Nat} :
    node.headingRank? = some rank ↔ (1 ≤ rank ∧ rank ≤ 6) ∧
      ∃ tag digits, node.tag? = some tag ∧ tag.toList = 'h' :: digits ∧
        byte? digits = some rank := by
  constructor
  · intro h
    rw [headingRank?] at h
    split at h
    · next digits hdigits =>
      obtain ⟨tag, htag, hlist⟩ := Option.map_eq_some_iff.mp hdigits
      split at h
      · next hbyte =>
        split at h
        · next hrank =>
          obtain rfl := Option.some.inj h
          exact ⟨hrank, tag, digits, htag, hlist, hbyte⟩
        · cases h
      · cases h
    · cases h
  · rintro ⟨hrank, tag, digits, htag, hlist, hbyte⟩
    simp only [headingRank?, htag, Option.map_some, hlist, hbyte, if_pos hrank]

/-- The rank of a node is told by its tag, whatever padding is in it. -/
theorem headingRank?_eq_some_iff_paddedTag {node : Node} {rank : Nat} :
    node.headingRank? = some rank ↔ (1 ≤ rank ∧ rank ≤ 6) ∧
      ∃ padding, IsPadding padding ∧ node.isTag (paddedTag padding rank) = true := by
  simp only [headingRank?_eq_some_iff_byte?, byte?_eq_some_iff, isTag_paddedTag_iff]
  constructor
  · rintro ⟨hrank, tag, digits, htag, hlist, -, padding, hpadding, rfl⟩
    exact ⟨hrank, padding, hpadding, tag, htag, hlist⟩
  · rintro ⟨hrank, padding, hpadding, tag, htag, hlist⟩
    exact ⟨hrank, tag, _, htag, hlist, by omega, padding, hpadding, rfl⟩

theorem headingRank?_eq_some_iff {node : Node} {rank : Nat} :
    node.headingRank? = some rank ↔ node.HasRankTag rank ∨ node.HasPaddedTag rank := by
  rw [headingRank?_eq_some_iff_paddedTag]
  constructor
  · rintro ⟨hrank, padding, hpadding, htag⟩
    by_cases hnil : padding = []
    · rw [hnil, paddedTag_nil] at htag
      exact .inl ⟨hrank, htag⟩
    · exact .inr ⟨hrank, padding, hpadding, hnil, htag⟩
  · rintro (⟨hrank, htag⟩ | ⟨hrank, padding, hpadding, -, htag⟩)
    · exact ⟨hrank, [], .zeros 0, by rwa [paddedTag_nil]⟩
    · exact ⟨hrank, padding, hpadding, htag⟩

theorem HasRankTag.not_hasPaddedTag {node : Node} {rank : Nat} (h : node.HasRankTag rank) :
    ¬node.HasPaddedTag rank := by
  rintro ⟨-, padding, -, hne, hpadded⟩
  have htag := h.2
  rw [isTag, beq_iff_eq] at htag hpadded
  rw [htag, ← paddedTag_nil] at hpadded
  exact hne (padding_eq_of_paddedTag_eq (Option.some.inj hpadded)).symm

/-- A node has a rank when its tag is an `h` and the digit of the rank, or when there is padding
in between. A search for the tag with the digit alone agrees with that exactly when there is no
padding. The nodes with such a tag are the headings, and no others end sections. -/
theorem headingRank?_iff_rankTag_or_paddedTag (node : Node) :
    (∀ rank, node.headingRank? = some rank ↔ node.HasRankTag rank ∨ node.HasPaddedTag rank) ∧
    (∀ rank, (node.headingRank? = some rank ↔ node.HasRankTag rank) ↔
      ¬node.HasPaddedTag rank) ∧
    (node.isHeading = true ↔ ∃ rank, node.HasRankTag rank ∨ node.HasPaddedTag rank) ∧
    ∀ own, Run.endsSection own node = true ↔
      ∃ limit ∈ own, ∃ rank ≤ limit, node.HasRankTag rank ∨ node.HasPaddedTag rank := by
  refine ⟨fun rank => headingRank?_eq_some_iff, fun rank => ?_, ?_, fun own => ?_⟩
  · rw [headingRank?_eq_some_iff]
    constructor
    · intro hagree hpadded
      exact (hagree.mp (.inr hpadded)).not_hasPaddedTag hpadded
    · exact fun hnone => ⟨fun h => h.resolve_right hnone, .inl⟩
  · rw [isHeading, Option.isSome_iff_exists]
    simp only [headingRank?_eq_some_iff]
  · rw [Run.endsSection_iff]
    simp only [headingRank?_eq_some_iff]

/-- A tag with a plus sign and a zero has a rank, makes a heading of the node and ends sections,
though it is not the tag of that rank. -/
theorem headingRank?_paddedTag :
    (bare "h+02").headingRank? = some 2 ∧
      ¬((bare "h+02").headingRank? = some 2 ↔ (bare "h+02").HasRankTag 2) ∧
      (bare "h+02").isHeading = true ∧ Run.endsSection (some 3) (bare "h+02") = true := by
  obtain ⟨hrank, hagrees, hheading, hends⟩ := headingRank?_iff_rankTag_or_paddedTag (bare "h+02")
  have hpadded : (bare "h+02").HasPaddedTag 2 :=
    ⟨by decide, _, .plus 1, by decide, by decide⟩
  exact ⟨(hrank 2).mpr (.inr hpadded), fun h => (hagrees 2).mp h hpadded,
    hheading.mpr ⟨2, .inr hpadded⟩, (hends (some 3)).mpr ⟨3, rfl, 2, by decide, .inr hpadded⟩⟩

end Node

/-- A page with an HTML block whose tag has a zero in front of the rank. -/
def paddedPage : String := "<h02>\nTitle\n</h02>\n"

/-- The block is a heading of rank 2 and ends sections of that rank, but its tag is another one
than `h2`. -/
theorem heading_paddedPage : ∃ heading ∈ (Node.ofMarkdown paddedPage).headings,
    heading.headingRank? = some 2 ∧ heading.isTag "h2" = false ∧
      Run.endsSection (some 2) heading = true := by
  have h : ((Node.ofMarkdown paddedPage).headings.map fun heading =>
      (heading.headingRank?, heading.isTag "h2", Run.endsSection (some 2) heading)) =
        [(some 2, false, true)] := by decide +kernel
  obtain ⟨heading, hheading, hvalues⟩ :=
    List.mem_map.mp (h ▸ List.mem_singleton_self (some 2, false, true))
  obtain ⟨hrank, hothers⟩ := Prod.mk.inj hvalues
  obtain ⟨htag, hends⟩ := Prod.mk.inj hothers
  exact ⟨heading, hheading, hrank, htag, hends⟩

end PageRecipe
