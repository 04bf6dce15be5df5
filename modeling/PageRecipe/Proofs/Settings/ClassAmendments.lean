import Mathlib.Data.List.Induction
import Mathlib.Data.List.Sort
import Mathlib.Data.String.Basic
import PageRecipe.Settings.Classes

/-!
# Amended classes

The classes of admonitions are amended one by one, and an amendment may take back what an earlier
one did. Here is what is left in the end, without a look at the steps : an amendment mentions one
class (`Mentions`), and the last mention of a class decides about it. A class that is not
mentioned stays as it was (`mem_merge_iff`).

The result is in ascending order (`pairwise_merge`), so it is determined by what it contains, and
that depends on the classes before only through what these contain (`merge_last_mention`).
-/

namespace PageRecipe.Classes

/-! ## Ascending order -/

theorem pairwise_insert (name : String) {classes : List String}
    (hsorted : classes.Pairwise (· < ·)) : (insert name classes).Pairwise (· < ·) := by
  induction classes with
  | nil => exact List.pairwise_singleton _ _
  | cons other rest ih =>
    obtain ⟨hother, hrest⟩ := List.pairwise_cons.mp hsorted
    rw [insert]
    split
    · next hlt =>
      refine List.pairwise_cons.mpr ⟨fun later hlater => ?_, hsorted⟩
      obtain rfl | hlater := List.mem_cons.mp hlater
      · exact hlt
      · exact hlt.trans (hother later hlater)
    · next hnotlt =>
      split
      · exact hsorted
      · next hne =>
        have hname : other < name := lt_of_le_of_ne (not_lt.mp hnotlt) (Ne.symm hne)
        refine List.pairwise_cons.mpr ⟨fun later hlater => ?_, ih hrest⟩
        obtain rfl | hlater := mem_insert.mp hlater
        · exact hname
        · exact hother later hlater

theorem pairwise_amend (amendment : String) {classes : List String}
    (hsorted : classes.Pairwise (· < ·)) : (amend classes amendment).Pairwise (· < ·) := by
  rw [amend]
  split
  · exact hsorted.filter _
  · exact pairwise_insert _ hsorted

theorem ofList_concat (init : List String) (name : String) :
    ofList (init ++ [name]) = insert name (ofList init) := by
  rw [ofList, List.foldl_concat, ofList]

theorem pairwise_ofList (names : List String) : (ofList names).Pairwise (· < ·) := by
  induction names using List.reverseRecOn with
  | nil => exact .nil
  | append_singleton init name ih =>
    rw [ofList_concat]
    exact pairwise_insert _ ih

theorem mem_ofList {x : String} {names : List String} : x ∈ ofList names ↔ x ∈ names := by
  induction names using List.reverseRecOn with
  | nil => rfl
  | append_singleton init name ih =>
    rw [ofList_concat, mem_insert, ih, List.mem_append, List.mem_singleton, or_comm]

theorem merge_nil (base : List String) : merge base [] = ofList base := rfl

theorem merge_concat (base init : List String) (amendment : String) :
    merge base (init ++ [amendment]) = amend (merge base init) amendment := by
  rw [merge, List.foldl_concat, merge]

theorem pairwise_merge (base amendments : List String) :
    (merge base amendments).Pairwise (· < ·) := by
  induction amendments using List.reverseRecOn with
  | nil => exact pairwise_ofList base
  | append_singleton init amendment ih =>
    rw [merge_concat]
    exact pairwise_amend _ ih

/-! ## Mentions -/

/-- The amendment is about the class : it names the class behind an exclamation mark, or it is
the class and has no such mark in front. -/
def Mentions (amendment name : String) : Prop :=
  amendment = "!" ++ name ∨ amendment = name ∧ amendment.toList.head? ≠ some '!'

/-- The last of the amendments that are about a class. -/
def IsLastMention (amendments : List String) (amendment name : String) : Prop :=
  ∃ before after, amendments = before ++ amendment :: after ∧ Mentions amendment name ∧
    ∀ later ∈ after, ¬Mentions later name

theorem removed?_eq_some_iff {amendment name : String} :
    removed? amendment = some name ↔ amendment = "!" ++ name := by
  rw [← String.toList_inj, String.toList_append, removed?]
  split
  · next rest h =>
    rw [h, Option.some.injEq, ← String.toList_inj, String.toList_ofList]
    simp
  · next h =>
    exact iff_of_false (Option.some_ne_none name).symm fun hmark => h name.toList hmark

theorem removed?_eq_none_iff {amendment : String} :
    removed? amendment = none ↔ amendment.toList.head? ≠ some '!' := by
  rw [removed?]
  split
  · next rest h => simp [h]
  · next h =>
    refine ⟨fun _ hhead => ?_, fun _ => rfl⟩
    obtain ⟨rest, hrest⟩ := List.head?_eq_some_iff.mp hhead
    exact h rest hrest

/-- An amendment mentions the class that it takes away, or else itself. -/
theorem mentions_iff {amendment name : String} : Mentions amendment name ↔
    (removed? amendment).getD amendment = name := by
  rw [Mentions, ← removed?_eq_some_iff, ← removed?_eq_none_iff]
  cases removed? amendment <;> simp

/-- An amendment decides about the class that it mentions, and about no other one. -/
theorem mem_amend_iff {x amendment : String} {classes : List String} :
    x ∈ amend classes amendment ↔
      Mentions amendment x ∧ amendment = x ∨ ¬Mentions amendment x ∧ x ∈ classes := by
  rw [mem_amend, mentions_iff]
  cases hremoved : removed? amendment with
  | some name =>
    have hne : name ≠ amendment := fun h => by
      have hlength := congrArg String.length (removed?_eq_some_iff.mp hremoved)
      rw [h] at hlength
      simp at hlength
    simp only [Option.getD_some]
    constructor
    · rintro ⟨hx, hxne⟩
      exact Or.inr ⟨Ne.symm hxne, hx⟩
    · rintro (⟨rfl, rfl⟩ | ⟨hx, hmem⟩)
      · exact absurd rfl hne
      · exact ⟨hmem, Ne.symm hx⟩
  | none =>
    simp only [Option.getD_none, and_self]
    constructor
    · rintro (rfl | hmem)
      · exact Or.inl rfl
      · by_cases hx : amendment = x
        · exact Or.inl hx
        · exact Or.inr ⟨hx, hmem⟩
    · rintro (rfl | ⟨-, hmem⟩)
      · exact Or.inl rfl
      · exact Or.inr hmem

/-- One more amendment is the last mention of what it mentions and leaves the others. -/
theorem isLastMention_concat_iff {init : List String} {amendment x : String} :
    IsLastMention (init ++ [amendment]) x x ↔
      Mentions amendment x ∧ amendment = x ∨ ¬Mentions amendment x ∧ IsLastMention init x x := by
  constructor
  · rintro ⟨before, after, happend, hmentions, hlater⟩
    obtain rfl | ⟨later, last, rfl⟩ := List.eq_nil_or_concat' after
    · obtain rfl := List.singleton_inj.mp (List.append_inj' happend rfl).2
      exact Or.inl ⟨hmentions, rfl⟩
    · rw [← List.cons_append, ← List.append_assoc] at happend
      obtain ⟨rfl, hlast⟩ := List.append_inj' happend rfl
      obtain rfl := List.singleton_inj.mp hlast
      rw [List.forall_mem_append, List.forall_mem_singleton] at hlater
      exact Or.inr ⟨hlater.2, before, later, rfl, hmentions, hlater.1⟩
  · rintro (⟨hmentions, rfl⟩ | ⟨hnot, before, after, rfl, hmentions, hlater⟩)
    · exact ⟨init, [], rfl, hmentions, by simp⟩
    · refine ⟨before, after ++ [amendment], by simp, hmentions, ?_⟩
      rw [List.forall_mem_append, List.forall_mem_singleton]
      exact ⟨hlater, hnot⟩

/-! ## What is left -/

/-- A class is left when it is its own last mention, or when nothing mentions it and it was
there. -/
theorem mem_merge_iff {base amendments : List String} {x : String} :
    x ∈ merge base amendments ↔ IsLastMention amendments x x ∨
      (∀ amendment ∈ amendments, ¬Mentions amendment x) ∧ x ∈ base := by
  induction amendments using List.reverseRecOn with
  | nil =>
    have hnever : ¬IsLastMention [] x x := by
      rintro ⟨before, after, happend, -⟩
      simp at happend
    simp [merge_nil, mem_ofList, hnever]
  | append_singleton init amendment ih =>
    rw [merge_concat, mem_amend_iff, ih, isLastMention_concat_iff, List.forall_mem_append,
      List.forall_mem_singleton]
    by_cases h : Mentions amendment x <;> simp [h]

/-- Amended classes are determined by what they contain. -/
theorem merge_eq_of_mem_iff {base other amendments : List String}
    (h : ∀ x, x ∈ merge other amendments ↔ x ∈ merge base amendments) :
    merge other amendments = merge base amendments :=
  (pairwise_merge other amendments).eq_of_mem_iff (pairwise_merge base amendments) h

/-- Amended classes are in ascending order, so none is repeated, and they are those whose last
mention is the class itself and those that were there and are not mentioned. Amending them
another time changes nothing, and neither does another order or multiplicity of the classes that
were there. -/
theorem merge_last_mention (base amendments : List String) :
    (merge base amendments).Pairwise (· < ·) ∧
    (∀ name, name ∈ merge base amendments ↔ IsLastMention amendments name name ∨
      (∀ amendment ∈ amendments, ¬Mentions amendment name) ∧ name ∈ base) ∧
    merge (merge base amendments) amendments = merge base amendments ∧
    ∀ other : List String, (∀ name, name ∈ other ↔ name ∈ base) →
      merge other amendments = merge base amendments := by
  refine ⟨pairwise_merge base amendments, fun name => mem_merge_iff, ?_, fun other hother => ?_⟩
  · refine merge_eq_of_mem_iff fun name => ?_
    rw [mem_merge_iff, mem_merge_iff]
    tauto
  · refine merge_eq_of_mem_iff fun name => ?_
    rw [mem_merge_iff, mem_merge_iff, hother]

/-- Classes in another order, one of them twice, are amended alike. -/
theorem merge_shuffledClasses :
    (∀ name, name ∈ ["note", "warn", "note"] ↔ name ∈ ["warn", "note"]) ∧
      merge ["note", "warn", "note"] ["tip", "!warn"] =
        merge ["warn", "note"] ["tip", "!warn"] := by
  have hsame : ∀ name, name ∈ ["note", "warn", "note"] ↔ name ∈ ["warn", "note"] := by
    intro name
    simp only [List.mem_cons, List.not_mem_nil, or_false]
    tauto
  exact ⟨hsame, (merge_last_mention ["warn", "note"] ["tip", "!warn"]).2.2.2 _ hsame⟩

/-- Classes that begin with an exclamation mark can be taken away but not added. -/
example : merge ["!x", "b"] ["!x", "!!x", "a", "!b", "b", "!a"] = ["b"] := by decide

end PageRecipe.Classes
