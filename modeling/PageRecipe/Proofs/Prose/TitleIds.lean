import Mathlib.Data.List.ReduceOption
import PageRecipe.Proofs.Text.Blanks
import PageRecipe.Prose.Builder

/-!
# The ids of titles

A heading that is given no id gets the one of its title. The id is the words of the title with an
underscore in each joint between two of them (`toList_headingId`), so the blanks of the title have
no part in it (`headingId_trimmed`, `headingId_joins_words`), and what is left without the joints
is what is not blank in the title (`reduceOption_withJoints`). An id has no blanks, and a text
without blanks is its own id (`headingId_of_no_blank`).
-/

namespace PageRecipe

/-! ## Joints between words -/

/-- The characters of words in order, with `none` for each joint between two words. -/
def withJoints : List (List Char) → List (Option Char)
  | [] => []
  | [word] => word.map some
  | word :: next :: rest => word.map some ++ none :: withJoints (next :: rest)

/-- Words with a character in each joint are the words joined by it. -/
theorem map_withJoints (filling : Char) (words : List (List Char)) :
    (withJoints words).map (·.getD filling) = List.intercalate [filling] words := by
  have hword : ∀ word : List Char, (word.map some).map (·.getD filling) = word := fun word => by
    rw [List.map_map]
    exact List.map_id word
  fun_induction withJoints words with
  | case1 => rfl
  | case2 word => rw [hword, List.intercalate_singleton]
  | case3 word next rest ih =>
    rw [List.map_append, hword, List.map_cons, ih, List.intercalate_cons_cons, List.append_assoc]
    rfl

/-- Words without the joints between them. -/
theorem reduceOption_withJoints (words : List (List Char)) :
    (withJoints words).reduceOption = words.flatten := by
  have hword : ∀ word : List Char, (word.map some).reduceOption = word := fun word => by
    rw [List.reduceOption, List.filterMap_map]
    exact List.filterMap_some
  fun_induction withJoints words with
  | case1 => rfl
  | case2 word => rw [hword, List.flatten_singleton]
  | case3 word next rest ih =>
    rw [List.reduceOption_append, hword, List.reduceOption_cons_of_none, ih]
    rfl

/-- There is one joint less than there are words. -/
theorem count_none_withJoints (words : List (List Char)) :
    (withJoints words).count none = words.length - 1 := by
  have hword : ∀ word : List Char, (word.map some).count none = 0 := fun word =>
    List.count_eq_zero.mpr fun h => by simp at h
  fun_induction withJoints words with
  | case1 => rfl
  | case2 word => exact hword word
  | case3 word next rest ih =>
    rw [List.count_append, hword, List.count_cons_self, ih, Nat.zero_add]
    rfl

/-! ## Ids -/

theorem toList_headingId (title : String) :
    (headingId title).toList = (withJoints (Text.words title.toList)).map (·.getD '_') := by
  rw [headingId, String.toList_ofList, map_withJoints]

/-- A character of an id is an underscore or one of the title's that is not blank. -/
theorem isBlank_of_mem_headingId {title : String} {c : Char} (h : c ∈ (headingId title).toList) :
    Text.isBlank c = false := by
  rw [toList_headingId] at h
  obtain ⟨mark, hmark, rfl⟩ := List.mem_map.mp h
  cases mark with
  | none => rfl
  | some c =>
    have hkept := List.reduceOption_mem_iff.mpr hmark
    rw [reduceOption_withJoints, (Text.words_eq_iff.mp rfl).flatten_eq] at hkept
    simpa using (List.mem_filter.mp hkept).2

/-- A text without blanks is its own id. -/
theorem headingId_of_no_blank {title : String}
    (h : ∀ c ∈ title.toList, Text.isBlank c = false) : headingId title = title := by
  rw [headingId, ← String.toList_inj, String.toList_ofList]
  by_cases hnil : title.toList = []
  · rw [hnil]
    rfl
  · have hword : Text.words (title.toList ++ []) = title.toList :: Text.words [] :=
      Text.words_append_of_word ⟨hnil, h⟩ rfl
    rw [List.append_nil] at hword
    rw [hword]
    exact List.intercalate_singleton

/-- Blanks at the ends of a title have no part in its id. -/
theorem headingId_trimmed (title : String) : headingId (Text.trimmed title) = headingId title := by
  rw [headingId, Text.trimmed, String.toList_ofList, Text.words_trim, ← headingId]

/-- A title is made of words, and its id is these words with underscores in their joints. Without
the joints it is what is not blank in the title. Any other title that is made of the same words
has the same id, whatever blanks stand between and around them. The id has no blanks, and it is
its own id. -/
theorem headingId_joins_words (title : String) : ∃ words, Text.HasWords title.toList words ∧
    (headingId title).toList = (withJoints words).map (·.getD '_') ∧
    (withJoints words).reduceOption = title.toList.filter (fun c => !Text.isBlank c) ∧
    (withJoints words).count none = words.length - 1 ∧
    (∀ other : String, Text.HasWords other.toList words → headingId other = headingId title) ∧
    (∀ c ∈ (headingId title).toList, Text.isBlank c = false) ∧
    headingId (headingId title) = headingId title := by
  have hwords := Text.words_eq_iff.mp (rfl : Text.words title.toList = _)
  have hkept := (reduceOption_withJoints _).trans hwords.flatten_eq
  have hnone : ∀ c ∈ (headingId title).toList, Text.isBlank c = false :=
    fun c => isBlank_of_mem_headingId
  refine ⟨_, hwords, toList_headingId title, hkept, count_none_withJoints _,
    fun other hother => ?_, hnone, headingId_of_no_blank hnone⟩
  rw [headingId, hother.words_eq, ← headingId]

example : headingId " a_ \u3000b\tc " = "a__b_c" := by decide

end PageRecipe
