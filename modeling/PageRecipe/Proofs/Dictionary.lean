import Mathlib.Data.List.Induction
import Mathlib.Data.List.Nodup
import Mathlib.Data.List.Perm.Basic
import Mathlib.Data.String.Basic
import PageRecipe.Dictionary

/-!
# Dictionaries of written entries

Entries that are written one after the other make a dictionary, in which later ones win
(`Dictionary.ofEntries`). Its labels are theirs (`mem_labels_ofEntries`), in ascending order
(`pairwise_ofEntries`).

What is lost are repeated labels. Where none is repeated the dictionary has exactly the entries
(`perm_ofEntries`). Several entries of one label leave only the last of them
(`ofEntries_of_oneLabel`), so a dictionary has a single entry when one label was written, however
often (`length_ofEntries_eq_one_iff`).
-/

namespace PageRecipe.Dictionary

variable {α : Type}

/-! ## One more entry -/

theorem ofEntries_concat (init : List (String × α)) (label : String) (value : α) :
    ofEntries (init ++ [(label, value)]) = (ofEntries init).insert label value := by
  rw [ofEntries, List.foldl_concat, ofEntries]

theorem mem_labels_insert {label other : String} {value : α} {dictionary : Dictionary α} :
    other ∈ (dictionary.insert label value).labels ↔ other = label ∨ other ∈ dictionary.labels := by
  by_cases h : other = label
  · subst h
    simp [mem_labels_iff, get?_insert_self]
  · simp [mem_labels_iff, get?_insert_of_ne h, h]

/-- The order of the labels is kept. -/
theorem pairwise_insert (label : String) (value : α) {dictionary : Dictionary α}
    (hsorted : dictionary.Pairwise (·.1 < ·.1)) :
    (dictionary.insert label value).Pairwise (·.1 < ·.1) := by
  induction dictionary with
  | nil => exact List.pairwise_singleton _ _
  | cons entry rest ih =>
    obtain ⟨other, old⟩ := entry
    obtain ⟨hother, hrest⟩ := List.pairwise_cons.mp hsorted
    rw [insert]
    split
    · next hlt =>
      refine List.pairwise_cons.mpr ⟨fun later hlater => ?_, hsorted⟩
      obtain rfl | hlater := List.mem_cons.mp hlater
      · exact hlt
      · exact hlt.trans (hother later hlater)
    · next hnotlt =>
      split
      · next heq =>
        subst heq
        exact List.pairwise_cons.mpr ⟨hother, hrest⟩
      · next hne =>
        have hlabel : other < label := lt_of_le_of_ne (not_lt.mp hnotlt) (Ne.symm hne)
        refine List.pairwise_cons.mpr ⟨fun later hlater => ?_, ih hrest⟩
        obtain heq | hmem := mem_labels_insert.mp (List.mem_map_of_mem hlater)
        · exact heq ▸ hlabel
        · obtain ⟨found, hfound, heq⟩ := List.mem_map.mp hmem
          exact heq ▸ hother found hfound

/-- Under a new label nothing is lost. -/
theorem perm_insert {label : String} {dictionary : Dictionary α} (hnew : label ∉ dictionary.labels)
    (value : α) : (dictionary.insert label value).Perm ((label, value) :: dictionary) := by
  induction dictionary with
  | nil => exact .refl _
  | cons entry rest ih =>
    obtain ⟨other, old⟩ := entry
    rw [labels, List.map_cons, List.mem_cons, not_or] at hnew
    rw [insert, if_neg hnew.1]
    split
    · exact .refl _
    · exact ((ih hnew.2).cons (other, old)).trans (.swap _ _ _)

/-! ## All entries -/

theorem mem_labels_ofEntries {label : String} {entries : List (String × α)} :
    label ∈ (ofEntries entries).labels ↔ label ∈ entries.map (·.1) := by
  induction entries using List.reverseRecOn with
  | nil => rfl
  | append_singleton init entry ih =>
    rw [ofEntries_concat, mem_labels_insert, ih, List.map_append, List.mem_append, or_comm]
    simp

theorem pairwise_ofEntries (entries : List (String × α)) :
    (ofEntries entries).Pairwise (·.1 < ·.1) := by
  induction entries using List.reverseRecOn with
  | nil => exact .nil
  | append_singleton init entry ih =>
    rw [ofEntries_concat]
    exact pairwise_insert _ _ ih

/-- Entries of different labels are all kept. -/
theorem perm_ofEntries {entries : List (String × α)} (hdistinct : (entries.map (·.1)).Nodup) :
    (ofEntries entries).Perm entries := by
  induction entries using List.reverseRecOn with
  | nil => exact .refl _
  | append_singleton init entry ih =>
    rw [List.map_append, List.nodup_append_comm, List.map_singleton, List.singleton_append,
      List.nodup_cons] at hdistinct
    rw [ofEntries_concat]
    have hnew : entry.1 ∉ (ofEntries init).labels := by
      rw [mem_labels_ofEntries]
      exact hdistinct.1
    exact ((perm_insert hnew entry.2).trans ((ih hdistinct.2).cons entry)).trans
      (List.perm_append_singleton entry init).symm

/-! ## One label -/

theorem insert_of_oneLabel {label : String} {dictionary : Dictionary α}
    (hone : ∀ entry ∈ dictionary, entry.1 = label) (hlength : dictionary.length ≤ 1) (value : α) :
    dictionary.insert label value = [(label, value)] := by
  match dictionary with
  | [] => rfl
  | [(other, old)] =>
    obtain rfl : other = label := hone _ (List.mem_singleton_self _)
    rw [insert, if_neg (lt_irrefl _), if_pos rfl]

/-- Of several entries of one label the last is left. -/
theorem ofEntries_of_oneLabel {label : String} {init : List (String × α)}
    (hone : ∀ entry ∈ init, entry.1 = label) (value : α) :
    ofEntries (init ++ [(label, value)]) = [(label, value)] := by
  induction init using List.reverseRecOn generalizing value with
  | nil => rfl
  | append_singleton init entry ih =>
    rw [List.forall_mem_append, List.forall_mem_singleton] at hone
    obtain ⟨hinit, rfl⟩ := hone
    rw [ofEntries_concat, ih hinit entry.2]
    exact insert_of_oneLabel (by simp) (by simp) value

/-- A single entry is left when one label was written, however often. -/
theorem length_ofEntries_eq_one_iff {entries : List (String × α)} :
    (ofEntries entries).length = 1 ↔ ∃ label init value,
      entries = init ++ [(label, value)] ∧ ∀ entry ∈ init, entry.1 = label := by
  constructor
  · intro h
    obtain ⟨⟨label, value⟩, honly⟩ := List.length_eq_one_iff.mp h
    have hlabel : ∀ entry ∈ entries, entry.1 = label := by
      intro entry hentry
      have hmem := mem_labels_ofEntries.mpr (List.mem_map_of_mem hentry)
      simpa [honly, labels] using hmem
    obtain rfl | ⟨init, last, rfl⟩ := List.eq_nil_or_concat' entries
    · cases honly
    · rw [List.forall_mem_append, List.forall_mem_singleton] at hlabel
      exact ⟨label, init, last.2, by rw [← hlabel.2], hlabel.1⟩
  · rintro ⟨label, init, value, rfl, hone⟩
    rw [ofEntries_of_oneLabel hone]
    rfl

/-- Entries of different labels, or no entries, do not make a dictionary of one label. -/
theorem length_ofEntries_ne_one {entries : List (String × α)}
    (hlabels : entries = [] ∨ ∃ a ∈ entries, ∃ b ∈ entries, a.1 ≠ b.1) :
    (ofEntries entries).length ≠ 1 := by
  intro h
  obtain ⟨label, init, value, rfl, hone⟩ := length_ofEntries_eq_one_iff.mp h
  have hall : ∀ entry ∈ init ++ [(label, value)], entry.1 = label := by
    rw [List.forall_mem_append, List.forall_mem_singleton]
    exact ⟨hone, rfl⟩
  obtain hnil | ⟨a, ha, b, hb, hne⟩ := hlabels
  · simp at hnil
  · exact hne ((hall a ha).trans (hall b hb).symm)

end PageRecipe.Dictionary
