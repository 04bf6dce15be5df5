import Mathlib.Data.List.Lex
import Mathlib.Data.List.Nodup
import Mathlib.Data.Prod.Lex
import Mathlib.Data.String.Basic
import PageRecipe.Files.Path

/-!
# The order of paths

Paths are ordered part by part, so a path comes before those below it, and a name before the
names that go on behind it, whatever the characters are (`FilePath.ComesBefore`). `FilePath.le`
is this order up to equal parts (`FilePath.le_iff`), so paths with different parts that are
sorted by it stand in strictly ascending order (`FilePath.pairwise_comesBefore_mergeSort`).
-/

namespace PageRecipe

namespace PathPart

/-- A part comes before another one. -/
def ComesBefore (a b : PathPart) : Prop := a.before b = true

/-- Parts are ordered by their standing, and names among themselves as texts. -/
theorem comesBefore_iff {a b : PathPart} :
    a.ComesBefore b ↔ toLex (a.rank, a.text) < toLex (b.rank, b.text) := by
  rw [ComesBefore, Prod.Lex.toLex_lt_toLex]
  cases a <;> cases b <;> simp [before, rank, text]

theorem ComesBefore.trans {a b c : PathPart} (hab : a.ComesBefore b) (hbc : b.ComesBefore c) :
    a.ComesBefore c := by
  rw [comesBefore_iff] at *
  exact hab.trans hbc

/-- Of two parts neither of which comes before the other there is only one. -/
theorem eq_of_not_comesBefore {a b : PathPart} (hab : ¬a.ComesBefore b) (hba : ¬b.ComesBefore a) :
    a = b := by
  rw [comesBefore_iff, not_lt] at hab hba
  obtain ⟨hrank, htext⟩ := Prod.mk.inj (toLex_inj.mp (le_antisymm hba hab))
  cases a <;> cases b <;> simp_all [rank, text]

instance : Std.Trichotomous ComesBefore := ⟨fun _ _ => eq_of_not_comesBefore⟩

end PathPart

namespace FilePath

/-- A path comes before another one in the order of their parts : it is above the other one, or
its part comes first where they differ. -/
def ComesBefore (a b : FilePath) : Prop := List.Lex PathPart.ComesBefore a.parts b.parts

theorem partsLe_iff {as bs : List PathPart} :
    partsLe as bs = true ↔ as = bs ∨ List.Lex PathPart.ComesBefore as bs := by
  induction as generalizing bs with
  | nil =>
    cases bs with
    | nil => simp [partsLe]
    | cons b bs => simp [partsLe]
  | cons a as ih =>
    cases bs with
    | nil => simp [partsLe]
    | cons b bs =>
      rw [partsLe, Bool.or_eq_true, Bool.and_eq_true, beq_iff_eq, ih, List.cons.injEq]
      constructor
      · rintro (h | ⟨rfl, rfl | h⟩)
        · exact Or.inr (.rel h)
        · exact Or.inl ⟨rfl, rfl⟩
        · exact Or.inr (.cons h)
      · rintro (⟨rfl, rfl⟩ | h)
        · exact Or.inr ⟨rfl, Or.inl rfl⟩
        · cases h with
          | rel h => exact Or.inl h
          | cons h => exact Or.inr ⟨rfl, Or.inr h⟩

theorem le_iff {a b : FilePath} : a.le b = true ↔ a.parts = b.parts ∨ a.ComesBefore b :=
  partsLe_iff

theorem le_trans (a b c : FilePath) (hab : a.le b = true) (hbc : b.le c = true) :
    a.le c = true := by
  rw [le_iff] at hab hbc ⊢
  rcases hab with hab | hab
  · rwa [hab, ComesBefore, hab]
  · rcases hbc with hbc | hbc
    · rw [ComesBefore, ← hbc]
      exact Or.inr hab
    · exact Or.inr (List.lex_trans PathPart.ComesBefore.trans hab hbc)

theorem le_total (a b : FilePath) : (a.le b || b.le a) = true := by
  rw [Bool.or_eq_true, le_iff, le_iff]
  by_cases hab : a.ComesBefore b
  · exact Or.inl (Or.inr hab)
  · by_cases hba : b.ComesBefore a
    · exact Or.inr (Or.inr hba)
    · exact Or.inl (Or.inl (Std.Trichotomous.trichotomous _ _ hab hba))

/-- The character behind a part does not count. -/
example : (⟨"a/docs.md"⟩ : FilePath).le ⟨"a-b/docs.md"⟩ = true ∧ "a-b/docs.md" < "a/docs.md" := by
  decide

/-- Paths with different parts that are sorted stand in strictly ascending order. -/
theorem pairwise_comesBefore_mergeSort {paths : List FilePath}
    (hdistinct : (paths.map parts).Nodup) : (paths.mergeSort le).Pairwise ComesBefore := by
  have hsorted : (paths.mergeSort le).Pairwise fun a b => a.le b = true :=
    List.pairwise_mergeSort le_trans le_total paths
  have hparts : (paths.mergeSort le).Pairwise fun a b => a.parts ≠ b.parts :=
    List.pairwise_map.mp (((paths.mergeSort_perm le).map parts).nodup_iff.mpr hdistinct)
  exact hsorted.imp₂ (fun a b hle hne => (le_iff.mp hle).resolve_left hne) hparts

end FilePath

end PageRecipe
