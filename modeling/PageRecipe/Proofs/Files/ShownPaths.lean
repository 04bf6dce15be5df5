import PageRecipe.Proofs.Files.PathParts

/-!
# Paths as they are shown

A report names a page by the path as someone in the project directory would write it
(`FilePath.shownFrom`). The parts of the two paths are walked side by side. Behind the root no
part stands for the directory in which a path starts, so the walk takes one of two ways : it uses
up the directory and what is left leads down from it, or else it leads up first, or nowhere
(`partsFrom_cases`).

What leads down is written as a path with these parts, so it can be taken from the directory
again, and this gives the parts of the path that is named (`LeadsDown.parts_join`). Every other
path is shown as it is (`shownFrom_cases`).
-/

namespace PageRecipe.FilePath

/-! ## The walk along two paths -/

/-- How far the walk has come stays in front. -/
theorem isPrefix_of_partsFrom {before path root parts : List PathPart}
    (h : partsFrom before path root = some parts) : before <+: parts := by
  fun_induction partsFrom before path root with
  | case1 => exact (Option.some.inj h) ▸ List.prefix_rfl
  | case2 => exact (Option.some.inj h) ▸ List.prefix_append _ _
  | case3 before b root ih => exact (List.prefix_append _ _).trans (ih h)
  | case4 before a path b root heq ih => exact ih h
  | case5 before a path root heq ih => exact (List.prefix_append _ _).trans (ih h)
  | case6 => cases h
  | case7 =>
    obtain rfl := Option.some.inj h
    exact ⟨_, (List.append_assoc ..).symm⟩

/-- The walk goes along parts of the path, or up. -/
theorem mem_of_partsFrom {before path root parts : List PathPart}
    (h : partsFrom before path root = some parts) :
    ∀ part ∈ parts, part ∈ before ∨ part ∈ path ∨ part = .parent := by
  fun_induction partsFrom before path root with
  | case1 => exact fun part hpart => Or.inl ((Option.some.inj h) ▸ hpart)
  | case6 => cases h
  | case2 | case7 =>
    obtain rfl := Option.some.inj h
    simp only [List.mem_append, List.mem_cons, List.mem_map]
    grind
  | case3 before b root ih | case4 before a path b root heq ih | case5 before a path root heq ih =>
    have hparts := ih h
    grind

/-- The walk uses up all of `root`, or it leads up first, or nowhere. -/
theorem partsFrom_cases {root : List PathPart} (hroot : .current ∉ root) (path : List PathPart) :
    (∃ rest, path = root ++ rest ∧ partsFrom [] path root = some rest) ∨
      ¬root <+: path ∧ ∀ parts, partsFrom [] path root = some parts →
        parts.head? = some .parent := by
  induction root generalizing path with
  | nil => cases path <;> exact Or.inl ⟨_, rfl, rfl⟩
  | cons b root ih =>
    obtain ⟨hb, hrest⟩ := List.ne_and_not_mem_of_not_mem_cons hroot
    cases path with
    | nil =>
      refine Or.inr ⟨fun h => List.cons_ne_nil b root (List.prefix_nil.mp h), fun parts h => ?_⟩
      rw [partsFrom] at h
      obtain ⟨after, rfl⟩ := isPrefix_of_partsFrom h
      rfl
    | cons a path =>
      by_cases heq : a = b
      · subst heq
        rw [partsFrom, if_pos (by simp), List.prefix_cons_inj]
        rcases ih hrest path with ⟨rest, rfl, hdown⟩ | h
        · exact Or.inl ⟨rest, rfl, hdown⟩
        · exact Or.inr h
      · refine Or.inr ⟨fun h => heq (List.cons_prefix_cons.mp h).1.symm, fun parts h => ?_⟩
        rw [partsFrom, if_neg (by simp [heq]), if_neg (Ne.symm hb)] at h
        split at h
        · cases h
        · exact (Option.some.inj h) ▸ rfl

/-! ## Paths below a directory -/

/-- The parts `rest` lead from the directory `root` down to `path`. -/
structure LeadsDown (root : FilePath) (rest : List PathPart) (path : FilePath) : Prop where
  root_isAbsolute : root.isAbsolute = true
  path_isAbsolute : path.isAbsolute = true
  parts_eq : path.parts = root.parts ++ rest
  head?_ne : rest.head? ≠ some .parent

section

variable {root path : FilePath} {rest : List PathPart}

/-- What stands behind an absolute directory may be written anywhere. -/
theorem isOwnSegment_of_parts_eq (hroot : root.isAbsolute = true) (hpath : path.isAbsolute = true)
    (hparts : path.parts = root.parts ++ rest) : ∀ part ∈ rest, IsOwnSegment part := by
  rw [parts_of_isAbsolute hpath, parts_of_isAbsolute hroot, List.cons_append] at hparts
  intro part hpart
  refine @isOwnSegment_of_mem_counted path.text.toList part ?_
  rw [(List.cons.inj hparts).2]
  exact List.mem_append_right _ hpart

namespace LeadsDown

theorem isOwnSegment (h : LeadsDown root rest path) : ∀ part ∈ rest, IsOwnSegment part :=
  isOwnSegment_of_parts_eq h.root_isAbsolute h.path_isAbsolute h.parts_eq

theorem parts_ofParts (h : LeadsDown root rest path) : (ofParts rest).parts = rest :=
  FilePath.parts_ofParts h.isOwnSegment

theorem isAbsolute_ofParts (h : LeadsDown root rest path) : (ofParts rest).isAbsolute = false :=
  (parts_join_ofParts h.isOwnSegment).1

/-- Taken from the directory, the parts lead to the path. -/
theorem parts_join (h : LeadsDown root rest path) :
    (root.join (ofParts rest)).parts = path.parts := by
  have hroot : root.text.toList ≠ [] := fun hnil => by
    have habsolute := h.root_isAbsolute
    rw [isAbsolute, hnil] at habsolute
    cases habsolute
  rw [(parts_join_ofParts h.isOwnSegment).2 root hroot, h.parts_eq]

end LeadsDown

/-- Between absolute paths, what is written of the walk leads down from all of the directory, or
it starts by leading up. -/
theorem relativeTo?_cases (hroot : root.isAbsolute = true) (hpath : path.isAbsolute = true) :
    (∃ rest, path.parts = root.parts ++ rest ∧ path.relativeTo? root = some (ofParts rest)) ∨
      ¬root.parts <+: path.parts ∧ ∀ relative, path.relativeTo? root = some relative →
        relative.parts.head? = some .parent := by
  have hcurrent : .current ∉ counted root.text.toList := fun hmem =>
    (isOwnSegment_of_mem_counted hmem).ne_current rfl
  have hwalk : path.relativeTo? root =
      (partsFrom [] (counted path.text.toList) (counted root.text.toList)).map ofParts := by
    rw [relativeTo?, if_pos (hpath.trans hroot.symm), parts_of_isAbsolute hpath,
      parts_of_isAbsolute hroot, partsFrom, if_pos (by simp)]
  rw [hwalk, parts_of_isAbsolute hpath, parts_of_isAbsolute hroot, List.prefix_cons_inj]
  rcases partsFrom_cases hcurrent (counted path.text.toList) with
    ⟨rest, hparts, hdown⟩ | ⟨hnot, hup⟩
  · exact Or.inl ⟨rest, by rw [hparts, List.cons_append], by rw [hdown, Option.map_some]⟩
  · refine Or.inr ⟨hnot, fun relative hrelative => ?_⟩
    obtain ⟨parts, hparts, rfl⟩ := Option.map_eq_some_iff.mp hrelative
    have hown : ∀ part ∈ parts, IsOwnSegment part := fun part hpart => by
      rcases mem_of_partsFrom hparts part hpart with hmem | hmem | rfl
      · cases hmem
      · exact isOwnSegment_of_mem_counted hmem
      · exact ⟨by decide, rfl⟩
    rw [parts_ofParts hown]
    exact hup parts hparts

end

/-! ## Paths as they are shown -/

/-- Where the walk comes back to the path itself, or leads up first, or nowhere, the path is shown
as it is. -/
theorem shownFrom_eq_self {path root : FilePath}
    (h : ∀ relative, path.relativeTo? root = some relative →
      relative = path ∨ relative.parts.head? = some .parent) : path.shownFrom root = path := by
  rw [shownFrom]
  split
  · rfl
  · split
    · next relative hrelative =>
      split
      · rfl
      · next hhead => exact (h relative hrelative).resolve_right hhead
    · rfl

/-- A path below the directory is shown by the parts that lead down to it, and any other path as
it is. -/
theorem shownFrom_cases (path root : FilePath) :
    (∃ rest, LeadsDown root rest path ∧ path.shownFrom root = ofParts rest) ∨
      (∀ rest, ¬LeadsDown root rest path) ∧ path.shownFrom root = path := by
  by_cases habsolute : root.isAbsolute = true ∧ path.isAbsolute = true
  · obtain ⟨hroot, hpath⟩ := habsolute
    rcases relativeTo?_cases hroot hpath with ⟨rest, hparts, hrelative⟩ | ⟨hnot, hup⟩
    · have hrest := parts_ofParts (isOwnSegment_of_parts_eq hroot hpath hparts)
      by_cases hhead : rest.head? = some .parent
      · refine Or.inr ⟨fun other h => h.head?_ne ?_, shownFrom_eq_self fun relative h => ?_⟩
        · rwa [List.append_cancel_left (h.parts_eq.symm.trans hparts)]
        · obtain rfl := Option.some.inj (hrelative.symm.trans h)
          exact Or.inr (hrest.symm ▸ hhead)
      · refine Or.inl ⟨rest, ⟨hroot, hpath, hparts, hhead⟩, ?_⟩
        simp [shownFrom, hpath, hrelative, hrest, hhead]
    · exact Or.inr ⟨fun rest h => hnot ⟨rest, h.parts_eq.symm⟩,
        shownFrom_eq_self fun relative h => Or.inr (hup relative h)⟩
  · refine Or.inr ⟨fun rest h => habsolute ⟨h.root_isAbsolute, h.path_isAbsolute⟩, ?_⟩
    cases hpath : path.isAbsolute with
    | false => simp [shownFrom, hpath]
    | true =>
      -- No walk is begun from a relative directory : the path is its own answer.
      have hroot : path.isAbsolute ≠ root.isAbsolute := fun heq =>
        habsolute ⟨heq.symm.trans hpath, hpath⟩
      refine shownFrom_eq_self fun relative h => Or.inl ?_
      rw [relativeTo?, if_neg hroot, if_pos hpath] at h
      exact (Option.some.inj h).symm

/-- A path is shown as it is or, if it is absolute, by a relative path that does not lead up and
that gives the parts of the path when it is taken from `root`. Both being absolute, that is so for
every path whose parts begin with those of `root` and do not go on upwards. -/
theorem shownFrom_names_path (path root : FilePath) :
    (path.shownFrom root = path ∨
      path.isAbsolute = true ∧ (path.shownFrom root).isAbsolute = false ∧
        (path.shownFrom root).parts.head? ≠ some .parent ∧
        (root.join (path.shownFrom root)).parts = path.parts) ∧
    ∀ rest, path.isAbsolute = true → root.isAbsolute = true →
      path.parts = root.parts ++ rest → rest.head? ≠ some .parent →
      (path.shownFrom root).isAbsolute = false ∧ (path.shownFrom root).parts = rest ∧
        (root.join (path.shownFrom root)).parts = path.parts := by
  rcases shownFrom_cases path root with ⟨rest, h, hshown⟩ | ⟨hnot, hshown⟩
  · rw [hshown, h.parts_ofParts]
    refine ⟨Or.inr ⟨h.path_isAbsolute, h.isAbsolute_ofParts, h.head?_ne, h.parts_join⟩, ?_⟩
    intro other hpath hroot hparts hhead
    exact ⟨h.isAbsolute_ofParts, List.append_cancel_left (h.parts_eq.symm.trans hparts),
      h.parts_join⟩
  · refine ⟨Or.inl hshown, fun rest hpath hroot hparts hhead => ?_⟩
    exact absurd ⟨hroot, hpath, hparts, hhead⟩ (hnot rest)

/-- A name may begin with two points, and one that is left again is no way up. -/
theorem shownFrom_site_dottedName :
    isAbsolute ⟨"/site//..a/../b"⟩ = true ∧ isAbsolute ⟨"/./site/"⟩ = true ∧
      parts ⟨"/site//..a/../b"⟩ =
        parts ⟨"/./site/"⟩ ++ [.name "..a", .parent, .name "b"] ∧
      isAbsolute (shownFrom ⟨"/site//..a/../b"⟩ ⟨"/./site/"⟩) = false ∧
      parts (shownFrom ⟨"/site//..a/../b"⟩ ⟨"/./site/"⟩) = [.name "..a", .parent, .name "b"] := by
  have hpath : isAbsolute ⟨"/site//..a/../b"⟩ = true := by decide
  have hroot : isAbsolute ⟨"/./site/"⟩ = true := by decide
  have hparts : parts ⟨"/site//..a/../b"⟩ =
      parts ⟨"/./site/"⟩ ++ [.name "..a", .parent, .name "b"] := by decide
  obtain ⟨hrelative, hshown, -⟩ :=
    (shownFrom_names_path _ _).2 _ hpath hroot hparts (by decide)
  exact ⟨hpath, hroot, hparts, hrelative, hshown⟩

end PageRecipe.FilePath
