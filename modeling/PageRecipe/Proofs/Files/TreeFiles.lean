import Mathlib.Data.List.Nodup
import Mathlib.Data.List.Pairwise
import PageRecipe.Files.Tree
import PageRecipe.Proofs.Failing
import PageRecipe.Proofs.Files.PathParts

/-!
# The files of a tree

Walking through a tree of files meets every file in it once. Where a file is in a tree is told
by the names that lead to it (`FileTree.filePlaces`), and these are the lists of names under
which a look into the tree finds a file (`FileTree.mem_filePlaces_iff`), each of them once
(`FileTree.nodup_filePlaces`). Directories are where `FileTree.at?` looks, so neither a link nor
what it leads to is among them.

The names of entries have no slashes, so different places have paths with different parts
(`FilePath.parts_below`, `FileTree.nodup_parts_placesNamed`).
-/

namespace PageRecipe

/-! ## Names of entries -/

/-- A text that may be the name of an entry of a directory. -/
def IsEntryName (name : String) : Prop := '/' ∉ name.toList ∧ name ∉ ["", ".", ".."]

instance (name : String) : Decidable (IsEntryName name) := inferInstanceAs (Decidable (_ ∧ _))

namespace IsEntryName

variable {name : String}

/-- A name of an entry is one part of a path. -/
theorem isOwnSegment (h : IsEntryName name) : FilePath.IsOwnSegment (.name name) where
  slash_notMem := h.1
  ofSegment?_eq := by
    have hname : name = String.ofList name.toList := String.ofList_toList.symm
    have hempty : name.toList ≠ [] := fun heq => h.2 (by rw [hname, heq]; decide)
    have hcurrent : name.toList ≠ ['.'] := fun heq => h.2 (by rw [hname, heq]; decide)
    have hparent : name.toList ≠ ['.', '.'] := fun heq => h.2 (by rw [hname, heq]; decide)
    rw [PathPart.text, PathPart.ofSegment?, if_neg (by simp [hempty, hcurrent]), if_neg hparent,
      String.ofList_toList]

end IsEntryName

namespace FilePath

/-- The path to which names lead from a directory. -/
def below (directory : FilePath) (names : List String) : FilePath :=
  names.foldl (fun path name => path.join ⟨name⟩) directory

/-- Every name is one more part. -/
theorem parts_below {directory : FilePath} (hdirectory : directory.text.toList ≠ [])
    {names : List String} (hnames : ∀ name ∈ names, IsEntryName name) :
    (directory.below names).parts = directory.parts ++ names.map .name := by
  have hparts : ∀ part ∈ names.map PathPart.name, IsOwnSegment part :=
    List.forall_mem_map.mpr fun name hname => (hnames name hname).isOwnSegment
  rw [← parts_foldl_join hdirectory hparts, List.foldl_map]
  rfl

/-- The path to which names lead is named by the last of them. -/
theorem isNamed_below {directory : FilePath} (hdirectory : directory.text.toList ≠ [])
    {names : List String} (hnames : ∀ name ∈ names, IsEntryName name) (hne : names ≠ [])
    (name : String) :
    (directory.below names).isNamed name = (names.getLast? == some name) := by
  have hlast : names.getLast? = some (names.getLast hne) := List.getLast?_eq_some_getLast hne
  rw [isNamed, name?, parts_below hdirectory hnames, List.getLast?_append, List.getLast?_map, hlast]
  rfl

end FilePath

namespace FileTree

/-- A tree in which no two entries of a directory have the same name, and names are such that
they may stand in a path. -/
inductive IsProper : FileTree → Prop where
  | file (bytes : ByteArray) : IsProper (.file bytes)
  | link (target : FilePath) : IsProper (.link target)
  | directory {entries : List (String × FileTree)}
      (hnames : ∀ entry ∈ entries, IsEntryName entry.1)
      (hdistinct : (entries.map (·.1)).Nodup)
      (htrees : ∀ entry ∈ entries, entry.2.IsProper) : IsProper (.directory entries)

mutual

/-- The names that lead to the files of a tree. -/
def filePlaces : FileTree → List (List String)
  | .file _ => [[]]
  | .directory entries => filePlacesOfEntries entries
  | .link _ => []

/-- The names that lead to the files of the entries of a directory. -/
def filePlacesOfEntries : List (String × FileTree) → List (List String)
  | [] => []
  | (name, tree) :: rest => (filePlaces tree).map (name :: ·) ++ filePlacesOfEntries rest

end

mutual

/-- A walk lists the files by the paths of their places. -/
theorem filesAt_eq : ∀ (path : FilePath) (tree : FileTree),
    filesAt path tree = tree.filePlaces.map path.below
  | _, .file _ => rfl
  | path, .directory entries => filesOfEntries_eq path entries
  | _, .link _ => rfl

theorem filesOfEntries_eq : ∀ (path : FilePath) (entries : List (String × FileTree)),
    filesOfEntries path entries = (filePlacesOfEntries entries).map path.below
  | _, [] => rfl
  | path, (name, tree) :: rest => by
    rw [filesOfEntries, filePlacesOfEntries, List.map_append, List.map_map, filesAt_eq,
      filesOfEntries_eq path rest]
    rfl

end

theorem filePlacesOfEntries_eq_flatMap (entries : List (String × FileTree)) :
    filePlacesOfEntries entries =
      entries.flatMap fun entry => entry.2.filePlaces.map (entry.1 :: ·) := by
  induction entries with
  | nil => rfl
  | cons entry rest ih => rw [filePlacesOfEntries, ih, List.flatMap_cons]

theorem lookup_eq_some_iff_mem {entries : List (String × FileTree)}
    (hdistinct : (entries.map (·.1)).Nodup) {name : String} {tree : FileTree} :
    entries.lookup name = some tree ↔ (name, tree) ∈ entries := by
  induction entries with
  | nil => simp
  | cons entry rest ih =>
    obtain ⟨other, old⟩ := entry
    obtain ⟨hother, hrest⟩ := List.nodup_cons.mp hdistinct
    rw [List.lookup_cons, List.mem_cons, Prod.mk.injEq]
    by_cases h : name = other
    · subst h
      have hnotMem : (name, tree) ∉ rest := fun hmem =>
        hother (List.mem_map.mpr ⟨(name, tree), hmem, rfl⟩)
      simp [hnotMem, eq_comm]
    · simp [beq_eq_false_iff_ne.mpr h, h, ih hrest]

/-- The places of the files are the names under which a file is found. -/
theorem mem_filePlaces_iff {tree : FileTree} (h : tree.IsProper) {names : List String} :
    names ∈ tree.filePlaces ↔ ∃ bytes, tree.at? names = some (.file bytes) := by
  induction h generalizing names with
  | file bytes => cases names <;> simp [filePlaces, at?, entry?]
  | link target => cases names <;> simp [filePlaces, at?, entry?]
  | @directory entries hnames hdistinct htrees ih =>
    rw [filePlaces, filePlacesOfEntries_eq_flatMap, List.mem_flatMap]
    cases names with
    | nil => simp [at?]
    | cons name rest =>
      simp only [at?, entry?, Option.bind_eq_some_iff, lookup_eq_some_iff_mem hdistinct]
      constructor
      · rintro ⟨⟨other, tree⟩, hentry, hmem⟩
        obtain ⟨inner, hinner, heq⟩ := List.mem_map.mp hmem
        obtain ⟨rfl, rfl⟩ := List.cons.inj heq
        obtain ⟨bytes, hfile⟩ := (ih _ hentry).mp hinner
        exact ⟨bytes, tree, hentry, hfile⟩
      · rintro ⟨bytes, tree, hentry, hfile⟩
        exact ⟨(name, tree), hentry, List.mem_map_of_mem ((ih _ hentry).mpr ⟨bytes, hfile⟩)⟩

/-- No file is met twice. -/
theorem nodup_filePlaces {tree : FileTree} (h : tree.IsProper) : tree.filePlaces.Nodup := by
  induction h with
  | file bytes => exact List.nodup_singleton _
  | link target => exact List.nodup_nil
  | directory hnames hdistinct htrees ih =>
    rw [filePlaces, filePlacesOfEntries_eq_flatMap, List.nodup_flatMap]
    refine ⟨fun entry hentry => (ih entry hentry).map List.cons_injective, ?_⟩
    refine (List.pairwise_map.mp hdistinct).imp fun {a b} hne names ha hb => hne ?_
    obtain ⟨inner, -, rfl⟩ := List.mem_map.mp ha
    obtain ⟨other, -, heq⟩ := List.mem_map.mp hb
    exact (List.cons.inj heq).1.symm

theorem isEntryName_of_mem_filePlaces {tree : FileTree} (h : tree.IsProper) {names : List String}
    (hmem : names ∈ tree.filePlaces) : ∀ name ∈ names, IsEntryName name := by
  induction h generalizing names with
  | file bytes => simp_all [filePlaces]
  | link target => simp [filePlaces] at hmem
  | directory hnames hdistinct htrees ih =>
    rw [filePlaces, filePlacesOfEntries_eq_flatMap, List.mem_flatMap] at hmem
    obtain ⟨entry, hentry, hmem⟩ := hmem
    obtain ⟨inner, hinner, rfl⟩ := List.mem_map.mp hmem
    exact List.forall_mem_cons.mpr ⟨hnames entry hentry, ih entry hentry hinner⟩

/-- In a directory a name leads to every file. -/
theorem ne_nil_of_mem_filePlaces {entries : List (String × FileTree)} {names : List String}
    (hmem : names ∈ (directory entries).filePlaces) : names ≠ [] := by
  rw [filePlaces, filePlacesOfEntries_eq_flatMap, List.mem_flatMap] at hmem
  obtain ⟨entry, -, hmem⟩ := hmem
  obtain ⟨inner, -, rfl⟩ := List.mem_map.mp hmem
  exact List.cons_ne_nil _ _

/-! ## Files of a name -/

/-- The names that lead to the files of a name. -/
def placesNamed (tree : FileTree) (name : String) : List (List String) :=
  tree.filePlaces.filter fun names => names.getLast? == some name

theorem mem_placesNamed_iff {tree : FileTree} (h : tree.IsProper) {name : String}
    {names : List String} : names ∈ tree.placesNamed name ↔
      (∃ bytes, tree.at? names = some (.file bytes)) ∧ names.getLast? = some name := by
  rw [placesNamed, List.mem_filter, mem_filePlaces_iff h, beq_iff_eq]

/-- Of the files in a directory those with the name are the ones to which it leads as the last
name. -/
theorem filter_isNamed_eq {entries : List (String × FileTree)}
    (h : (directory entries).IsProper) {path : FilePath} (hpath : path.text.toList ≠ [])
    (name : String) : ((directory entries).filePlaces.map path.below).filter (·.isNamed name) =
      ((directory entries).placesNamed name).map path.below := by
  rw [List.filter_map, placesNamed]
  refine congrArg _ (List.filter_congr fun names hmem => ?_)
  exact FilePath.isNamed_below hpath (isEntryName_of_mem_filePlaces h hmem)
    (ne_nil_of_mem_filePlaces hmem) name

/-- Files have paths with different parts. -/
theorem nodup_parts_placesNamed {tree : FileTree} (h : tree.IsProper) {path : FilePath}
    (hpath : path.text.toList ≠ []) (name : String) :
    (((tree.placesNamed name).map path.below).map FilePath.parts).Nodup := by
  rw [List.map_map]
  refine ((nodup_filePlaces h).filter _).map_on fun a ha b hb heq => ?_
  have hname : ∀ names ∈ tree.placesNamed name, ∀ name ∈ names, IsEntryName name :=
    fun names hmem => isEntryName_of_mem_filePlaces h (List.mem_filter.mp hmem).1
  rw [Function.comp_apply, Function.comp_apply, FilePath.parts_below hpath (hname a ha),
    FilePath.parts_below hpath (hname b hb)] at heq
  have hinjective : Function.Injective PathPart.name := fun _ _ h => PathPart.name.inj h
  exact hinjective.list_map (List.append_cancel_left heq)

/-! ## Looking up -/

/-- What is in a proper tree is proper. -/
theorem IsProper.of_at? {tree inner : FileTree} (h : tree.IsProper) {names : List String}
    (hat : tree.at? names = some inner) : inner.IsProper := by
  induction names generalizing tree with
  | nil =>
    obtain rfl := Option.some.inj hat
    exact h
  | cons name rest ih =>
    rw [at?, Option.bind_eq_some_iff] at hat
    obtain ⟨entry, hentry, hat⟩ := hat
    cases h with
    | file | link => cases hentry
    | directory hnames hdistinct htrees =>
      exact ih (htrees _ ((lookup_eq_some_iff_mem hdistinct).mp hentry)) hat

theorem IsProper.of_find {root tree : FileTree} (h : root.IsProper) {here : List String}
    {path : FilePath} (hfind : root.find here path = .ok tree) : tree.IsProper := by
  rw [find, bind_eq_ok_iff] at hfind
  obtain ⟨names, -, hfind⟩ := hfind
  split at hfind
  · next found hat =>
    obtain rfl := Except.ok.inj hfind
    exact h.of_at? hat
  · cases hfind

/-- Nothing is found under the empty path. -/
theorem text_ne_nil_of_find {root tree : FileTree} {here : List String} {path : FilePath}
    (hfind : root.find here path = .ok tree) : path.text.toList ≠ [] := by
  intro hnil
  have hempty : path.text.isEmpty = true := by simp [String.toList_eq_nil_iff.mp hnil]
  rw [find, locate, if_pos hempty] at hfind
  cases hfind

end FileTree

end PageRecipe
