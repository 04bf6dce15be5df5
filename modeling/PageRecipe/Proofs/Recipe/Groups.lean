import PageRecipe.Proofs.Dictionary
import PageRecipe.Proofs.Recipe.BodyEntries
import PageRecipe.Proofs.Yaml.DistinctKeys

/-!
# Groups as they are written

A mapping is written as a group when all of its entries have a sequence under a text
(`Value.isLabelled`, `IsLabelled` for nodes). Whether it is one is decided before its items are
read, and an item that writes no ingredient does not turn it into anything else : if a mapping
that is written as a group writes an ingredient at all, it writes the group of its entries
(`ofValue?_eq_some_iff_of_labelled`, `Writes.group_of_labelled`). The entries are put into a
dictionary one after the other, so of those with one label the last counts.
-/

namespace PageRecipe

open Yaml (Value Step)

/-- The entry of a mapping is a sequence under a text. -/
def Yaml.Value.isLabelled : Value × Value → Bool
  | (.string _, .sequence _) => true
  | _ => false

namespace Yaml.Value

theorem isLabelled_iff {entry : Value × Value} : isLabelled entry = true ↔
    ∃ label items, entry = (.string label, .sequence items) := by
  rw [isLabelled.eq_def]
  split
  · simp
  · next hother =>
    refine ⟨nofun, ?_⟩
    rintro ⟨label, items, rfl⟩
    exact (hother label items rfl).elim

end Yaml.Value

namespace Ingredient

/-! ## Values -/

/-- The entry of a mapping is read as ingredients under a label. -/
def ReadsEntry (entry : Value × Value) (labelled : String × List Ingredient) : Prop :=
  ∃ items, entry = (.string labelled.1, .sequence items) ∧ ofValues? items = some labelled.2

theorem entriesOfValues?_eq_some_iff {before result : Dictionary (List Ingredient)}
    {entries : List (Value × Value)} : entriesOfValues? before entries = some result ↔
      ∃ labelled, List.Forall₂ ReadsEntry entries labelled ∧
        result = labelled.foldl (fun dictionary entry => dictionary.insert entry.1 entry.2)
          before := by
  induction entries generalizing before with
  | nil => simp [entriesOfValues?, eq_comm]
  | cons entry rest ih =>
    simp only [List.forall₂_cons_left_iff]
    constructor
    · intro h
      rw [entriesOfValues?.eq_def] at h
      split at h
      · next hnil => cases hnil
      · next label items _ hentry =>
        cases hentry
        obtain ⟨body, hbody, hrest⟩ := Option.bind_eq_some_iff.mp h
        obtain ⟨labelled, hlabelled, rfl⟩ := ih.mp hrest
        exact ⟨_, ⟨(label, body), labelled, ⟨items, rfl, hbody⟩, hlabelled, rfl⟩, rfl⟩
      · cases h
    · rintro ⟨_, ⟨⟨label, body⟩, labelled, ⟨items, rfl, hbody⟩, hrest, rfl⟩, rfl⟩
      simp only [entriesOfValues?]
      rw [show ofValues? items = some body from hbody]
      exact ih.mpr ⟨labelled, hrest, rfl⟩

/-- A mapping that is written as a group and repeats no key is one. -/
theorem isGroup_of_labelled {entries : List (Value × Value)}
    (hlabelled : ∀ entry ∈ entries, Value.isLabelled entry = true)
    (hdistinct : ∀ entry ∈ entries, entry.2.hasDistinctKeys = true) : IsGroup entries := by
  induction entries with
  | nil => exact .nil
  | cons entry rest ih =>
    rw [List.forall_mem_cons] at hlabelled hdistinct
    obtain ⟨label, items, rfl⟩ := Value.isLabelled_iff.mp hlabelled.1
    have hitems : ∀ item ∈ items, IsEntry item := fun item hitem =>
      .kept (Value.haveDistinctKeys_iff.mp hdistinct.1 item hitem)
    exact .cons label hitems (ih hlabelled.2 hdistinct.2)

/-- What is written as a group is never kept as a mapping. -/
theorem ofValue?_eq_some_iff_of_labelled {entries : List (Value × Value)}
    (hlabelled : ∀ entry ∈ entries, Value.isLabelled entry = true) {ingredient : Ingredient} :
    ofValue? (.mapping entries) = some ingredient ↔
      ∃ labelled, List.Forall₂ ReadsEntry entries labelled ∧
        ingredient = .group (Dictionary.ofEntries labelled) := by
  have hentries : ∀ result, entriesOfValues? [] entries = some result ↔
      ∃ labelled, List.Forall₂ ReadsEntry entries labelled ∧
        result = Dictionary.ofEntries labelled := fun _ => entriesOfValues?_eq_some_iff
  rw [ofValue?]
  constructor
  · intro h
    split at h
    · next result hresult =>
      obtain ⟨labelled, hreads, rfl⟩ := (hentries result).mp hresult
      exact ⟨labelled, hreads, (Option.some.inj h).symm⟩
    · next hnone =>
      -- A mapping that is kept repeats no key, and then it is a group.
      have hdistinct := isSome_kept?_iff.mp (Option.isSome_of_mem h)
      rw [Value.hasDistinctKeys] at hdistinct
      have hgroup := (isSome_entriesOfValues?_iff [] entries).mpr
        (isGroup_of_labelled hlabelled (Value.hasDistinctKeys_of_mem hdistinct))
      rw [hnone] at hgroup
      cases hgroup
  · rintro ⟨labelled, hreads, rfl⟩
    rw [(hentries _).mpr ⟨labelled, hreads, rfl⟩]

theorem forall_isLabelled_of_reads {entries : List (Value × Value)}
    {labelled : List (String × List Ingredient)}
    (hreads : List.Forall₂ ReadsEntry entries labelled) :
    ∀ entry ∈ entries, Value.isLabelled entry = true := by
  induction hreads with
  | nil => simp
  | cons hentry _ ih =>
    obtain ⟨items, rfl, -⟩ := hentry
    exact List.forall_mem_cons.mpr ⟨rfl, ih⟩

/-- What is not written as a group is no group. -/
theorem ofValue?_mapping_of_not_labelled {entries : List (Value × Value)}
    (hother : ¬ ∀ entry ∈ entries, Value.isLabelled entry = true) :
    ofValue? (.mapping entries) = kept? (.mapping entries) := by
  rw [ofValue?]
  split
  · next hresult =>
    obtain ⟨labelled, hreads, -⟩ := entriesOfValues?_eq_some_iff.mp hresult
    exact absurd (forall_isLabelled_of_reads hreads) hother
  · rfl

/-! ## Nodes -/

/-- The entry of a mapping is written as one of a group : a sequence under a text. -/
def IsLabelled (entry : Step × Yaml.Node × Yaml.Node) : Prop :=
  (∃ label, entry.2.1.Holds (.string label)) ∧
    ∃ mark tag items, entry.2.2 = .sequence mark tag items

/-- The entry of a mapping is read as ingredients under a label. -/
def WritesEntry (entry : Step × Yaml.Node × Yaml.Node) (labelled : String × List Ingredient) :
    Prop :=
  entry.2.1.Holds (.string labelled.1) ∧ ∃ mark tag items,
    entry.2.2 = .sequence mark tag items ∧ List.Forall₂ Writes items labelled.2

/-- The values that nodes hold are read as what the nodes are read as. -/
theorem forall₂_writes_of_ofValues? {items : List Yaml.Node} {values : List Value}
    {ingredients : List Ingredient} (hitems : Yaml.Node.HoldsAll items values)
    (hvalues : ofValues? values = some ingredients) : List.Forall₂ Writes items ingredients := by
  induction items generalizing values ingredients with
  | nil =>
    cases hitems
    cases hvalues
    exact .nil
  | cons item rest ih =>
    cases hitems with
    | cons hitem hrest =>
      obtain ⟨ingredient, hingredient, hvalues⟩ := Option.bind_eq_some_iff.mp hvalues
      obtain ⟨others, hothers, hcons⟩ := Option.bind_eq_some_iff.mp hvalues
      cases hcons
      exact .cons ⟨_, hitem, hingredient⟩ (ih hrest hothers)

/-- Entries that are written as those of a group have such values. -/
theorem forall_isLabelled_of_holds {entries : List (Step × Yaml.Node × Yaml.Node)}
    {pairs : List (Value × Value)} (hlabelled : ∀ entry ∈ entries, IsLabelled entry)
    (hentries : Yaml.Node.HoldsEntries entries pairs) :
    ∀ pair ∈ pairs, Value.isLabelled pair = true := by
  induction entries generalizing pairs with
  | nil =>
    cases hentries
    simp
  | cons entry rest ih =>
    obtain ⟨⟨⟨label, htext⟩, mark, tag, items, hnode⟩, hrest⟩ := List.forall_mem_cons.mp hlabelled
    cases hentries with
    | cons step hkey hvalue hmore =>
      obtain rfl := htext.unique hkey
      cases hnode
      cases hvalue
      exact List.forall_mem_cons.mpr ⟨rfl, ih hrest hmore⟩

/-- Entries that are written as those of a group are read as what their values are read as. -/
theorem forall₂_writesEntry_of_reads {entries : List (Step × Yaml.Node × Yaml.Node)}
    {pairs : List (Value × Value)} {labelled : List (String × List Ingredient)}
    (hlabelled : ∀ entry ∈ entries, IsLabelled entry)
    (hentries : Yaml.Node.HoldsEntries entries pairs)
    (hreads : List.Forall₂ ReadsEntry pairs labelled) :
    List.Forall₂ WritesEntry entries labelled := by
  induction entries generalizing pairs labelled with
  | nil =>
    cases hentries
    cases hreads
    exact .nil
  | cons entry rest ih =>
    obtain ⟨⟨-, mark, tag, items, hnode⟩, hrest⟩ := List.forall_mem_cons.mp hlabelled
    cases hentries with
    | cons step hkey hvalue hmore =>
      obtain _ | ⟨⟨values, hpair, hvalues⟩, hothers⟩ := hreads
      cases hpair
      cases hnode
      cases hvalue with
      | sequence _ hitems =>
        have hbody := forall₂_writes_of_ofValues? hitems hvalues
        exact .cons ⟨hkey, mark, tag, items, rfl, hbody⟩ (ih hrest hmore hothers)

/-- A mapping that is written as a group is read as the group of its entries, if at all. -/
theorem Writes.group_of_labelled {mark : Yaml.Mark} {tag : Option String}
    {entries : List (Step × Yaml.Node × Yaml.Node)} {ingredient : Ingredient}
    (hwrites : Writes (.mapping mark tag entries) ingredient)
    (hlabelled : ∀ entry ∈ entries, IsLabelled entry) :
    ∃ labelled, List.Forall₂ WritesEntry entries labelled ∧
      ingredient = .group (Dictionary.ofEntries labelled) := by
  obtain ⟨value, hvalue, hingredient⟩ := hwrites
  cases hvalue with
  | mapping hown hentries =>
    have hpairs := forall_isLabelled_of_holds hlabelled hentries
    obtain ⟨labelled, hreads, rfl⟩ := (ofValue?_eq_some_iff_of_labelled hpairs).mp hingredient
    exact ⟨labelled, forall₂_writesEntry_of_reads hlabelled hentries hreads, rfl⟩

end Ingredient

end PageRecipe
