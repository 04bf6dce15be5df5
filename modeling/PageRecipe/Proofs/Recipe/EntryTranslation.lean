import PageRecipe.Proofs.Recipe.Groups

/-!
# What entries become

The entries of a body are read by trying what they could be, one after the other. `Becomes` says
what comes of it without any trying, by the shape of a value alone : a text becomes a leaf, a
mapping that is written as a group becomes the group of its translated sequences under its labels
in ascending order, and everything else is kept as it is.

Where no mapping repeats a key, this is what an entry is read as (`becomes_of_ofValue?`). Nothing
deep inside a group can turn the group into something else, since a value without repeated keys
always becomes some ingredient. And the value is the one that is written : where anything at all
is read, the node is read as the same value (`Value.ofNode_any_of_holds`). So the body of a recipe
is the translation of the written sequence, item by item (`Recipe.ofText_translates`).
-/

namespace PageRecipe

open Yaml (Value Step)

namespace Ingredient

/-! ## Translation -/

mutual

/-- What a value is translated to. -/
inductive Becomes : Value → Ingredient → Prop where
  | leaf (spec : String) : Becomes (.string spec) (.leaf spec)
  /-- A mapping that is written as a group. Its labels are put in order. -/
  | group {entries : List (Value × Value)} {labelled sorted : List (String × List Ingredient)}
      (hentries : BecomesEntries entries labelled) (hsame : sorted.Perm labelled)
      (hsorted : sorted.Pairwise (·.1 < ·.1)) : Becomes (.mapping entries) (.group sorted)
  /-- What is no text and not written as a group. -/
  | invalid {value : Value} (htext : ∀ spec, value ≠ .string spec)
      (hgroup : ∀ entries, value = .mapping entries →
        ¬ ∀ entry ∈ entries, Value.isLabelled entry = true) : Becomes value (.invalid value)

/-- What values are translated to, one by one. -/
inductive BecomesAll : List Value → List Ingredient → Prop where
  | nil : BecomesAll [] []
  | cons {value : Value} {ingredient : Ingredient} {values : List Value}
      {ingredients : List Ingredient} (hvalue : Becomes value ingredient)
      (hrest : BecomesAll values ingredients) :
      BecomesAll (value :: values) (ingredient :: ingredients)

/-- What the entries of a group are translated to, one by one : a text is the label of the
translation of the sequence under it. -/
inductive BecomesEntries : List (Value × Value) → List (String × List Ingredient) → Prop where
  | nil : BecomesEntries [] []
  | cons (label : String) {items : List Value} {body : List Ingredient}
      {entries : List (Value × Value)} {labelled : List (String × List Ingredient)}
      (hitems : BecomesAll items body) (hrest : BecomesEntries entries labelled) :
      BecomesEntries ((.string label, .sequence items) :: entries) ((label, body) :: labelled)

end

theorem map_key_of_reads {entries : List (Value × Value)}
    {labelled : List (String × List Ingredient)}
    (hreads : List.Forall₂ ReadsEntry entries labelled) :
    entries.map (·.1) = labelled.map fun entry => .string entry.1 := by
  induction hreads with
  | nil => rfl
  | cons hentry _ ih =>
    obtain ⟨items, rfl, -⟩ := hentry
    rw [List.map_cons, List.map_cons, ih]

/-- Entries of different keys have different labels. -/
theorem nodup_labels_of_reads {entries : List (Value × Value)}
    {labelled : List (String × List Ingredient)}
    (hdistinct : Value.entriesDistinct [] entries = true)
    (hreads : List.Forall₂ ReadsEntry entries labelled) : (labelled.map (·.1)).Nodup := by
  have hkeys := (Value.keys_of_entriesDistinct hdistinct).2
  rw [map_key_of_reads hreads, List.pairwise_map] at hkeys
  refine List.pairwise_map.mpr (hkeys.imp fun {a b} hne heq => ?_)
  rw [Value.same, heq, beq_self_eq_true] at hne
  cases hne

theorem eq_invalid_of_kept? {value : Value} {ingredient : Ingredient}
    (h : kept? value = some ingredient) : ingredient = .invalid value := by
  rw [kept?] at h
  split at h
  · exact (Option.some.inj h).symm
  · cases h

/-- What is no text and no mapping is kept. -/
theorem becomes_of_kept {value : Value} {ingredient : Ingredient}
    (hkept : ofValue? value = kept? value) (htext : ∀ spec, value ≠ .string spec)
    (hmapping : ∀ entries, value ≠ .mapping entries)
    (h : ofValue? value = some ingredient) : Becomes value ingredient := by
  obtain rfl := eq_invalid_of_kept? (hkept.symm.trans h)
  exact .invalid htext fun entries heq => (hmapping entries heq).elim

mutual

/-- A value that repeats no key is read as its translation. -/
theorem becomes_of_ofValue? : ∀ {value : Value} {ingredient : Ingredient},
    value.hasDistinctKeys = true → ofValue? value = some ingredient → Becomes value ingredient
  | .string spec, ingredient, _, h => by
    rw [ofValue?] at h
    obtain rfl := Option.some.inj h
    exact .leaf spec
  | .mapping entries, ingredient, hdistinct, h => by
    by_cases hlabelled : ∀ entry ∈ entries, Value.isLabelled entry = true
    · obtain ⟨labelled, hreads, rfl⟩ := (ofValue?_eq_some_iff_of_labelled hlabelled).mp h
      rw [Value.hasDistinctKeys] at hdistinct
      exact .group (becomesEntries_of_reads hdistinct hreads)
        (Dictionary.perm_ofEntries (nodup_labels_of_reads hdistinct hreads))
        (Dictionary.pairwise_ofEntries labelled)
    · obtain rfl := eq_invalid_of_kept? ((ofValue?_mapping_of_not_labelled hlabelled).symm.trans h)
      refine .invalid nofun fun others heq => ?_
      obtain rfl := Value.mapping.inj heq
      exact hlabelled
  | .null, _, _, h | .bool _, _, _, h | .int _, _, _, h | .float _, _, _, h |
    .sequence _, _, _, h | .tagged _ _, _, _, h =>
    becomes_of_kept (by simp only [ofValue?]) nofun nofun h

theorem becomesAll_of_ofValues? : ∀ {values : List Value} {ingredients : List Ingredient},
    Value.haveDistinctKeys values = true → ofValues? values = some ingredients →
      BecomesAll values ingredients
  | [], ingredients, _, h => by
    rw [ofValues?] at h
    obtain rfl := Option.some.inj h
    exact .nil
  | value :: rest, ingredients, hdistinct, h => by
    rw [Value.haveDistinctKeys, Bool.and_eq_true] at hdistinct
    rw [ofValues?] at h
    obtain ⟨ingredient, hvalue, h⟩ := Option.bind_eq_some_iff.mp h
    obtain ⟨others, hrest, h⟩ := Option.bind_eq_some_iff.mp h
    obtain rfl := Option.some.inj h
    exact .cons (becomes_of_ofValue? hdistinct.1 hvalue)
      (becomesAll_of_ofValues? hdistinct.2 hrest)

theorem becomesEntries_of_reads : ∀ {before : List Value} {entries : List (Value × Value)}
    {labelled : List (String × List Ingredient)},
    Value.entriesDistinct before entries = true → List.Forall₂ ReadsEntry entries labelled →
      BecomesEntries entries labelled
  | before, [], labelled, _, h => by
    cases h
    exact .nil
  | before, (key, value) :: rest, labelled, hdistinct, h => by
    obtain _ | ⟨⟨items, hentry, hbody⟩, hrest⟩ := h
    obtain ⟨rfl, rfl⟩ := Prod.mk.inj hentry
    simp only [Value.entriesDistinct, Value.hasDistinctKeys, Bool.and_eq_true] at hdistinct
    exact .cons _ (becomesAll_of_ofValues? hdistinct.1.2 hbody)
      (becomesEntries_of_reads hdistinct.2 hrest)

end

end Ingredient

namespace Recipe

open Ingredient

/-- The item is read as its value, and the ingredient is what the value becomes, if that repeats
no key. -/
def Translates (item : Yaml.Node) (ingredient : Ingredient) : Prop :=
  ∃ value, item.Holds value ∧ (value.hasDistinctKeys = true →
    (∀ path, Value.ofNode .any path item = .ok value) ∧ Becomes value ingredient)

theorem translates_of_writes {item : Yaml.Node} {ingredient : Ingredient}
    (hwrites : Writes item ingredient) : Translates item ingredient := by
  obtain ⟨value, hvalue, hingredient⟩ := hwrites
  exact ⟨value, hvalue, fun hdistinct =>
    ⟨fun path => Value.ofNode_any_of_holds path item hvalue hdistinct,
      becomes_of_ofValue? hdistinct hingredient⟩⟩

theorem exists_mapping_of_ofNode {node : Yaml.Node} {recipe : Recipe}
    (hread : ofNode node = .ok recipe) : ∃ mark tag entries, node = .mapping mark tag entries := by
  rw [ofNode.eq_def] at hread
  split at hread
  · exact ⟨_, _, _, rfl⟩
  · split at hread <;> cases hread

/-- A recipe is written by a mapping. Its body is empty if there is none in the mapping or nothing
in it, and else it is a sequence, whose items are translated one by one and in order. -/
theorem ofText_translates {s : String} {recipe : Recipe} (hread : ofText s = .ok recipe) :
    ∃ mark tag entries, Yaml.root? isField s = some (.mapping mark tag entries) ∧
      ((valuesUnder bodyField entries = [] ∧ recipe.body = []) ∨
        (∃ node, valuesUnder bodyField entries = [node] ∧ node.isVoid = true ∧
          recipe.body = []) ∨
        ∃ bodyMark bodyTag items,
          valuesUnder bodyField entries = [.sequence bodyMark bodyTag items] ∧
            List.Forall₂ Translates items recipe.body) := by
  obtain ⟨root, hroot, hread⟩ := Yaml.decode_eq_ok_iff.mp hread
  obtain ⟨mark, tag, entries, rfl⟩ := exists_mapping_of_ofNode hread
  refine ⟨mark, tag, entries, hroot, ?_⟩
  obtain ⟨hnone, hempty⟩ | ⟨node, hnode, hbody⟩ := (ofNode_mapping_eq_ok_iff.mp hread).body
  · exact .inl ⟨hnone, hempty⟩
  · generalize recipe.body = body at hbody ⊢
    cases hbody with
    | void hvoid => exact .inr (.inl ⟨node, hnode, hvoid, rfl⟩)
    | items hitems =>
      exact .inr (.inr ⟨_, _, _, hnode, hitems.imp fun _ _ => translates_of_writes⟩)

/-- A text with entries of every kind, and with groups in groups. -/
def variedText : String :=
  "related_content: r.yaml\n" ++
    "body: [m.t, 42, \x7bg: [p.x, \x7bh: []\x7d], f: [[1]]\x7d, \x7ba: 1\x7d]\n"

/-- No key is repeated in it, and its entries become ingredients one by one. -/
theorem ofText_variedText : ∃ parts recipe, parts? variedText = some parts ∧
    ofText variedText = .ok recipe ∧ parts.items.length = 4 ∧
    List.Forall₂ (fun item ingredient => ∃ value, item.Holds value ∧ Becomes value ingredient)
      parts.items recipe.body := by
  have hshape : (parts? variedText).map (fun parts => (parts.items.length,
      parts.items.all fun item =>
        (Value.ofNode .buffered [] item).toOption.any (·.hasDistinctKeys))) = some (4, true) := by
    decide +kernel
  have hread : (ofText variedText).toOption.isSome := by decide +kernel
  obtain ⟨recipe, hread⟩ := isSome_toOption_iff.mp hread
  obtain ⟨parts, hparts, hsummary⟩ := Option.map_eq_some_iff.mp hshape
  obtain ⟨hlength, hdistinct⟩ := Prod.mk.inj hsummary
  refine ⟨parts, recipe, hparts, hread, hlength, ?_⟩
  obtain ⟨mark, tag, hroot, -, bodyMark, bodyTag, hbody⟩ := parts?_eq_some_iff.mp hparts
  obtain ⟨_, _, _, hroot', hcases⟩ := ofText_translates hread
  cases hroot.symm.trans hroot'
  obtain ⟨hnone, -⟩ | ⟨node, hnode, hvoid, -⟩ | ⟨_, _, items, hitems, htranslates⟩ := hcases
  · cases hbody.symm.trans hnone
  · cases hbody.symm.trans hnode
    cases hvoid
  · obtain ⟨-, -, rfl⟩ : _ ∧ _ ∧ parts.items = items := by
      simpa using hbody.symm.trans hitems
    refine ((List.forall₂_and_left _ _).mpr ⟨List.all_eq_true.mp hdistinct, htranslates⟩).imp ?_
    rintro item ingredient ⟨hitem, value, hvalue, htranslated⟩
    have hread := (Value.ofNode_eq_ok_iff [] item).mpr hvalue
    rw [hread] at hitem
    exact ⟨value, hvalue, (htranslated hitem).2⟩

end Recipe

end PageRecipe
