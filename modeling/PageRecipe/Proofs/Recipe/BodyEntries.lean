import Mathlib.Data.List.Forall2
import PageRecipe.Proofs.Yaml.NodeValues
import PageRecipe.Recipe.Decoding

/-!
# Which entries a recipe can hold

Entries of any shape are meant to be kept, so that they can be reported. An item of the body is
first read as a value (`Node.Holds`), and a value is kept when it is a text, a group, or anything
in which no mapping repeats a key (`IsEntry`). In a group labels may be repeated.

A recipe is read field by field. Each field takes nothing or the only value under its name
(`Takes`), and other entries only have to let the reading pass (`passes`). So a mapping is read as
a recipe exactly when its entries write it (`IsWrittenBy`, `ofNode_mapping_eq_ok_iff`).

For a text with one text under `related_content` and one sequence under `body` this leaves the
items : the text is read when every item is an entry, and then the body has one ingredient for
each, in order (`ofText_writes_items`). Not every item is one. A tag of the user's own, an integer
that has no place in 64 bits, or a repeated key outside of groups makes the whole recipe
unreadable (`ofText_taggedText`).
-/

namespace PageRecipe

open Yaml (Value Step)

namespace Ingredient

/-! ## Values -/

mutual

/-- The value is an entry : a text, a group, or anything in which no mapping repeats a key. -/
inductive IsEntry : Value → Prop where
  | text (spec : String) : IsEntry (.string spec)
  | group {entries : List (Value × Value)} (hgroup : IsGroup entries) : IsEntry (.mapping entries)
  | kept {value : Value} (hdistinct : value.hasDistinctKeys = true) : IsEntry value

/-- The mapping is a group : under texts there are sequences of entries. A text may be
repeated. -/
inductive IsGroup : List (Value × Value) → Prop where
  | nil : IsGroup []
  | cons (label : String) {items : List Value} {rest : List (Value × Value)}
      (hitems : ∀ item ∈ items, IsEntry item) (hrest : IsGroup rest) :
      IsGroup ((.string label, .sequence items) :: rest)

end

theorem isSome_kept?_iff {value : Value} :
    (kept? value).isSome = true ↔ value.hasDistinctKeys = true := by
  rw [kept?]
  split <;> simp_all

/-- What is no text and no mapping can only be kept as it is. -/
theorem isSome_ofValue?_iff_of_kept {value : Value} (hvalue : ofValue? value = kept? value)
    (htext : ∀ spec, value ≠ .string spec) (hmapping : ∀ entries, value ≠ .mapping entries) :
    (ofValue? value).isSome = true ↔ IsEntry value := by
  rw [hvalue, isSome_kept?_iff]
  refine ⟨.kept, fun h => ?_⟩
  cases h with
  | text spec => exact absurd rfl (htext spec)
  | group => exact absurd rfl (hmapping _)
  | kept hdistinct => exact hdistinct

mutual

/-- The values that write an ingredient are the entries. -/
theorem isSome_ofValue?_iff : ∀ {value : Value}, (ofValue? value).isSome = true ↔ IsEntry value
  | .string spec => by
    rw [ofValue?]
    exact ⟨fun _ => .text spec, fun _ => rfl⟩
  | .mapping entries => by
    have hgroup := isSome_entriesOfValues?_iff [] entries
    rw [ofValue?]
    constructor
    · intro h
      split at h
      · next hentries => exact .group (hgroup.mp (by rw [hentries]; rfl))
      · exact .kept (isSome_kept?_iff.mp h)
    · intro h
      split
      · rfl
      · next hentries =>
        cases h with
        | group h => simpa [hentries] using hgroup.mpr h
        | kept hdistinct => exact isSome_kept?_iff.mpr hdistinct
  | .null | .bool _ | .int _ | .float _ | .sequence _ | .tagged _ _ =>
    isSome_ofValue?_iff_of_kept (by simp only [ofValue?]) nofun nofun

theorem isSome_ofValues?_iff : ∀ {values : List Value},
    (ofValues? values).isSome = true ↔ ∀ value ∈ values, IsEntry value
  | [] => by simp [ofValues?]
  | value :: rest => by
    rw [ofValues?, List.forall_mem_cons, ← isSome_ofValue?_iff, ← isSome_ofValues?_iff]
    cases ofValue? value <;> cases ofValues? rest <;> simp

/-- What was read before has no part in whether the rest is a group. -/
theorem isSome_entriesOfValues?_iff : ∀ (before : Dictionary (List Ingredient))
    (entries : List (Value × Value)),
    (entriesOfValues? before entries).isSome = true ↔ IsGroup entries
  | before, [] => by
    rw [entriesOfValues?]
    exact ⟨fun _ => .nil, fun _ => rfl⟩
  | before, (key, value) :: rest => by
    rw [entriesOfValues?.eq_def]
    split
    · next h => cases h
    · next label items _ h =>
      cases h
      constructor
      · intro h
        cases hitems : ofValues? items with
        | none => simp [hitems] at h
        | some body =>
          have hrest := isSome_entriesOfValues?_iff (before.insert label body) rest
          exact .cons label (isSome_ofValues?_iff.mp (by rw [hitems]; rfl))
            (hrest.mp (by simpa [hitems] using h))
      · intro h
        cases h with
        | cons _ hitems hrest =>
          obtain ⟨body, hbody⟩ :=
            Option.isSome_iff_exists.mp (isSome_ofValues?_iff.mpr hitems)
          have hrest := (isSome_entriesOfValues?_iff (before.insert label body) rest).mpr hrest
          simpa [hbody] using hrest
    · next hother =>
      refine ⟨nofun, fun h => ?_⟩
      cases h with
      | cons label hitems hrest => exact (hother label _ _ rfl).elim

end

/-! ## Bodies -/

/-- The node is read as the ingredient. -/
def Writes (node : Yaml.Node) (ingredient : Ingredient) : Prop :=
  ∃ value, node.Holds value ∧ ofValue? value = some ingredient

/-- A node writes an ingredient when it is read as an entry. -/
theorem exists_writes_iff {node : Yaml.Node} :
    (∃ ingredient, Writes node ingredient) ↔ ∃ value, node.Holds value ∧ IsEntry value := by
  simp only [Writes, ← isSome_ofValue?_iff, Option.isSome_iff_exists]
  constructor
  · rintro ⟨ingredient, value, hvalue, hingredient⟩
    exact ⟨value, hvalue, ingredient, hingredient⟩
  · rintro ⟨value, hvalue, ingredient, hingredient⟩
    exact ⟨ingredient, value, hvalue, hingredient⟩

theorem ofNode_eq_ok_iff (body path : Yaml.Path) (mark : Yaml.Mark) {node : Yaml.Node}
    {ingredient : Ingredient} :
    ofNode body path mark node = .ok ingredient ↔ Writes node ingredient := by
  rw [ofNode, Writes]
  simp only [bind_eq_ok_iff, Value.ofNode_eq_ok_iff]
  refine exists_congr fun value => and_congr_right fun _ => ?_
  cases ofValue? value with
  | none =>
    constructor
    · intro h
      cases h
    · intro h
      cases h
  | some written => simp [pure, Except.pure]

/-- Items are read one by one, and there is one ingredient for each. -/
theorem ofItems_eq_ok_iff (body : Yaml.Path) (mark : Yaml.Mark) (index : Nat)
    {items : List Yaml.Node} {ingredients : List Ingredient} :
    ofItems body mark index items = .ok ingredients ↔ List.Forall₂ Writes items ingredients := by
  induction items generalizing index ingredients with
  | nil => simp [ofItems, eq_comm]
  | cons item rest ih =>
    rw [ofItems, List.forall₂_cons_left_iff]
    simp only [bind_eq_ok_iff, ofNode_eq_ok_iff, ih]
    constructor
    · rintro ⟨ingredient, hitem, others, hrest, ⟨⟩⟩
      exact ⟨ingredient, others, hitem, hrest, rfl⟩
    · rintro ⟨ingredient, others, hitem, hrest, rfl⟩
      exact ⟨ingredient, hitem, others, hrest, rfl⟩

theorem exists_forall₂_writes_iff {items : List Yaml.Node} :
    (∃ ingredients, List.Forall₂ Writes items ingredients) ↔
      ∀ item ∈ items, ∃ ingredient, Writes item ingredient := by
  induction items with
  | nil => simp
  | cons item rest ih =>
    rw [List.forall_mem_cons, ← ih]
    constructor
    · rintro ⟨_, hitem | ⟨hitem, hrest⟩⟩
      exact ⟨⟨_, hitem⟩, _, hrest⟩
    · rintro ⟨⟨ingredient, hitem⟩, ingredients, hrest⟩
      exact ⟨_, .cons hitem hrest⟩

/-- A body is a sequence of ingredients, or nothing at all. -/
inductive WritesBody : Yaml.Node → List Ingredient → Prop where
  | items {mark : Yaml.Mark} {tag : Option String} {items : List Yaml.Node}
      {ingredients : List Ingredient} (hitems : List.Forall₂ Writes items ingredients) :
      WritesBody (.sequence mark tag items) ingredients
  | void {node : Yaml.Node} (hvoid : node.isVoid = true) : WritesBody node []

theorem writesBody_sequence_iff {mark : Yaml.Mark} {tag : Option String} {items : List Yaml.Node}
    {ingredients : List Ingredient} :
    WritesBody (.sequence mark tag items) ingredients ↔ List.Forall₂ Writes items ingredients := by
  refine ⟨fun h => ?_, .items⟩
  cases h with
  | items hitems => exact hitems
  | void hvoid => cases hvoid

theorem ofBody_eq_ok_iff (path : Yaml.Path) {node : Yaml.Node} {ingredients : List Ingredient} :
    ofBody path node = .ok ingredients ↔ WritesBody node ingredients := by
  rw [ofBody.eq_def]
  split
  · rw [ofItems_eq_ok_iff, writesBody_sequence_iff]
  · next hother =>
    constructor
    · intro h
      split at h
      · next hvoid =>
        cases h
        exact .void hvoid
      · cases h
    · intro h
      cases h with
      | items => exact (hother _ _ _ rfl).elim
      | void hvoid => rw [if_pos hvoid]

end Ingredient

namespace Recipe

open Ingredient (Writes WritesBody IsEntry)

/-! ## Fields -/

/-- The values under a key. -/
def valuesUnder (name : String) (entries : List (Step × Yaml.Node × Yaml.Node)) : List Yaml.Node :=
  (entries.filter fun entry => entry.2.1.text? == some name).map (·.2.2)

theorem valuesUnder_cons (name : String) (step : Step) (key value : Yaml.Node)
    (rest : List (Step × Yaml.Node × Yaml.Node)) : valuesUnder name ((step, key, value) :: rest) =
      if key.text? = some name then value :: valuesUnder name rest else valuesUnder name rest := by
  by_cases h : key.text? = some name <;> simp [valuesUnder, h]

/-- The reading does not fail at the node. -/
def isWhole : Yaml.Node → Bool
  | .failed _ => false
  | _ => true

/-- The entry does not stand in the way of the reading : its key is a text, and its value can be
walked over if it is not looked at. -/
def passes (entry : Step × Yaml.Node × Yaml.Node) : Bool :=
  entry.2.1.text?.any fun name => isField name || isWhole entry.2.2

theorem passes_eq {step : Step} {key value : Yaml.Node} {name : String}
    (hkey : key.text? = some name) :
    passes (step, key, value) = (isField name || isWhole value) := by
  rw [passes, hkey, Option.any_some]

/-- What is known of a field after some values for it : nothing new, or the only one. -/
inductive Takes {α β : Type} (reads : α → β → Prop) : Option β → List α → Option β → Prop where
  | none (known : Option β) : Takes reads known [] known
  | one {a : α} {b : β} (hread : reads a b) : Takes reads .none [a] (some b)

section Takes

variable {α β : Type} {reads : α → β → Prop} {a : α} {rest : List α} {known result : Option β}

theorem takes_nil_iff : Takes reads known [] result ↔ result = known := by
  constructor
  · rintro ⟨⟩
    rfl
  · rintro rfl
    exact .none _

theorem takes_cons_iff : Takes reads known (a :: rest) result ↔
    known = none ∧ ∃ b, reads a b ∧ Takes reads (some b) rest result := by
  constructor
  · rintro (_ | hread)
    exact ⟨rfl, _, hread, .none _⟩
  · rintro ⟨rfl, b, hread, htakes⟩
    cases htakes with
    | none => exact .one hread

/-- Of a field of which nothing is known there is at most one value. -/
theorem takes_none_iff {values : List α} : Takes reads none values result ↔
    (values = [] ∧ result = none) ∨ ∃ a b, values = [a] ∧ reads a b ∧ result = some b := by
  constructor
  · rintro (_ | hread)
    · exact .inl ⟨rfl, rfl⟩
    · exact .inr ⟨_, _, rfl, hread, rfl⟩
  · rintro (⟨rfl, rfl⟩ | ⟨a, b, rfl, hread, rfl⟩)
    · exact .none _
    · exact .one hread

end Takes

theorem expectText_eq_ok_iff {path : Yaml.Path} {wanted text : String} {node : Yaml.Node} :
    node.expectText path wanted = .ok text ↔ node.text? = some text := by
  cases node <;> simp [Yaml.Node.expectText, Yaml.Node.text?]

/-- The node writes the text. -/
def WritesText (node : Yaml.Node) (text : String) : Prop := node.text? = some text

/-- A field that is known already must not be read again. -/
theorem unlessKnown_eq_ok_iff {α β : Type} {known : Option α} {error : Yaml.Error}
    {read : Except Yaml.Error β} {b : β} :
    (if known.isSome then (do throw error; read) else read) = .ok b ↔
      known = none ∧ read = .ok b := by
  cases known with
  | none => simp
  | some a => exact ⟨nofun, nofun⟩

section Fields

variable {mark : Yaml.Mark} {step : Step} {fields result : Fields} {key value : Yaml.Node}

theorem add_eq_ok_iff_of_relatedContent (hkey : key.text? = some relatedContentField) :
    fields.add mark step key value = .ok result ↔ fields.relatedContent = none ∧
      ∃ text, WritesText value text ∧ result = { fields with relatedContent := some text } := by
  have hname : key.expectText [] "field identifier" = .ok relatedContentField :=
    expectText_eq_ok_iff.mpr hkey
  rw [Fields.add.eq_def, hname]
  simp only [bind_eq_ok_iff, Except.ok.injEq, exists_eq_left', if_true, unlessKnown_eq_ok_iff,
    expectText_eq_ok_iff, WritesText]
  exact and_congr_right fun _ => exists_congr fun text => and_congr_right fun _ =>
    ⟨fun h => (Except.ok.inj h).symm, fun h => h ▸ rfl⟩

theorem add_eq_ok_iff_of_body (hkey : key.text? = some bodyField) :
    fields.add mark step key value = .ok result ↔ fields.body = none ∧
      ∃ body, WritesBody value body ∧ result = { fields with body := some body } := by
  have hname : key.expectText [] "field identifier" = .ok bodyField :=
    expectText_eq_ok_iff.mpr hkey
  have hne : bodyField ≠ relatedContentField := by decide
  rw [Fields.add.eq_def, hname]
  simp only [bind_eq_ok_iff, Except.ok.injEq, exists_eq_left', if_neg hne, if_true,
    unlessKnown_eq_ok_iff, Ingredient.ofBody_eq_ok_iff]
  exact and_congr_right fun _ => exists_congr fun text => and_congr_right fun _ =>
    ⟨fun h => (Except.ok.inj h).symm, fun h => h ▸ rfl⟩

/-- Another field changes nothing, but its value must be whole. -/
theorem add_eq_ok_iff_of_other {name : String} (hkey : key.text? = some name)
    (hname : isField name = false) :
    fields.add mark step key value = .ok result ↔ isWhole value = true ∧ result = fields := by
  have hother : name ≠ relatedContentField ∧ name ≠ bodyField := by
    simpa [isField] using hname
  have hexpect : key.expectText [] "field identifier" = .ok name :=
    expectText_eq_ok_iff.mpr hkey
  rw [Fields.add.eq_def, hexpect]
  simp only [bind_eq_ok_iff, Except.ok.injEq, exists_eq_left', if_neg hother.1, if_neg hother.2]
  cases value with
  | failed error =>
    constructor
    · intro h
      cases h
    · rintro ⟨h, -⟩
      cases h
  | _ => exact ⟨fun h => ⟨rfl, (Except.ok.inj h).symm⟩, fun h => h.2 ▸ rfl⟩

theorem add_ne_ok_of_noText (hkey : key.text? = none) :
    fields.add mark step key value ≠ .ok result := by
  intro h
  obtain ⟨name, hname, -⟩ := bind_eq_ok_iff.mp h
  cases (expectText_eq_ok_iff.mp hname).symm.trans hkey

end Fields

/-- The fields that are read : every entry passes, and each field is taken from the values under
its name. -/
theorem addAll_eq_ok_iff (mark : Yaml.Mark) {fields result : Fields}
    {entries : List (Step × Yaml.Node × Yaml.Node)} :
    Fields.addAll mark fields entries = .ok result ↔ (∀ entry ∈ entries, passes entry = true) ∧
      Takes WritesText fields.relatedContent (valuesUnder relatedContentField entries)
        result.relatedContent ∧
      Takes WritesBody fields.body (valuesUnder bodyField entries) result.body := by
  induction entries generalizing fields with
  | nil =>
    simp only [Fields.addAll, Except.ok.injEq, valuesUnder, List.filter_nil, List.map_nil,
      takes_nil_iff]
    constructor
    · rintro rfl
      exact ⟨by simp, rfl, rfl⟩
    · rintro ⟨-, hrelated, hbody⟩
      cases fields
      cases result
      simp_all
  | cons entry rest ih =>
    obtain ⟨step, key, value⟩ := entry
    rw [Fields.addAll, bind_eq_ok_iff, List.forall_mem_cons, valuesUnder_cons, valuesUnder_cons]
    simp only [ih]
    cases hkey : key.text? with
    | none => simp [passes, hkey, add_ne_ok_of_noText hkey]
    | some name =>
      rw [passes_eq hkey]
      by_cases hrelated : name = relatedContentField
      · subst hrelated
        rw [if_pos rfl, if_neg (by decide), takes_cons_iff]
        simp only [add_eq_ok_iff_of_relatedContent hkey]
        constructor
        · rintro ⟨_, ⟨hknown, text, htext, rfl⟩, hrest, hrelated, hbody⟩
          exact ⟨⟨rfl, hrest⟩, ⟨hknown, text, htext, hrelated⟩, hbody⟩
        · rintro ⟨⟨-, hrest⟩, ⟨hknown, text, htext, hrelated⟩, hbody⟩
          exact ⟨_, ⟨hknown, text, htext, rfl⟩, hrest, hrelated, hbody⟩
      · by_cases hbody : name = bodyField
        · subst hbody
          rw [if_neg (by decide), if_pos rfl, takes_cons_iff]
          simp only [add_eq_ok_iff_of_body hkey]
          constructor
          · rintro ⟨_, ⟨hknown, body, hvalue, rfl⟩, hrest, hrelated, hbody⟩
            exact ⟨⟨rfl, hrest⟩, hrelated, hknown, body, hvalue, hbody⟩
          · rintro ⟨⟨-, hrest⟩, hrelated, hknown, body, hvalue, hbody⟩
            exact ⟨_, ⟨hknown, body, hvalue, rfl⟩, hrest, hrelated, hbody⟩
        · have hother : isField name = false := by simp [isField, hrelated, hbody]
          rw [if_neg (by simpa using hrelated), if_neg (by simpa using hbody), hother,
            Bool.false_or, and_assoc]
          simp only [add_eq_ok_iff_of_other hkey hother]
          constructor
          · rintro ⟨_, ⟨hwhole, rfl⟩, hrest⟩
            exact ⟨hwhole, hrest⟩
          · rintro ⟨hwhole, hrest⟩
            exact ⟨_, ⟨hwhole, rfl⟩, hrest⟩

/-! ## Recipes -/

/-- The entries of a recipe write it : every entry passes, one value is the text of the related
content, and at most one is the body. -/
structure IsWrittenBy (recipe : Recipe) (entries : List (Step × Yaml.Node × Yaml.Node)) :
    Prop where
  passes : ∀ entry ∈ entries, passes entry = true
  relatedContent : ∃ node, valuesUnder relatedContentField entries = [node] ∧
    WritesText node recipe.relatedContent
  body : (valuesUnder bodyField entries = [] ∧ recipe.body = []) ∨
    ∃ node, valuesUnder bodyField entries = [node] ∧ WritesBody node recipe.body

/-- The text under `related_content` must be there, and the body is empty if it is not. -/
theorem ofFields_eq_ok_iff {mark : Yaml.Mark} {fields : Fields} {recipe : Recipe} :
    ofFields mark fields = .ok recipe ↔
      fields.relatedContent = some recipe.relatedContent ∧ fields.body.getD [] = recipe.body := by
  obtain ⟨related, body⟩ := fields
  obtain ⟨text, ingredients⟩ := recipe
  cases related <;> simp [ofFields]

theorem ofNode_mapping_eq_ok_iff {mark : Yaml.Mark} {tag : Option String}
    {entries : List (Step × Yaml.Node × Yaml.Node)} {recipe : Recipe} :
    ofNode (.mapping mark tag entries) = .ok recipe ↔ recipe.IsWrittenBy entries := by
  have hfields : ofNode (.mapping mark tag entries) =
      (Fields.addAll mark ⟨none, none⟩ entries >>= ofFields mark) := rfl
  simp only [hfields, bind_eq_ok_iff, addAll_eq_ok_iff, ofFields_eq_ok_iff, takes_none_iff]
  constructor
  · rintro ⟨fields, ⟨hpasses, hrelated, hbody⟩, htext, hingredients⟩
    refine ⟨hpasses, ?_, ?_⟩
    · obtain ⟨-, hnone⟩ | ⟨node, text, hvalues, hwrites, hsome⟩ := hrelated
      · cases hnone.symm.trans htext
      · cases hsome.symm.trans htext
        exact ⟨node, hvalues, hwrites⟩
    · rw [← hingredients]
      obtain ⟨hvalues, hnone⟩ | ⟨node, body, hvalues, hwrites, hsome⟩ := hbody
      · exact .inl ⟨hvalues, by rw [hnone, Option.getD_none]⟩
      · exact .inr ⟨node, hvalues, by rwa [hsome, Option.getD_some]⟩
  · rintro ⟨hpasses, ⟨node, hvalues, hwrites⟩, hbody⟩
    have hrelated : Takes WritesText none (valuesUnder relatedContentField entries)
        (some recipe.relatedContent) := by
      rw [hvalues]
      exact .one hwrites
    rw [takes_none_iff] at hrelated
    obtain ⟨hvalues, hnil⟩ | ⟨node, hvalues, hwrites⟩ := hbody
    · exact ⟨⟨some recipe.relatedContent, none⟩, ⟨hpasses, hrelated, .inl ⟨hvalues, rfl⟩⟩, rfl,
        hnil.symm⟩
    · exact ⟨⟨some recipe.relatedContent, some recipe.body⟩,
        ⟨hpasses, hrelated, .inr ⟨node, _, hvalues, hwrites, rfl⟩⟩, rfl, rfl⟩

/-! ## Texts -/

/-- What stands in a text that is a mapping with one text under `related_content` and one
sequence under `body`. -/
structure Parts where
  entries : List (Step × Yaml.Node × Yaml.Node)
  relatedContent : String
  items : List Yaml.Node

/-- The parts of a text. -/
def parts? (s : String) : Option Parts :=
  match Yaml.root? isField s with
  | some (.mapping _ _ entries) =>
    match valuesUnder relatedContentField entries, valuesUnder bodyField entries with
    | [.scalar _ _ _ text], [.sequence _ _ items] => some ⟨entries, text, items⟩
    | _, _ => none
  | _ => none

theorem parts?_eq_some_iff {s : String} {parts : Parts} : parts? s = some parts ↔
    ∃ mark tag, Yaml.root? isField s = some (.mapping mark tag parts.entries) ∧
      (∃ mark tag isPlain, valuesUnder relatedContentField parts.entries =
        [.scalar mark tag isPlain parts.relatedContent]) ∧
      ∃ mark tag, valuesUnder bodyField parts.entries = [.sequence mark tag parts.items] := by
  rw [parts?]
  constructor
  · intro h
    split at h
    · next mark tag entries hroot =>
      split at h
      · next hrelated hbody =>
        cases h
        exact ⟨mark, tag, hroot, ⟨_, _, _, hrelated⟩, _, _, hbody⟩
      · cases h
    · cases h
  · rintro ⟨mark, tag, hroot, ⟨_, _, _, hrelated⟩, _, _, hbody⟩
    simp only [hroot, hrelated, hbody]

/-- The recipe of a text with these parts has their text, and one ingredient for each item. -/
theorem ofText_eq_ok_iff {s : String} {parts : Parts} (hparts : parts? s = some parts)
    {recipe : Recipe} : ofText s = .ok recipe ↔
      (∀ entry ∈ parts.entries, passes entry = true) ∧
        recipe.relatedContent = parts.relatedContent ∧
        List.Forall₂ Writes parts.items recipe.body := by
  obtain ⟨mark, tag, hroot, ⟨_, _, _, hrelated⟩, _, _, hbody⟩ := parts?_eq_some_iff.mp hparts
  simp only [ofText, Yaml.decode_eq_ok_iff, hroot, Option.some.injEq, exists_eq_left',
    ofNode_mapping_eq_ok_iff]
  constructor
  · rintro ⟨hpasses, ⟨_, hvalues, hwrites⟩, hingredients⟩
    cases hrelated.symm.trans hvalues
    refine ⟨hpasses, (Option.some.inj hwrites).symm, ?_⟩
    obtain ⟨hvalues, -⟩ | ⟨_, hvalues, hwrites⟩ := hingredients
    · cases hbody.symm.trans hvalues
    · cases hbody.symm.trans hvalues
      exact Ingredient.writesBody_sequence_iff.mp hwrites
  · rintro ⟨hpasses, htext, hitems⟩
    exact ⟨hpasses, ⟨_, hrelated, htext ▸ rfl⟩, .inr ⟨_, hbody, .items hitems⟩⟩

/-- A text with these parts is read as a recipe when its entries pass and every item is an entry.
Then there is one ingredient for each item. -/
theorem ofText_writes_items {s : String} {parts : Parts} (hparts : parts? s = some parts) :
    ((∃ recipe, ofText s = .ok recipe) ↔ (∀ entry ∈ parts.entries, passes entry = true) ∧
      ∀ item ∈ parts.items, ∃ value, item.Holds value ∧ IsEntry value) ∧
    ∀ recipe, ofText s = .ok recipe → recipe.relatedContent = parts.relatedContent ∧
      List.Forall₂ Writes parts.items recipe.body := by
  simp only [ofText_eq_ok_iff hparts, ← Ingredient.exists_writes_iff,
    ← Ingredient.exists_forall₂_writes_iff]
  refine ⟨⟨?_, ?_⟩, fun recipe h => h.2⟩
  · rintro ⟨recipe, hpasses, -, hitems⟩
    exact ⟨hpasses, recipe.body, hitems⟩
  · rintro ⟨hpasses, ingredients, hitems⟩
    exact ⟨⟨parts.relatedContent, ingredients⟩, hpasses, rfl, hitems⟩

/-- A text with entries of many shapes. -/
def motleyText : String :=
  "related_content: r.yaml\nbody: [m.t, 42, [a], \x7ba: 1\x7d, \x7bg: [p.x], g: [null]\x7d]\n"

theorem ofText_motleyText : ∃ parts recipe, parts? motleyText = some parts ∧
    parts.items.length = 5 ∧ ofText motleyText = .ok recipe ∧
    recipe.relatedContent = parts.relatedContent ∧
    List.Forall₂ Writes parts.items recipe.body := by
  have hshape : (parts? motleyText).map (·.items.length) = some 5 := by decide +kernel
  have hread : (ofText motleyText).toOption.isSome := by decide +kernel
  obtain ⟨parts, hparts, hlength⟩ := Option.map_eq_some_iff.mp hshape
  simp only [Option.isSome_iff_exists, toOption_eq_some_iff] at hread
  obtain ⟨recipe, hrecipe⟩ := hread
  exact ⟨parts, recipe, hparts, hlength, hrecipe, (ofText_writes_items hparts).2 recipe hrecipe⟩

/-- A text whose only item has a tag of its own. -/
def taggedText : String := "related_content: r.yaml\nbody:\n  - !foo bar\n"

/-- The item with the tag makes the whole text unreadable. -/
theorem ofText_taggedText : ∃ parts, parts? taggedText = some parts ∧ parts.items.length = 1 ∧
    (∀ entry ∈ parts.entries, passes entry = true) ∧ ∀ recipe, ofText taggedText ≠ .ok recipe := by
  have hshape : (parts? taggedText).map (fun parts =>
      (parts.items.length, parts.entries.all passes)) = some (1, true) := by decide +kernel
  have hunread : (ofText taggedText).toOption = none := by decide +kernel
  obtain ⟨parts, hparts, hsummary⟩ := Option.map_eq_some_iff.mp hshape
  obtain ⟨hlength, hpasses⟩ := Prod.mk.inj hsummary
  refine ⟨parts, hparts, hlength, List.all_eq_true.mp hpasses, fun recipe hrecipe => ?_⟩
  rw [hrecipe] at hunread
  cases hunread

end Recipe

end PageRecipe
