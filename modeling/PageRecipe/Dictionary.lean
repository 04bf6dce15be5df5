/-!
# Dictionaries

Values under labels. The entries are sorted by label and no label occurs twice ; putting a
value under a label that is taken replaces the value (`Dictionary.insert`).
-/

namespace PageRecipe

/-- Entries sorted by label. -/
abbrev Dictionary (α : Type) := List (String × α)

namespace Dictionary

variable {α : Type}

/-- Puts a value under a label. -/
def insert (label : String) (value : α) : Dictionary α → Dictionary α
  | [] => [(label, value)]
  | (other, old) :: rest =>
    if label < other then (label, value) :: (other, old) :: rest
    else if label = other then (label, value) :: rest
    else (other, old) :: insert label value rest

/-- The value under a label. -/
def get? (dictionary : Dictionary α) (label : String) : Option α := dictionary.lookup label

/-- The dictionary of some entries, in which later ones win. -/
def ofEntries (entries : List (String × α)) : Dictionary α :=
  entries.foldl (fun dictionary entry => dictionary.insert entry.1 entry.2) []

/-- The labels in order. -/
def labels (dictionary : Dictionary α) : List String := dictionary.map (·.1)

theorem get?_insert_self (label : String) (value : α) (dictionary : Dictionary α) :
    (dictionary.insert label value).get? label = some value := by
  induction dictionary with
  | nil => simp [insert, get?]
  | cons entry rest ih =>
    obtain ⟨other, old⟩ := entry
    simp only [insert, get?] at ih ⊢
    split
    · simp
    · split
      · simp
      · next h =>
        have : (label == other) = false := by simpa using h
        simp [List.lookup_cons, this, ih]

theorem get?_insert_of_ne {label other : String} (h : other ≠ label) (value : α)
    (dictionary : Dictionary α) :
    (dictionary.insert label value).get? other = dictionary.get? other := by
  have h' : (other == label) = false := by simpa using h
  induction dictionary with
  | nil => simp [insert, get?, List.lookup_cons, h']
  | cons entry rest ih =>
    obtain ⟨key, old⟩ := entry
    simp only [insert, get?] at ih ⊢
    split
    · simp [List.lookup_cons, h']
    · split
      · next heq => subst heq; simp [List.lookup_cons, h']
      · simp only [List.lookup_cons]
        split <;> simp_all

theorem mem_labels_iff {label : String} {dictionary : Dictionary α} :
    label ∈ dictionary.labels ↔ (dictionary.get? label).isSome = true := by
  rw [labels, List.mem_map, get?, List.lookup_isSome_iff]
  simp only [beq_iff_eq, eq_comm (a := label)]

end Dictionary

end PageRecipe
