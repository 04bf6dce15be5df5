import PageRecipe.Proofs.Yaml.NodeValues

/-!
# Values without repeated keys

Where several kinds of things may stand a mapping may repeat a key at first, and where any value
may stand it may not. A value in which no mapping does (`Value.hasDistinctKeys`) has different
keys in each of its mappings (`Value.keys_of_entriesDistinct`), and its node is read as the same
value by either rule (`Value.ofNode_any_of_holds`).
-/

namespace PageRecipe.Yaml

namespace Value

/-! ## Keys -/

theorem haveDistinctKeys_iff {values : List Value} : haveDistinctKeys values = true ↔
    ∀ value ∈ values, value.hasDistinctKeys = true := by
  induction values with
  | nil => simp [haveDistinctKeys]
  | cons value rest ih => simp [haveDistinctKeys, ih]

/-- Where no key is repeated at all, none is repeated inside a value. -/
theorem hasDistinctKeys_of_mem {before : List Value} {entries : List (Value × Value)}
    (hdistinct : entriesDistinct before entries = true) :
    ∀ entry ∈ entries, entry.2.hasDistinctKeys = true := by
  induction entries generalizing before with
  | nil => simp
  | cons entry rest ih =>
    simp only [entriesDistinct, Bool.and_eq_true] at hdistinct
    exact List.forall_mem_cons.mpr ⟨hdistinct.1.2, ih hdistinct.2⟩

/-- Different keys are different from each other and from those before. -/
theorem keys_of_entriesDistinct {before : List Value} {entries : List (Value × Value)}
    (hdistinct : entriesDistinct before entries = true) :
    (∀ other ∈ before, ∀ entry ∈ entries, same other entry.1 = false) ∧
      (entries.map (·.1)).Pairwise fun a b => same a b = false := by
  induction entries generalizing before with
  | nil => exact ⟨by simp, .nil⟩
  | cons entry rest ih =>
    simp only [entriesDistinct, Bool.and_eq_true, Bool.not_eq_true', List.any_eq_false] at hdistinct
    obtain ⟨⟨⟨-, hkey⟩, -⟩, hmore⟩ := hdistinct
    obtain ⟨hbefore, hrest⟩ := ih hmore
    obtain ⟨hentry, hbefore⟩ := List.forall_mem_cons.mp hbefore
    refine ⟨fun other hother => ?_, ?_⟩
    · exact List.forall_mem_cons.mpr ⟨by simpa using hkey other hother, hbefore other hother⟩
    · exact List.pairwise_cons.mpr ⟨by simpa using hentry, hrest⟩

/-! ## Values of any kind -/

theorem toValue_any_of_buffered {scalar : Scalar} {value : Value}
    (h : scalar.toValue .buffered = .ok value) : scalar.toValue .any = .ok value := by
  cases scalar with
  | wide n => cases h
  | _ => exact h

mutual

/-- A node that is read where several kinds of things may stand is read as the same value where
any value may stand, if that repeats no key. -/
theorem ofNode_any_of_holds : ∀ (path : Path) (node : Node) {value : Value}, node.Holds value →
    value.hasDistinctKeys = true → ofNode .any path node = .ok value
  | path, .failed _, _, h, _ => by cases h
  | path, .scalar mark tag isPlain text, value, h, _ => by
    cases h with
    | scalar hown hread hvalue =>
      rw [ofNode, hown, mapError_eq_ok_iff]
      exact bind_eq_ok_iff.mpr ⟨_, hread, toValue_any_of_buffered hvalue⟩
  | path, .sequence mark tag items, value, h, hdistinct => by
    cases h with
    | sequence hown hitems =>
      rw [hasDistinctKeys] at hdistinct
      rw [ofNode, hown]
      exact map_eq_ok_iff.mpr ⟨_, ofItems_any_of_holds path 0 items hitems hdistinct, rfl⟩
  | path, .mapping mark tag entries, value, h, hdistinct => by
    cases h with
    | mapping hown hentries =>
      rw [hasDistinctKeys] at hdistinct
      rw [ofNode, hown]
      exact map_eq_ok_iff.mpr
        ⟨_, ofEntries_any_of_holds path mark [] entries hentries hdistinct, rfl⟩

theorem ofItems_any_of_holds : ∀ (path : Path) (index : Nat) (items : List Node)
    {values : List Value}, Node.HoldsAll items values → haveDistinctKeys values = true →
      ofItems .any path index items = .ok values
  | path, index, [], values, h, _ => by
    cases h
    rfl
  | path, index, item :: rest, values, h, hdistinct => by
    cases h with
    | cons hitem hrest =>
      rw [haveDistinctKeys, Bool.and_eq_true] at hdistinct
      rw [ofItems, ofNode_any_of_holds _ item hitem hdistinct.1,
        ofItems_any_of_holds path _ rest hrest hdistinct.2]
      rfl

/-- The keys that were read before are those that the rest must not repeat, the last one first. -/
theorem ofEntries_any_of_holds : ∀ (path : Path) (mark : Mark) (before : List (Value × Value))
    (entries : List (Step × Node × Node)) {pairs : List (Value × Value)},
    Node.HoldsEntries entries pairs → entriesDistinct (before.map (·.1)).reverse pairs = true →
      ofEntries .any path mark before entries = .ok (before ++ pairs)
  | path, mark, before, [], pairs, h, _ => by
    cases h
    rw [ofEntries, List.append_nil]
  | path, mark, before, (step, keyNode, node) :: rest, pairs, h, hdistinct => by
    cases h with
    | cons _ hkey hvalue hrest =>
      rename_i key value pairs
      simp only [entriesDistinct, Bool.and_eq_true, Bool.not_eq_true'] at hdistinct
      obtain ⟨⟨⟨hkeyDistinct, hnew⟩, hvalueDistinct⟩, hmore⟩ := hdistinct
      have hhas : hasKey before key = false := by
        rw [List.any_reverse, List.any_map] at hnew
        exact hnew
      rw [ofEntries]
      refine bind_eq_ok_iff.mpr ⟨key, ofNode_any_of_holds path keyNode hkey hkeyDistinct, ?_⟩
      rw [hhas, Bool.and_false, if_neg Bool.false_ne_true]
      refine bind_eq_ok_iff.mpr
        ⟨value, ofNode_any_of_holds (step :: path) node hvalue hvalueDistinct, ?_⟩
      rw [ofEntries_any_of_holds path mark (before ++ [(key, value)]) rest hrest
        (by simpa using hmore), List.append_assoc]
      rfl

end

end Value

end PageRecipe.Yaml
