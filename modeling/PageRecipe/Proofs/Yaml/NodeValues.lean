import PageRecipe.Proofs.Failing
import PageRecipe.Yaml.Decoding

/-!
# The values that nodes hold

Where several kinds of things may stand, a node is read as a value first. `Node.Holds` says
which value that is, and when there is none : for a tag of the user's own, for an integer that
has no place in 64 bits, for a scalar that is not spelled as its tag says, and where the reading
fails, at whatever depth they stand. Where the node stands makes no difference
(`Value.ofNode_eq_ok_iff`). The root of a document is decoded when nothing else is in the text
(`decode_eq_ok_iff`).
-/

namespace PageRecipe.Yaml

mutual

/-- The node is read as this value. -/
inductive Node.Holds : Node → Value → Prop where
  | scalar {mark : Mark} {tag : Option String} {isPlain : Bool} {text : String} {scalar : Scalar}
      {value : Value} (hown : ownTag? tag = none)
      (hread : Scalar.read tag isPlain text = .ok scalar)
      (hvalue : scalar.toValue .buffered = .ok value) :
      Holds (.scalar mark tag isPlain text) value
  | sequence {mark : Mark} {tag : Option String} {items : List Node} {values : List Value}
      (hown : ownTag? tag = none) (hitems : HoldsAll items values) :
      Holds (.sequence mark tag items) (.sequence values)
  | mapping {mark : Mark} {tag : Option String} {entries : List (Step × Node × Node)}
      {pairs : List (Value × Value)} (hown : ownTag? tag = none)
      (hentries : HoldsEntries entries pairs) : Holds (.mapping mark tag entries) (.mapping pairs)

/-- The nodes are read as these values, one by one. -/
inductive Node.HoldsAll : List Node → List Value → Prop where
  | nil : HoldsAll [] []
  | cons {item : Node} {value : Value} {rest : List Node} {values : List Value}
      (hitem : Holds item value) (hrest : HoldsAll rest values) :
      HoldsAll (item :: rest) (value :: values)

/-- The keys and values of a mapping are read as these, one by one. -/
inductive Node.HoldsEntries : List (Step × Node × Node) → List (Value × Value) → Prop where
  | nil : HoldsEntries [] []
  | cons (step : Step) {keyNode node : Node} {key value : Value}
      {rest : List (Step × Node × Node)} {pairs : List (Value × Value)} (hkey : Holds keyNode key)
      (hvalue : Holds node value) (hrest : HoldsEntries rest pairs) :
      HoldsEntries ((step, keyNode, node) :: rest) ((key, value) :: pairs)

end

/-- The tag of a node. -/
def Node.tag : Node → Option String
  | .scalar _ tag _ _ | .sequence _ tag _ | .mapping _ tag _ => tag
  | .failed _ => none

/-- A node that is read as a value has no tag of the user's own. -/
theorem Node.Holds.ownTag_eq {node : Node} {value : Value} (h : node.Holds value) :
    ownTag? node.tag = none := by
  cases h <;> assumption

theorem Value.underTag_buffered_ne_ok (name : String) (held : Except Error Value)
    (complain : Complaint → Error) (value : Value) :
    underTag .buffered name held complain ≠ .ok value := nofun

namespace Value

mutual

/-- What a node is read as does not depend on its place. -/
theorem ofNode_eq_ok_iff : ∀ (path : Path) (node : Node) {value : Value},
    ofNode .buffered path node = .ok value ↔ node.Holds value
  | path, .failed error, value => by
    rw [ofNode]
    exact ⟨nofun, nofun⟩
  | path, .scalar mark tag isPlain text, value => by
    rw [ofNode]
    cases hown : ownTag? tag with
    | some name =>
      exact ⟨fun h => absurd h (underTag_buffered_ne_ok _ _ _ _),
        fun h => by cases hown.symm.trans h.ownTag_eq⟩
    | none =>
      simp only [mapError_eq_ok_iff]
      constructor
      · intro h
        obtain ⟨scalar, hread, hvalue⟩ := bind_eq_ok_iff.mp h
        exact .scalar hown hread hvalue
      · rintro (⟨-, hread, hvalue⟩)
        exact bind_eq_ok_iff.mpr ⟨_, hread, hvalue⟩
  | path, .sequence mark tag items, value => by
    rw [ofNode]
    cases hown : ownTag? tag with
    | some name =>
      exact ⟨fun h => absurd h (underTag_buffered_ne_ok _ _ _ _),
        fun h => by cases hown.symm.trans h.ownTag_eq⟩
    | none =>
      simp only [map_eq_ok_iff, ofItems_eq_ok_iff path 0 items]
      constructor
      · rintro ⟨values, hitems, rfl⟩
        exact .sequence hown hitems
      · intro h
        cases h with
        | sequence _ hitems => exact ⟨_, hitems, rfl⟩
  | path, .mapping mark tag entries, value => by
    rw [ofNode]
    cases hown : ownTag? tag with
    | some name =>
      exact ⟨fun h => absurd h (underTag_buffered_ne_ok _ _ _ _),
        fun h => by cases hown.symm.trans h.ownTag_eq⟩
    | none =>
      simp only [map_eq_ok_iff, ofEntries_eq_ok_iff path mark [] entries, List.nil_append]
      constructor
      · rintro ⟨_, ⟨pairs, hentries, rfl⟩, rfl⟩
        exact .mapping hown hentries
      · intro h
        cases h with
        | mapping _ hentries => exact ⟨_, ⟨_, hentries, rfl⟩, rfl⟩

theorem ofItems_eq_ok_iff : ∀ (path : Path) (index : Nat) (items : List Node)
    {values : List Value},
    ofItems .buffered path index items = .ok values ↔ Node.HoldsAll items values
  | path, index, [], values => by
    rw [ofItems]
    constructor
    · rintro ⟨⟩
      exact .nil
    · rintro ⟨⟩
      rfl
  | path, index, item :: rest, values => by
    rw [ofItems]
    simp only [bind_eq_ok_iff, ofNode_eq_ok_iff _ item, ofItems_eq_ok_iff _ _ rest]
    constructor
    · rintro ⟨value, hitem, values, hrest, ⟨⟩⟩
      exact .cons hitem hrest
    · intro h
      cases h with
      | cons hitem hrest => exact ⟨_, hitem, _, hrest, rfl⟩

/-- Keys may be repeated, so all entries are taken behind those before. -/
theorem ofEntries_eq_ok_iff : ∀ (path : Path) (mark : Mark) (before : List (Value × Value))
    (entries : List (Step × Node × Node)) {pairs : List (Value × Value)},
    ofEntries .buffered path mark before entries = .ok pairs ↔
      ∃ more, Node.HoldsEntries entries more ∧ pairs = before ++ more
  | path, mark, before, [], pairs => by
    rw [ofEntries]
    constructor
    · rintro ⟨⟩
      exact ⟨[], .nil, (List.append_nil before).symm⟩
    · rintro ⟨more, ⟨⟩, rfl⟩
      rw [List.append_nil]
  | path, mark, before, (step, keyNode, node) :: rest, pairs => by
    rw [ofEntries]
    have hrepeats : ValueRules.buffered.allowsRepeats = true := rfl
    simp only [hrepeats, Bool.not_true, Bool.false_and, Bool.false_eq_true, if_false,
      bind_eq_ok_iff, ofNode_eq_ok_iff _ keyNode, ofNode_eq_ok_iff _ node,
      ofEntries_eq_ok_iff _ _ _ rest]
    constructor
    · rintro ⟨key, hkey, value, hvalue, more, hrest, rfl⟩
      exact ⟨(key, value) :: more, .cons step hkey hvalue hrest, by simp⟩
    · rintro ⟨more, hmore, rfl⟩
      cases hmore with
      | cons _ hkey hvalue hrest => exact ⟨_, hkey, _, hvalue, _, hrest, by simp⟩

end

end Value

/-- A node is read as one value at most. -/
theorem Node.Holds.unique {node : Node} {a b : Value} (ha : node.Holds a) (hb : node.Holds b) :
    a = b :=
  Except.ok.inj (((Value.ofNode_eq_ok_iff [] node).mpr ha).symm.trans
    ((Value.ofNode_eq_ok_iff [] node).mpr hb))

/-! ## Documents -/

/-- The root of a text that holds one document and nothing else. -/
def root? (wanted : String → Bool) (s : String) : Option Node :=
  match Document.ofText s with
  | .ok ⟨root, none, false⟩ => some (expandRoot wanted root)
  | _ => none

/-- A text is decoded when it has a root that is decoded. -/
theorem decode_eq_ok_iff {α : Type} {wanted : String → Bool} {ofRoot : Node → Except Error α}
    {s : String} {a : α} : decode wanted ofRoot s = .ok a ↔
      ∃ root, root? wanted s = some root ∧ ofRoot root = .ok a := by
  rw [decode, root?]
  cases hdocument : Document.ofText s with
  | error error => exact ⟨nofun, nofun⟩
  | ok document =>
    obtain ⟨root, fault, hasMore⟩ := document
    simp only [bind_eq_ok_iff, Except.ok.injEq, exists_eq_left']
    cases fault <;> cases hasMore <;> simp [throw, throwThe, MonadExceptOf.throw, pure, Except.pure]

end PageRecipe.Yaml
