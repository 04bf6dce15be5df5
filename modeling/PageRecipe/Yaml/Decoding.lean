import PageRecipe.Yaml.Node

/-!
# Decoding documents

A document is decoded from its root node. `Document.ofText` reads a text, `Value.ofNode` is the
value of a node, and `Document.decode` decodes the root, provided that the rest of the text can
be read as well and nothing follows the document.
-/

namespace PageRecipe.Yaml

/-! ## Scalars -/

/-- What a scalar stands for under a tag. The tags of the core types ask for their spelling. -/
def Scalar.read (tag : Option String) (isPlain : Bool) (text : String) :
    Except Complaint Scalar :=
  match tag with
  | none => .ok (ofText isPlain text)
  | some "tag:yaml.org,2002:bool" =>
    ((bool? text).map Scalar.bool).elim (.error (.misspelled text "a boolean")) .ok
  | some "tag:yaml.org,2002:int" =>
    (int? text.toList).elim (.error (.misspelled text "an integer")) .ok
  | some "tag:yaml.org,2002:float" =>
    ((float? text.toList).map Scalar.float).elim (.error (.misspelled text "a float")) .ok
  | some "tag:yaml.org,2002:null" =>
    if isNull text ∧ text ≠ "" then .ok .null else .error (.misspelled text "null")
  | some name => if name.startsWith "!" then .ok (ofText isPlain text) else .ok (.string text)

/-- The complaint about a node that stands in the place of something else. -/
def Scalar.unexpected (tag : Option String) (isPlain : Bool) (text wanted : String) :
    Complaint :=
  match Scalar.read tag isPlain text with
  | .ok scalar => .unexpected (.scalar scalar) wanted
  | .error complaint => complaint

namespace Node

/-- The error about a node that stands in the place of something else. -/
def unexpected (path : Path) (wanted : String) : Node → Error
  | .scalar mark tag isPlain text =>
    .complaint (Scalar.unexpected tag isPlain text wanted) path mark
  | .sequence mark _ _ => .complaint (.unexpected .sequence wanted) path mark
  | .mapping mark _ _ => .complaint (.unexpected .mapping wanted) path mark
  | .failed error => error

/-- The text of a scalar, whatever it is spelled like. -/
def expectText (path : Path) (wanted : String) (node : Node) : Except Error String :=
  match node with
  | .scalar _ _ _ text => .ok text
  | node => .error (node.unexpected path wanted)

/-- The node is a plain scalar without text, which may stand for an empty collection. -/
def isVoid : Node → Bool
  | .scalar _ _ isPlain text => isPlain && text.isEmpty
  | _ => false

/-- The place of a node. -/
def mark : Node → Mark
  | .scalar mark _ _ _ | .sequence mark _ _ | .mapping mark _ _ => mark
  | .failed _ => .start

end Node

/-! ## Values -/

/-- What becomes of the parts of a value that not every reader can hold. -/
structure ValueRules where
  /-- What is wanted where an integer has no place in 64 bits. -/
  wanted : String
  /-- Values may have tags of their own. -/
  keepsTags : Bool
  /-- A key may occur again in a mapping. -/
  allowsRepeats : Bool

/-- Any value, with the tags of the user's own. -/
def ValueRules.any : ValueRules := ⟨"any YAML value", true, false⟩

/-- A value as it is first read where several kinds of things may stand. -/
def ValueRules.buffered : ValueRules := ⟨"any value", false, true⟩

/-- The value of a scalar. -/
def Scalar.toValue (rules : ValueRules) : Scalar → Except Complaint Value
  | .null => .ok .null
  | .bool b => .ok (.bool b)
  | .int n => .ok (.int n)
  | .wide n => .error (.unexpected (.scalar (.wide n)) rules.wanted)
  | .float x => .ok (.float x)
  | .string s => .ok (.string s)

/-- A tag of the user's own, without the exclamation mark in front of it. -/
def ownTag? (tag : Option String) : Option String :=
  match tag.map String.toList with
  | some ('!' :: name) => some (String.ofList name)
  | _ => none

/-- The name under which a tag of the user's own is kept. -/
def tagName (name : String) : String :=
  match name.toList with
  | '!' :: c :: rest => String.ofList (c :: rest)
  | _ => name

/-- A value under a tag of the user's own. -/
def Value.underTag (rules : ValueRules) (name : String) (value : Except Error Value)
    (complain : Complaint → Error) : Except Error Value :=
  if !rules.keepsTags then .error (complain .taggedEntry)
  else if name.isEmpty then .error (complain .emptyTag)
  else value.map (.tagged (tagName name))

namespace Value

mutual

/-- The value of a node. -/
def ofNode (rules : ValueRules) (path : Path) : Node → Except Error Value
  | .failed error => .error error
  | .scalar mark tag isPlain text =>
    let complain (complaint : Complaint) : Error := .complaint complaint path mark
    match ownTag? tag with
    | some name =>
      underTag rules name (((Scalar.ofText isPlain text).toValue rules).mapError complain)
        complain
    | none => ((Scalar.read tag isPlain text).bind (Scalar.toValue rules)).mapError complain
  | .sequence mark tag items =>
    let value := (ofItems rules path 0 items).map .sequence
    match ownTag? tag with
    | some name => underTag rules name value (.complaint · path mark)
    | none => value
  | .mapping mark tag entries =>
    let value := (ofEntries rules path mark [] entries).map .mapping
    match ownTag? tag with
    | some name => underTag rules name value (.complaint · path mark)
    | none => value

/-- The values of the items of a sequence. -/
def ofItems (rules : ValueRules) (path : Path) (index : Nat) :
    List Node → Except Error (List Value)
  | [] => .ok []
  | item :: rest => do
    let value ← ofNode rules (.item index :: path) item
    let values ← ofItems rules path (index + 1) rest
    return value :: values

/-- The values of the entries of a mapping, of which some were read before. -/
def ofEntries (rules : ValueRules) (path : Path) (mark : Mark)
    (before : List (Value × Value)) :
    List (Step × Node × Node) → Except Error (List (Value × Value))
  | [] => .ok before
  | (step, key, node) :: rest => do
    let key ← ofNode rules path key
    if !rules.allowsRepeats && hasKey before key then
      throw (.complaint (.repeatedKey key) path mark)
    let value ← ofNode rules (step :: path) node
    ofEntries rules path mark (before ++ [(key, value)]) rest

end

end Value

/-! ## Documents -/

/-- The bytes in front of the first character that no YAML text may hold. -/
def controlOffset? (offset : Nat) : List Char → Option Nat
  | [] => none
  | c :: rest => if isAllowed c then controlOffset? (offset + c.utf8Size) rest else some offset

/-- The first document of a text. -/
def Document.ofText (s : String) : Except Error Document :=
  match controlOffset? 0 s.toList with
  | some offset => .error (.controlCharacter offset)
  | none =>
    match s.toList with
    | '\uFEFF' :: rest => .ok (.ofTokens (tokens rest))
    | s => .ok (.ofTokens (tokens s))

/-- Decodes the root of the only document of a text. Only the values of `wanted` keys are
looked at. -/
def decode {α : Type} (wanted : String → Bool) (ofRoot : Node → Except Error α) (s : String) :
    Except Error α := do
  let document ← Document.ofText s
  let value ← ofRoot (expandRoot wanted document.root)
  match document.fault with
  | some fault => throw (.unreadable fault)
  | none => if document.hasMore then throw .manyDocuments else return value

end PageRecipe.Yaml
