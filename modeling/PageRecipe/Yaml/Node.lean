import PageRecipe.Yaml.Error
import PageRecipe.Yaml.Written

/-!
# Nodes

The nodes of a document with the aliases followed. An alias stands for the node that its
anchor marks (`Anchors.ofWritten`), and `expand` puts that node in its place. Nesting and the
following of aliases are limited ; where a limit is hit, or the text is broken, a node says
why the reading fails there.
-/

namespace PageRecipe.Yaml

/-- A node without aliases. -/
inductive Node where
  | scalar (mark : Mark) (tag : Option String) (isPlain : Bool) (text : String)
  | sequence (mark : Mark) (tag : Option String) (items : List Node)
  /-- A mapping. Its entries have the step that a path takes to the value. -/
  | mapping (mark : Mark) (tag : Option String) (entries : List (Step × Node × Node))
  /-- The reading fails here. -/
  | failed (error : Error)
  deriving Repr, Inhabited

/-! ## Anchors -/

/-- An anchor with its node, or an alias. -/
inductive Mention where
  | anchor (name : String) (node : Written)
  | aliasTo (name : String) (mark : Mark)

/-- The anchor of a label as a mention. -/
def anchorMention (label : Label) (node : Written) : List Mention :=
  label.anchor.toList.map fun name => .anchor name node

mutual

/-- The anchors and aliases of a node in the order of the text. -/
def mentions (node : Written) : List Mention :=
  match node with
  | .scalar label _ _ => anchorMention label node
  | .sequence label items => anchorMention label node ++ mentionsOfItems items
  | .mapping label entries => anchorMention label node ++ mentionsOfEntries entries
  | .aliasTo mark name => [.aliasTo name mark]
  | .broken _ => []

/-- The anchors and aliases of the items of a sequence. -/
def mentionsOfItems : List Written → List Mention
  | [] => []
  | item :: rest => mentions item ++ mentionsOfItems rest

/-- The anchors and aliases of the entries of a mapping. -/
def mentionsOfEntries : List (Written × Written) → List Mention
  | [] => []
  | (key, value) :: rest => mentions key ++ mentions value ++ mentionsOfEntries rest

end

/-- The anchors of a document. Every anchor has a number, which is how many names were in use
before it, so an anchor may take over the number of an earlier one when a name is used
twice. -/
structure Anchors where
  /-- The number that a name has at this point, the latest name first. -/
  numbers : List (String × Nat)
  /-- The number that each alias stands for. -/
  links : List (Mark × Nat)
  /-- The node of a number, the latest first. -/
  targets : List (Nat × Written)

namespace Anchors

/-- No anchors. -/
def none : Anchors := ⟨[], [], []⟩

/-- How many names are in use. -/
def nameCount (anchors : Anchors) : Nat := (anchors.numbers.map (·.1)).eraseDups.length

/-- Takes mentions in the order of the text, up to the first alias without an anchor. -/
def addAll : Anchors → List Mention → Anchors
  | anchors, [] => anchors
  | anchors, .anchor name node :: rest =>
    let number := anchors.nameCount
    addAll { anchors with
      numbers := (name, number) :: anchors.numbers
      targets := (number, node) :: anchors.targets } rest
  | anchors, .aliasTo name mark :: rest =>
    match anchors.numbers.lookup name with
    | some number => addAll { anchors with links := (mark, number) :: anchors.links } rest
    | .none => anchors

/-- The anchors of a document. -/
def ofWritten (root : Written) : Anchors := none.addAll (mentions root)

/-- The node that the alias at a place stands for. -/
def target? (anchors : Anchors) (mark : Mark) : Option Written :=
  (anchors.links.lookup mark).bind fun number => anchors.targets.lookup number

end Anchors

/-! ## Following aliases -/

mutual

/-- How many steps it takes to walk through a node : one for a scalar or an alias, and two
for a collection and what is in it. -/
def stepCount : Written → Nat
  | .scalar .. | .aliasTo .. => 1
  | .sequence _ items => 2 + stepCountOfItems items
  | .mapping _ entries => 2 + stepCountOfEntries entries
  | .broken _ => 0

/-- How many steps the items of a sequence take. -/
def stepCountOfItems : List Written → Nat
  | [] => 0
  | item :: rest => stepCount item + stepCountOfItems rest

/-- How many steps the entries of a mapping take. -/
def stepCountOfEntries : List (Written × Written) → Nat
  | [] => 0
  | (key, value) :: rest => stepCount key + stepCount value + stepCountOfEntries rest

end

/-- How deeply collections may be nested. -/
def maxDepth : Nat := 128

/-- How often aliases may be followed in a document. -/
def maxJumps (root : Written) : Nat := 100 * stepCount root

/-- The node that an alias stands for, or the node itself. The state is how many more aliases
may be followed. -/
def follow (anchors : Anchors) : Written → StateM Nat (Except Error Written)
  | .aliasTo mark _ => do
    match ← get with
    | 0 => return .error .tooManyAliases
    | jumps + 1 =>
      set jumps
      match anchors.target? mark with
      | some node => return .ok node
      | none => return .error (.unknownAnchor mark)
  | .broken fault => return .error (.unreadable fault)
  | node => return .ok node

/-- The step that a path takes to the value of a key. -/
def stepTo : Written → Step
  | .scalar _ _ text => .key text
  | _ => .unknown

/-- A node with its aliases followed, in which collections may be nested so deeply. -/
def expand (anchors : Anchors) : Nat → Written → StateM Nat Node
  | depth, node => do
    match ← follow anchors node, depth with
    | .error error, _ => return .failed error
    | .ok (.scalar label isPlain text), _ =>
      return .scalar label.mark label.tag isPlain text
    | .ok (.sequence label _), 0 | .ok (.mapping label _), 0 =>
      return .failed (.tooDeep label.mark)
    | .ok (.sequence label items), depth + 1 =>
      return .sequence label.mark label.tag (← items.mapM (expand anchors depth))
    | .ok (.mapping label entries), depth + 1 =>
      let entries ← entries.mapM fun (key, value) => do
        let keyNode ← expand anchors depth key
        return (stepTo key, keyNode, ← expand anchors depth value)
      return .mapping label.mark label.tag entries
    | .ok (.aliasTo mark _), _ => return .failed (.unknownAnchor mark)
    | .ok (.broken fault), _ => return .failed (.unreadable fault)

mutual

/-- Why a node cannot be walked over, if it cannot. -/
def obstacle? (anchors : Anchors) : Written → Option Error
  | .scalar .. => none
  | .sequence _ items => obstacleInItems? anchors items
  | .mapping _ entries => obstacleInEntries? anchors entries
  | .aliasTo mark _ => if (anchors.target? mark).isSome then none else some (.unknownAnchor mark)
  | .broken fault => some (.unreadable fault)

/-- Why the items of a sequence cannot be walked over. -/
def obstacleInItems? (anchors : Anchors) : List Written → Option Error
  | [] => none
  | item :: rest => (obstacle? anchors item).or (obstacleInItems? anchors rest)

/-- Why the entries of a mapping cannot be walked over. -/
def obstacleInEntries? (anchors : Anchors) : List (Written × Written) → Option Error
  | [] => none
  | (key, value) :: rest =>
    ((obstacle? anchors key).or (obstacle? anchors value)).or (obstacleInEntries? anchors rest)

end

/-- A node whose value does not matter. -/
def skip (anchors : Anchors) (node : Written) : Node :=
  match obstacle? anchors node with
  | some error => .failed error
  | none => .scalar .start none true ""

/-- The text of a scalar. -/
def Node.text? : Node → Option String
  | .scalar _ _ _ text => some text
  | _ => none

/-- The root of a document with its aliases followed. In a mapping the values of keys that are
not wanted are walked over. -/
def expandRoot (wanted : String → Bool) (root : Written) : Node :=
  let anchors := Anchors.ofWritten root
  let read : StateM Nat Node := do
    match root with
    | .mapping label entries =>
      let depth := maxDepth - 1
      let entries ← entries.mapM fun (key, value) => do
        let keyNode ← expand anchors depth key
        let valueNode ←
          if keyNode.text?.all wanted then expand anchors depth value
          else pure (skip anchors value)
        return (stepTo key, keyNode, valueNode)
      return .mapping label.mark label.tag entries
    | root => expand anchors maxDepth root
  (read.run (maxJumps root)).1

end PageRecipe.Yaml
