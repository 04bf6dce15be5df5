import PageRecipe.Text.Blank

/-!
# Prose trees

A page's prose is a tree of elements and texts. An element has a tag, an optional id,
classes and children, as in a rendered page. Macros and callouts are not kinds of node of
their own : a classifier recognises them over these two (`PageRecipe.Check.Classifier`).
-/

namespace PageRecipe

/-- A node of a prose tree. -/
inductive Node where
  | element (tag : String) (id : Option String) (classes : List String) (children : List Node)
  | text (value : String)
  deriving Inhabited, Repr

namespace Node

/-! ## Building nodes -/

/-- An element without id, classes and children. -/
def bare (tag : String) : Node := element tag none [] []

/-- An element with children only. -/
def branch (tag : String) (children : List Node) : Node := element tag none [] children

/-- Sets the id of an element ; a text stays as it is. -/
def withId (id : String) : Node → Node
  | element tag _ classes children => element tag (some id) classes children
  | text value => text value

/-- Adds a class to an element ; a text stays as it is. -/
def withClass (cls : String) : Node → Node
  | element tag id classes children => element tag id (classes ++ [cls]) children
  | text value => text value

/-- Appends children to an element ; a text stays as it is. -/
def withChildren (more : List Node) : Node → Node
  | element tag id classes children => element tag id classes (children ++ more)
  | text value => text value

/-- The heading of a rank whose id is its title. -/
def heading (rank : Nat) (title : String) : Node :=
  element ("h" ++ toString rank) (some title) [] [text title]

/-! ## Reading nodes -/

/-- The tag of an element. -/
def tag? : Node → Option String
  | element tag _ _ _ => some tag
  | text _ => none

/-- The id of an element that has one. -/
def id? : Node → Option String
  | element _ id _ _ => id
  | text _ => none

/-- The value of a text. -/
def text? : Node → Option String
  | element .. => none
  | text value => some value

/-- The classes of an element ; a text has none. -/
def classes : Node → List String
  | element _ _ classes _ => classes
  | text _ => []

/-- The children of an element ; a text has none. -/
def children : Node → List Node
  | element _ _ _ children => children
  | text _ => []

/-- The node is an element. -/
def isElement : Node → Bool
  | element .. => true
  | text _ => false

/-- The node is an element with this tag. -/
def isTag (node : Node) (tag : String) : Bool := node.tag? == some tag

theorem isTag_eq_false_of_ne {node : Node} {a b : String} (h : node.isTag a = true)
    (hne : a ≠ b) : node.isTag b = false := by
  rw [isTag, beq_iff_eq] at h
  simp [isTag, h, hne]

/-- The node is an element with this class. -/
def hasClass (node : Node) (cls : String) : Bool := node.classes.contains cls

/-- The node is a text of blanks only, the empty text too. -/
def isBlankText : Node → Bool
  | element .. => false
  | text value => Text.allBlank value

/-- An element is no text, so it is no blank text. -/
theorem isBlankText_of_isTag {node : Node} {tag : String} (h : node.isTag tag = true) :
    node.isBlankText = false := by
  cases node with
  | element => rfl
  | text value => simp [isTag, tag?] at h

/-- The node is a text that begins with `start`. -/
def startsWithText (node : Node) (start : String) : Bool :=
  match node with
  | element .. => false
  | text value => start.toList.isPrefixOf value.toList

/-- The node is exactly this text. -/
def isText (node : Node) (value : String) : Bool := node.text? == some value

theorem startsWithText_iff {node : Node} {start : String} :
    node.startsWithText start = true ↔
      ∃ value, node = .text value ∧ start.toList <+: value.toList := by
  cases node <;> simp [startsWithText, List.isPrefixOf_iff_prefix]

theorem isText_iff {node : Node} {value : String} :
    node.isText value = true ↔ node = .text value := by
  cases node <;> simp [isText, text?]

mutual

/-- The texts of the node and of all nodes below it, joined in document order. -/
def textContent : Node → String
  | element _ _ _ children => textContents children
  | text value => value

/-- The text contents of several nodes, joined. -/
def textContents : List Node → String
  | [] => ""
  | node :: rest => textContent node ++ textContents rest

end

mutual

/-- How many nodes the tree has. -/
def size : Node → Nat
  | element _ _ _ children => sizes children + 1
  | text _ => 1

/-- How many nodes several trees have together. -/
def sizes : List Node → Nat
  | [] => 0
  | node :: rest => size node + sizes rest

end

/-- A selector for the node : its tag, then `#` and its id, then a dot and a name for each
class ; `#text` for a text. -/
def display : Node → String
  | element tag id classes _ =>
    tag ++ (match id with | some id => "#" ++ id | none => "") ++
      String.join (classes.map ("." ++ ·))
  | text _ => "#text"

/-! ## Headings -/

/-- The value of decimal digits read from the left, on top of `value` ; `none` once it does
not fit into a byte. -/
def byteOfDigits (value : Nat) : List Char → Option Nat
  | [] => some value
  | c :: rest =>
    if c.isDigit then
      let next := value * 10 + (c.toNat - '0'.toNat)
      if next < 256 then byteOfDigits next rest else none
    else none

/-- Reads a byte in decimal : an optional plus sign, then digits whose value is below 256.
Leading zeros are allowed. -/
def byte? (s : List Char) : Option Nat :=
  match s with
  | [] => none
  | ['+'] => none
  | '+' :: digits => byteOfDigits 0 digits
  | digits => byteOfDigits 0 digits

/-- The rank of a heading : the number after the `h` of its tag, when it is one of 1 to 6. -/
def headingRank? (node : Node) : Option Nat :=
  match node.tag?.map String.toList with
  | some ('h' :: digits) =>
    match byte? digits with
    | some rank => if 1 ≤ rank ∧ rank ≤ 6 then some rank else none
    | none => none
  | _ => none

/-- The node is a heading. -/
def isHeading (node : Node) : Bool := node.headingRank?.isSome

theorem isHeading_of_isBlankText {node : Node} (h : node.isBlankText = true) :
    node.isHeading = false := by
  cases node with
  | element => simp [isBlankText] at h
  | text value => rfl

theorem isHeading_of_isTag_div {node : Node} (h : node.isTag "div" = true) :
    node.isHeading = false := by
  rw [isTag, beq_iff_eq] at h
  rw [isHeading, headingRank?, h]
  rfl

end Node

end PageRecipe
