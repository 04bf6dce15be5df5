import PageRecipe.Numeric.Literal
import PageRecipe.Text.Quoted

/-!
# YAML values

What a YAML node stands for, without its place and its style. `Value.same` is equality as
mapping keys go by it : the order of the entries of a mapping does not matter. `Value.display`
writes a value out in one line.
-/

namespace PageRecipe.Yaml

/-- A value. A mapping keeps its entries in the order in which they were written. -/
inductive Value where
  | null
  | bool (value : Bool)
  | int (value : Int)
  | float (value : Binary64)
  | string (value : String)
  | sequence (items : List Value)
  | mapping (entries : List (Value × Value))
  /-- A value under a tag of the user's own. -/
  | tagged (tag : String) (value : Value)
  deriving Repr, Inhabited

/-- The text of a floating-point number. -/
def floatText (x : Binary64) : String :=
  if x.isNaN then ".nan"
  else if x.isSpecial then (if x.isNegative then "-.inf" else ".inf")
  else x.compact

namespace Value

/-- The value without its tags. -/
def untagged : Value → Value
  | .tagged _ value => untagged value
  | value => value

/-- The value is null, up to tags. -/
def isNull (value : Value) : Bool :=
  match value.untagged with
  | .null => true
  | _ => false

/-- The text of a string, up to tags. -/
def text? (value : Value) : Option String :=
  match value.untagged with
  | .string s => some s
  | _ => none

/-! ## Equality -/

mutual

/-- Two values are equal, up to the order of the entries of mappings. -/
def same : Value → Value → Bool
  | .null, .null => true
  | .bool a, .bool b => a == b
  | .int a, .int b => a == b
  | .float a, .float b => a.sameNumber b
  | .string a, .string b => a == b
  | .sequence xs, .sequence ys => sameItems xs ys
  | .mapping xs, .mapping ys => xs.length == ys.length && sameEntries xs ys
  | .tagged s v, .tagged t w => s == t && same v w
  | _, _ => false

/-- The items of two sequences are equal one by one. -/
def sameItems : List Value → List Value → Bool
  | [], [] => true
  | x :: xs, y :: ys => same x y && sameItems xs ys
  | _, _ => false

/-- Every entry of the first mapping is an entry of the second. -/
def sameEntries : List (Value × Value) → List (Value × Value) → Bool
  | [], _ => true
  | (key, value) :: rest, ys =>
    (ys.any fun entry => same key entry.1 && same value entry.2) && sameEntries rest ys

end

/-- A key occurs among the entries of a mapping. -/
def hasKey (entries : List (Value × Value)) (key : Value) : Bool :=
  entries.any fun entry => same entry.1 key

mutual

/-- No mapping inside the value has two entries of one key. -/
def hasDistinctKeys : Value → Bool
  | .sequence items => haveDistinctKeys items
  | .mapping entries => entriesDistinct [] entries
  | .tagged _ value => hasDistinctKeys value
  | _ => true

/-- No mapping inside the values has two entries of one key. -/
def haveDistinctKeys : List Value → Bool
  | [] => true
  | value :: rest => hasDistinctKeys value && haveDistinctKeys rest

/-- The keys of the entries are none of `before` and no two of them are equal, neither at this
level nor inside. -/
def entriesDistinct (before : List Value) : List (Value × Value) → Bool
  | [] => true
  | (key, value) :: rest =>
    hasDistinctKeys key && !(before.any fun other => same other key) &&
      hasDistinctKeys value && entriesDistinct (key :: before) rest

end

/-! ## Written form -/

/-- Texts between brackets, with commas between them. -/
def enclosed (opening closing : String) (texts : List String) : String :=
  opening ++ ", ".intercalate texts ++ closing

/-- The text of a truth value. -/
def boolText (b : Bool) : String := if b then "true" else "false"

mutual

/-- A value in one line, with its kind. -/
def display : Value → String
  | .null => "Null"
  | .bool b => "Bool(" ++ boolText b ++ ")"
  | .int n => "Number(" ++ toString n ++ ")"
  | .float x => "Number(" ++ floatText x ++ ")"
  | .string s => "String(" ++ Text.quoted s ++ ")"
  | .sequence items => "Sequence " ++ enclosed "[" "]" (displayItems items)
  | .mapping entries => "Mapping " ++ enclosed "\x7b" "\x7d" (displayEntries entries)
  | .tagged tag value =>
    "TaggedValue \x7b tag: !" ++ tag ++ ", value: " ++ display value ++ " \x7d"

/-- Values, each in one line. -/
def displayItems : List Value → List String
  | [] => []
  | value :: rest => display value :: displayItems rest

/-- The entries of a mapping. Keys that are numbers, texts or truth values stand without
their kind. -/
def displayEntries : List (Value × Value) → List String
  | [] => []
  | (key, value) :: rest =>
    let keyText :=
      match key with
      | .bool b => boolText b
      | .int n => toString n
      | .float x => floatText x
      | .string s => Text.quoted s
      | other => display other
    (keyText ++ ": " ++ display value) :: displayEntries rest

end

end Value

end PageRecipe.Yaml
