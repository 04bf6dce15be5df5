import PageRecipe.Text.Quoted
import PageRecipe.Toml.Document

/-!
# Expected kinds of values

Readers of a document expect a text or a list of texts under a key. A value of another kind is
a misfit, which says what was found and what was expected (`Misfit.message`). `readEntries`
reads the entries of a text, and `explainIn` shows a misfit under the line of its value.
-/

namespace PageRecipe.Toml

/-- A value in words, when another kind of value was expected. -/
def Item.describe : Item → String
  | .scalar _ (.string text) => "string " ++ Text.quoted text
  | .scalar _ (.integer n) => "integer \x60" ++ toString n ++ "\x60"
  | .scalar _ (.float x) =>
    let text := x.toPositional
    let point := if x.isSpecial || text.contains '.' then "" else ".0"
    "floating point \x60" ++ text ++ point ++ "\x60"
  | .scalar _ (.boolean b) => "boolean \x60" ++ (if b then "true" else "false") ++ "\x60"
  | .array .. | .tables .. => "sequence"
  | .scalar _ .datetime | .inlineTable .. | .table .. => "map"

/-- A value of another kind than the one that was expected. -/
structure Misfit where
  span : Span
  found : Item
  expected : String

/-- A misfit in words. -/
def Misfit.message (misfit : Misfit) : String :=
  "invalid type: " ++ misfit.found.describe ++ ", expected " ++ misfit.expected

/-- A misfit under the line of its value. -/
def Misfit.explainIn (source : List Char) (misfit : Misfit) : String :=
  display source misfit.span misfit.message

namespace Item

/-- The misfit that an item under a key is. -/
def misfit (item : Item) (key : Key) (expected : String) : Misfit :=
  ⟨item.span?.getD key.span, item, expected⟩

/-- The text that an item under a key is. -/
def expectText (item : Item) (key : Key) (expected : String) : Except Misfit String :=
  match item with
  | .scalar _ (.string text) => .ok text
  | item => .error (item.misfit key expected)

/-- The list of texts that an item under a key is. -/
def expectTexts (item : Item) (key : Key) : Except Misfit (List String) :=
  match item with
  | .array _ items => items.mapM fun inner => inner.expectText key "a string"
  | .tables _ items => items.mapM fun inner => inner.expectText key "a string"
  | item => .error (item.misfit key "a sequence")

end Item

/-- The entries of a text, or what is wrong with it under the line where it is. -/
def readEntries (source : List Char) : Except String Entries :=
  (Document.read source).mapError fun fault =>
    display source (charSpan fault.rest) fault.message

end PageRecipe.Toml
