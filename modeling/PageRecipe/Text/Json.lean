/-!
# JSON texts

Values made of texts, lists and records, written with two blanks for every level
(`JsonValue.render`).
-/

namespace PageRecipe

/-- A value that is written as JSON. -/
inductive JsonValue where
  | string (text : String)
  | list (items : List JsonValue)
  | record (fields : List (String × JsonValue))
  deriving Inhabited

namespace JsonValue

/-- A character in quotes. -/
def escapeChar (c : Char) : List Char :=
  if c = '"' then ['\\', '"']
  else if c = '\\' then ['\\', '\\']
  else if c = '\n' then ['\\', 'n']
  else if c = '\r' then ['\\', 'r']
  else if c = '\t' then ['\\', 't']
  else if c = '\x08' then ['\\', 'b']
  else if c = '\x0c' then ['\\', 'f']
  else if c.toNat < 0x10 then ['\\', 'u', '0', '0', '0'] ++ Nat.toDigits 16 c.toNat
  else if c.toNat < 0x20 then ['\\', 'u', '0', '0'] ++ Nat.toDigits 16 c.toNat
  else [c]

/-- A text in quotes. -/
def quoted (s : String) : String :=
  String.ofList ('"' :: s.toList.flatMap escapeChar ++ ['"'])

/-- A new line so many levels deep. -/
def newLine (depth : Nat) : String := "\n" ++ "".pushn ' ' (2 * depth)

/-- Parts between an opening and a closing mark, each on a line of its own. -/
def enclosed (opening closing : String) (depth : Nat) (parts : List String) : String :=
  if parts.isEmpty then opening ++ closing
  else
    opening ++ ",".intercalate (parts.map (newLine (depth + 1) ++ ·)) ++ newLine depth ++ closing

mutual

/-- A value so many levels deep. -/
def renderAt (depth : Nat) : JsonValue → String
  | string text => quoted text
  | list items => enclosed "[" "]" depth (renderItems (depth + 1) items)
  | record fields => enclosed "\x7b" "\x7d" depth (renderFields (depth + 1) fields)

/-- The items of a list. -/
def renderItems (depth : Nat) : List JsonValue → List String
  | [] => []
  | item :: rest => renderAt depth item :: renderItems depth rest

/-- The fields of a record. -/
def renderFields (depth : Nat) : List (String × JsonValue) → List String
  | [] => []
  | (name, value) :: rest =>
    (quoted name ++ ": " ++ renderAt depth value) :: renderFields depth rest

end

/-- A value as a text. -/
def render (value : JsonValue) : String := renderAt 0 value

end JsonValue

end PageRecipe
