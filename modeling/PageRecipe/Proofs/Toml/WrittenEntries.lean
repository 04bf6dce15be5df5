import PageRecipe.Proofs.Failing
import PageRecipe.Proofs.Toml.WrittenStrings
import PageRecipe.Toml.Document
import PageRecipe.Toml.Layout

/-!
# Entries that were written are read back

A document of entries, each of them a text or a list of texts under a key without quotes
(`Content`), is read back entry by entry.

A list has three layouts (`readArray_writeTexts`). With every item on its own line a comma stands
behind the last one too : there the reader looks for one more item, finds the bracket and goes
back to the comma (`readItems_lines`).

One line of a document adds one entry to those that were read (`Document.readLines_entry`). No
line opens a table, so all entries are in the root (`Document.top`), and at the end nothing is
left to be put into it (`Document.read_entries`).
-/

namespace PageRecipe.Toml

/-! ## What is written -/

/-- What stands under a key : a text or a list of texts. -/
inductive Content where
  | text (s : List Char)
  | texts (items : List (List Char))

namespace Content

/-- The content as it is written. -/
def write : Content → List Char
  | text s => Toml.write s
  | texts items => writeTexts items

/-- The item is what a content is read as. -/
inductive IsReadAs : Content → Item → Prop where
  | text (s : List Char) (span : Span) :
      IsReadAs (.text s) (.scalar span (.string (String.ofList s)))
  | texts {texts : List (List Char)} {items : List Item} (span : Span)
      (hitems : List.Forall₂ (fun s => IsReadAs (.text s)) texts items) :
      IsReadAs (.texts texts) (.array span items)

end Content

/-! ## Blanks -/

/-- A character at which no blanks, comments or line breaks start. -/
def IsSolid (c : Char) : Prop := isBlank c = false ∧ c ≠ '#' ∧ c ≠ '\n' ∧ c ≠ '\r'

instance : DecidablePred IsSolid := fun c =>
  inferInstanceAs (Decidable (isBlank c = false ∧ c ≠ '#' ∧ c ≠ '\n' ∧ c ≠ '\r'))

section Blanks

variable {c : Char} {blanks : List Char}

theorem skipBlanks_append (hc : isBlank c = false) (hblanks : ∀ b ∈ blanks, isBlank b = true)
    (t : List Char) : skipBlanks (blanks ++ c :: t) = c :: t := by
  rw [skipBlanks, List.dropWhile_append_of_pos hblanks,
    List.dropWhile_cons_of_neg (Bool.eq_false_iff.mp hc)]

theorem skipLines_append (hc : IsSolid c) (hblanks : ∀ b ∈ blanks, isBlank b = true) (fuel : Nat)
    (t : List Char) : skipLines (fuel + 1) (blanks ++ c :: t) = .ok (c :: t) := by
  obtain ⟨hblank, hcomment, hbreak, hreturn⟩ := hc
  rw [skipLines, skipBlanks_append hblank hblanks]
  simp [hbreak, hreturn]

theorem skipAll_of_solid (hc : IsSolid c) (t : List Char) : skipAll (c :: t) = .ok (c :: t) :=
  skipLines_append hc (List.forall_mem_nil _) _ t

theorem skipAll_newline (hc : IsSolid c) (hblanks : ∀ b ∈ blanks, isBlank b = true)
    (t : List Char) : skipAll ('\n' :: (blanks ++ c :: t)) = .ok (c :: t) :=
  skipLines_append hc hblanks _ t

end Blanks

/-! ## Values -/

/-- A content in front of anything but a quote is read back. -/
def IsReadAt (depth : Nat) (content : Content) : Prop :=
  ∀ t, NoQuote t → ∃ item, readValue depth (content.write ++ t) = .ok (item, t) ∧
    content.IsReadAs item

/-- A string starts with a quote. -/
theorem exists_write_eq_cons (s : List Char) :
    ∃ quote rest, write s = quote :: rest ∧ (quote = '"' ∨ quote = '\'') := by
  rw [write]
  cases Form.choose s with
  | basic => exact ⟨_, _, rfl, .inl rfl⟩
  | literal => exact ⟨_, _, rfl, .inr rfl⟩
  | multilineBasic => exact ⟨_, _, rfl, .inl rfl⟩
  | multilineLiteral => exact ⟨_, _, rfl, .inr rfl⟩

theorem isSolid_of_isQuote {c : Char} (h : c = '"' ∨ c = '\'') : IsSolid c := by
  rcases h with rfl | rfl <;> decide

theorem readScalar_write (s : List Char) {t : List Char} (ht : NoQuote t) :
    readScalar (write s ++ t) = .ok (.string (String.ofList s), t) := by
  have hread := readString_write s ht
  obtain ⟨quote, rest, hwrite, hquote⟩ := exists_write_eq_cons s
  rw [hwrite, List.cons_append] at hread ⊢
  simp [readScalar, hquote, hread, Except.map]

theorem isReadAt_text (depth : Nat) (s : List Char) : IsReadAt depth (.text s) := by
  intro t ht
  have hread := readScalar_write s ht
  obtain ⟨quote, rest, hwrite, hquote⟩ := exists_write_eq_cons s
  refine ⟨_, ?_, .text s (.between (write s ++ t) t)⟩
  rw [Content.write]
  cases depth with
  | zero =>
    rw [readValue, if_neg (by rcases hquote with rfl | rfl <;> simp [hwrite]), hread]
    rfl
  | succ depth =>
    rw [readValue, hread]
    · rfl
    · rcases hquote with rfl | rfl <;> simp [hwrite]
    · rcases hquote with rfl | rfl <;> simp [hwrite]

/-! ## Lists of texts -/

/-- Pieces that are not empty are at most as many as their characters. -/
theorem length_le_flatMap {α β : Type} {f : α → List β} (hf : ∀ x, f x ≠ []) (xs : List α) :
    xs.length ≤ (xs.flatMap f).length := by
  induction xs with
  | nil => exact Nat.le_refl 0
  | cons x xs ih =>
    have hpos := List.length_pos_of_ne_nil (hf x)
    rw [List.flatMap_cons, List.length_append, List.length_cons]
    omega

section Items

variable {s start ahead : List Char} {item : Item}

/-- An item in front of a bracket is the last one. -/
theorem readItems_bracket {read : List Char → Result Item} (hstart : skipAll s = .ok start)
    (hread : read start = .ok (item, ']' :: ahead)) (fuel : Nat) :
    readItems read (fuel + 1) s = .ok ([item], ']' :: ahead) := by
  have hbracket : skipAll (']' :: ahead) = .ok (']' :: ahead) :=
    skipAll_of_solid (by decide) ahead
  simp [readItems, hstart, hread, hbracket, bind, Except.bind, pure, Except.pure]

/-- An item in front of a comma is followed by the items behind it, and the comma is left if
there are none. -/
theorem readItems_comma {read : List Char → Result Item} (hstart : skipAll s = .ok start)
    (hread : read start = .ok (item, ',' :: ahead)) {fuel : Nat} {items : List Item}
    {rest : List Char} (hmore : readItems read fuel ahead = .ok (items, rest)) :
    readItems read (fuel + 1) s =
      .ok (item :: items, if items = [] then ',' :: ahead else rest) := by
  have hcomma : skipAll (',' :: ahead) = .ok (',' :: ahead) :=
    skipAll_of_solid (by decide) ahead
  cases items with
  | nil => simp [readItems, hstart, hread, hcomma, hmore, bind, Except.bind, pure, Except.pure]
  | cons other items =>
    simp [readItems, hstart, hread, hcomma, hmore, bind, Except.bind, pure, Except.pure]

theorem skipAll_write (s t : List Char) : skipAll (write s ++ t) = .ok (write s ++ t) := by
  obtain ⟨quote, rest, hwrite, hquote⟩ := exists_write_eq_cons s
  rw [hwrite]
  exact skipAll_of_solid (isSolid_of_isQuote hquote) _

theorem skipAll_newline_write (s t : List Char) :
    skipAll ('\n' :: (indent ++ (write s ++ t))) = .ok (write s ++ t) := by
  obtain ⟨quote, rest, hwrite, hquote⟩ := exists_write_eq_cons s
  rw [hwrite]
  exact skipAll_newline (isSolid_of_isQuote hquote) (List.all_eq_true.mp (by decide)) _

/-- The line of an item. -/
def itemLine (s : List Char) : List Char := indent ++ write s ++ [',', '\n']

theorem itemLine_ne_nil (s : List Char) : itemLine s ≠ [] := by simp [itemLine]

/-- Items on lines of their own are read up to the last comma. -/
theorem readItems_lines (depth : Nat) (texts : List (List Char)) (t : List Char) {fuel : Nat}
    (hfuel : texts.length < fuel) :
    ∃ items, List.Forall₂ (fun s => Content.IsReadAs (.text s)) texts items ∧
      readItems (readValue depth) fuel ('\n' :: (texts.flatMap itemLine ++ ']' :: t)) =
        .ok (items, if items = [] then '\n' :: ']' :: t else ',' :: '\n' :: ']' :: t) := by
  induction texts generalizing fuel with
  | nil =>
    obtain ⟨fuel, rfl⟩ := Nat.exists_eq_succ_of_ne_zero (Nat.ne_of_gt hfuel)
    refine ⟨[], .nil, ?_⟩
    cases depth <;> rfl
  | cons s texts ih =>
    obtain ⟨fuel, rfl⟩ := Nat.exists_eq_succ_of_ne_zero (Nat.ne_of_gt (Nat.zero_lt_of_lt hfuel))
    obtain ⟨items, hitems, hmore⟩ := ih (Nat.lt_of_succ_lt_succ hfuel)
    obtain ⟨item, hread, hitem⟩ := isReadAt_text depth s
      (',' :: '\n' :: (texts.flatMap itemLine ++ ']' :: t)) ⟨by simp, by simp⟩
    refine ⟨item :: items, .cons hitem hitems, ?_⟩
    have hline : '\n' :: ((s :: texts).flatMap itemLine ++ ']' :: t) = '\n' :: (indent ++
        (write s ++ ',' :: '\n' :: (texts.flatMap itemLine ++ ']' :: t))) := by
      simp [itemLine]
    rw [hline, readItems_comma (skipAll_newline_write s _) hread hmore,
      if_neg (List.cons_ne_nil _ _)]
    -- Either way the comma behind the last item is left.
    cases hitems with
    | nil => rfl
    | cons => simp

/-- What stands behind the last comma is no item. -/
theorem readArray_lines (depth : Nat) {texts : List (List Char)} (hne : texts ≠ [])
    (t : List Char) : ∃ items, List.Forall₂ (fun s => Content.IsReadAs (.text s)) texts items ∧
      readArray (readValue depth) ('\n' :: (texts.flatMap itemLine ++ ']' :: t)) =
        .ok (items, t) := by
  generalize hsource : '\n' :: (texts.flatMap itemLine ++ ']' :: t) = source
  have hfuel : texts.length < source.length + 1 := by
    have hlength := length_le_flatMap itemLine_ne_nil texts
    rw [← hsource]
    simp only [List.length_cons, List.length_append]
    omega
  obtain ⟨items, hitems, hread⟩ := readItems_lines depth texts t hfuel
  refine ⟨items, hitems, ?_⟩
  have hbracket : skipAll ('\n' :: ']' :: t) = .ok (']' :: t) :=
    skipAll_newline (by decide) (List.forall_mem_nil _) t
  rw [hsource] at hread
  rw [readArray, hread]
  cases hitems with
  | nil => exact absurd rfl hne
  | cons => simp [hbracket, bind, Except.bind, Except.mapError, pure, Except.pure]

theorem readArray_writeTexts (depth : Nat) (texts : List (List Char)) (t : List Char) :
    ∃ items, List.Forall₂ (fun s => Content.IsReadAs (.text s)) texts items ∧
      readArray (readValue depth) ((writeTexts texts).tail ++ t) = .ok (items, t) := by
  match texts with
  | [] =>
    refine ⟨[], .nil, ?_⟩
    cases depth <;> rfl
  | [s] =>
    obtain ⟨item, hread, hitem⟩ := isReadAt_text depth s (']' :: t) ⟨by simp, by simp⟩
    refine ⟨[item], .cons hitem .nil, ?_⟩
    have hbracket : skipAll (']' :: t) = .ok (']' :: t) := skipAll_of_solid (by decide) t
    have hone : (writeTexts [s]).tail ++ t = write s ++ ']' :: t := by simp [writeTexts]
    rw [hone, readArray, readItems_bracket (skipAll_write s _) hread]
    simp [hbracket, bind, Except.bind, Except.mapError, pure, Except.pure]
  | s :: other :: texts =>
    have hmany : (writeTexts (s :: other :: texts)).tail ++ t =
        '\n' :: ((s :: other :: texts).flatMap itemLine ++ ']' :: t) :=
      congrArg ('\n' :: ·) (List.append_assoc _ [']'] t)
    rw [hmany]
    exact readArray_lines depth (List.cons_ne_nil _ _) t

end Items

theorem writeTexts_eq_cons (texts : List (List Char)) :
    writeTexts texts = '[' :: (writeTexts texts).tail := by
  match texts with
  | [] => rfl
  | [s] => rfl
  | s :: other :: texts => rfl

/-- A list of texts is read back from each of its layouts. -/
theorem isReadAt_texts (depth : Nat) (texts : List (List Char)) :
    IsReadAt (depth + 1) (.texts texts) := by
  intro t _
  obtain ⟨items, hitems, hread⟩ := readArray_writeTexts depth texts t
  refine ⟨_, ?_, .texts (.between (writeTexts texts ++ t) t) hitems⟩
  rw [Content.write, writeTexts_eq_cons, List.cons_append, readValue, hread]
  rfl

theorem isReadAt (depth : Nat) (content : Content) : IsReadAt (depth + 1) content := by
  cases content with
  | text s => exact isReadAt_text _ s
  | texts texts => exact isReadAt_texts depth texts

/-- A value starts with something that is no blank. -/
theorem skipBlanks_write (content : Content) (t : List Char) :
    skipBlanks (content.write ++ t) = content.write ++ t := by
  cases content with
  | text s =>
    obtain ⟨quote, rest, hwrite, hquote⟩ := exists_write_eq_cons s
    rw [Content.write, hwrite]
    exact skipBlanks_append (isSolid_of_isQuote hquote).1 (List.forall_mem_nil _) _
  | texts texts =>
    rw [Content.write, writeTexts_eq_cons]
    rfl

/-! ## Keys -/

/-- A key that needs no quotes. -/
def IsPlainKey (key : String) : Prop := key.toList ≠ [] ∧ ∀ c ∈ key.toList, isKeyChar c = true

instance : DecidablePred IsPlainKey := fun key =>
  decidable_of_iff (key.toList ≠ [] ∧ key.toList.all isKeyChar = true) <| by
    rw [IsPlainKey, List.all_eq_true]

theorem isBlank_of_isKeyChar {c : Char} (h : isKeyChar c = true) : isBlank c = false := by
  rw [Bool.eq_false_iff, isBlank]
  intro hblank
  rcases Bool.or_eq_true_iff.mp hblank with hc | hc
  all_goals exact absurd (eq_of_beq hc ▸ h) (by decide)

theorem ne_of_isKeyChar {c : Char} (h : isKeyChar c = true) :
    c ≠ '"' ∧ c ≠ '\'' ∧ c ≠ '#' ∧ c ≠ '\n' ∧ c ≠ '\r' ∧ c ≠ '[' := by
  refine ⟨?_, ?_, ?_, ?_, ?_, ?_⟩ <;> rintro rfl <;> exact absurd h (by decide)

section Keys

variable {key : String}

theorem IsPlainKey.skipBlanks (hkey : IsPlainKey key) (t : List Char) :
    skipBlanks (key.toList ++ t) = key.toList ++ t := by
  obtain ⟨c, name, hname⟩ := List.exists_cons_of_ne_nil hkey.1
  rw [hname]
  exact skipBlanks_append (isBlank_of_isKeyChar (hkey.2 c (by simp [hname])))
    (List.forall_mem_nil _) _

theorem readSimpleKey_plain (hkey : IsPlainKey key) {t : List Char}
    (ht : ∀ c ∈ t.head?, isKeyChar c = false) :
    ∃ span, readSimpleKey (key.toList ++ t) = .ok (⟨key, span⟩, t) := by
  refine ⟨.between (key.toList ++ t) t, ?_⟩
  have htail : t.takeWhile isKeyChar = [] ∧ t.dropWhile isKeyChar = t := by
    cases t with
    | nil => exact ⟨rfl, rfl⟩
    | cons c t =>
      have hc : ¬isKeyChar c = true := by simp [ht c rfl]
      exact ⟨List.takeWhile_cons_of_neg hc, List.dropWhile_cons_of_neg hc⟩
  have hname : (key.toList ++ t).takeWhile isKeyChar = key.toList := by
    rw [List.takeWhile_append_of_pos hkey.2, htail.1, List.append_nil]
  have hrest : (key.toList ++ t).dropWhile isKeyChar = t := by
    rw [List.dropWhile_append_of_pos hkey.2, htail.2]
  have hquote : ((key.toList ++ t).head?.any fun c => c == '"' || c == '\'') = false := by
    obtain ⟨c, name, hchars⟩ := List.exists_cons_of_ne_nil hkey.1
    obtain ⟨hdouble, hsingle, -⟩ := ne_of_isKeyChar (hkey.2 c (by simp [hchars]))
    simp [hchars, hdouble, hsingle]
  rw [readSimpleKey, hquote, hname, hrest]
  simp [hkey.1, bind, Except.bind, pure, Except.pure]

theorem readKey_plain (hkey : IsPlainKey key) (t : List Char) :
    ∃ span, readKey (key.toList ++ ' ' :: '=' :: t) = .ok ([⟨key, span⟩], '=' :: t) := by
  have hend : ∀ c ∈ (' ' :: '=' :: t).head?, isKeyChar c = false := by
    rintro c ⟨⟩
    decide
  obtain ⟨span, hread⟩ := readSimpleKey_plain hkey hend
  refine ⟨span, ?_⟩
  have hblanks : skipBlanks (' ' :: '=' :: t) = '=' :: t := rfl
  simp [readKey, readKeys, hkey.skipBlanks, hread, hblanks, explain, Except.mapError, bind,
    Except.bind, pure, Except.pure, maxDepth]

end Keys

/-! ## Lines -/

/-- The line of a content under a key. -/
def entryLine (entry : String × Content) : List Char := writeEntry entry.1 entry.2.write

theorem entryLine_ne_nil (entry : String × Content) : entryLine entry ≠ [] := by
  simp [entryLine, writeEntry]

theorem exists_entryLine_eq_cons {entry : String × Content} (hkey : IsPlainKey entry.1) :
    ∃ c rest, entryLine entry = c :: rest ∧ isKeyChar c = true := by
  obtain ⟨c, name, hname⟩ := List.exists_cons_of_ne_nil hkey.1
  have hstart : entryLine entry =
      c :: (name ++ " = ".toList ++ entry.2.write ++ ['\n']) := by
    rw [entryLine, writeEntry, hname]
    rfl
  exact ⟨c, _, hstart, hkey.2 c (by simp [hname])⟩

/-- The entry is what a content under a key is read as. -/
def IsEntryOf (entry : String × Content) (read : Key × Item) : Prop :=
  read.1.name = entry.1 ∧ entry.2.IsReadAs read.2

namespace Entries

variable {entries : Entries} {key : Key}

theorem find?_eq_none (hnew : key.name ∉ entries.map (·.1.name)) :
    entries.find? key.name = none := by
  have hnone : List.find? (fun entry => entry.1.name == key.name) entries = none := by
    rw [List.find?_eq_none]
    exact fun entry hentry hname => hnew (List.mem_map.mpr ⟨entry, hentry, eq_of_beq hname⟩)
  rw [Entries.find?, hnone, Option.map_none]

/-- A new key is put behind the others. -/
theorem put_eq_append (item : Item) (hnew : key.name ∉ entries.map (·.1.name)) :
    entries.put key item = entries ++ [(key, item)] := by
  induction entries with
  | nil => rfl
  | cons entry entries ih =>
    rw [List.map_cons, List.mem_cons, not_or] at hnew
    rw [put, if_neg (Ne.symm hnew.1), ih hnew.2, List.cons_append]

end Entries

/-- A table that a header opened takes a new key. -/
theorem Table.add_eq_append {entries : Entries} {key : Key} (place : List String)
    (span : Option Span) (item : Item) (hnew : key.name ∉ entries.map (·.1.name)) :
    Table.add place [] key item ⟨span, .header, entries⟩ =
      .ok ⟨span, .header, entries ++ [(key, item)]⟩ := by
  rw [← Entries.put_eq_append item hnew]
  simp [Table.add, Table.editAt, Table.find?, Entries.find?_eq_none hnew, Except.map, Table.put]

namespace Document

/-- The document whose entries are all in its root. -/
def top (entries : Entries) : Document :=
  { Document.empty with current := ⟨none, .header, entries⟩ }

theorem addEntry_top {entries : Entries} {key : Key} (item : Item)
    (hnew : key.name ∉ entries.map (·.1.name)) :
    (top entries).addEntry [key] item = .ok (top (entries ++ [(key, item)])) := by
  have hadd := Table.add_eq_append (names []) none item hnew
  simp [addEntry, top, empty, hadd, bind, Except.bind, pure, Except.pure]

theorem readEntry_line {entry : String × Content} (hkey : IsPlainKey entry.1)
    {entries : Entries} (hnew : entry.1 ∉ entries.map (·.1.name)) (t : List Char) :
    ∃ read, IsEntryOf entry read ∧
      readEntry (.top entries) (entryLine entry ++ t) = .ok (.top (entries ++ [read]), t) := by
  obtain ⟨span, hreadKey⟩ := readKey_plain hkey (' ' :: (entry.2.write ++ '\n' :: t))
  obtain ⟨item, hreadValue, hitem⟩ :=
    isReadAt (maxDepth - 2) entry.2 ('\n' :: t) ⟨by simp, by simp⟩
  refine ⟨(⟨entry.1, span⟩, item), ⟨rfl, hitem⟩, ?_⟩
  have hline : entryLine entry ++ t = entry.1.toList ++ ' ' :: '=' :: ' ' ::
      (entry.2.write ++ '\n' :: t) := by
    simp [entryLine, writeEntry]
  have hblanks : skipBlanks (' ' :: (entry.2.write ++ '\n' :: t)) =
      entry.2.write ++ '\n' :: t := skipBlanks_write entry.2 _
  have hvalue : readValue (maxDepth - 1) (skipBlanks (' ' :: (entry.2.write ++ '\n' :: t))) =
      .ok (item, '\n' :: t) := by
    rw [hblanks]
    exact hreadValue
  rw [readEntry, hline]
  refine bind_eq_ok_iff.mpr ⟨_, congrArg (explain Fault.final) hreadKey, ?_⟩
  refine bind_eq_ok_iff.mpr ⟨_, rfl, ?_⟩
  refine bind_eq_ok_iff.mpr ⟨_, congrArg (explain Fault.final) hvalue, ?_⟩
  refine bind_eq_ok_iff.mpr ⟨t, rfl, ?_⟩
  exact bind_eq_ok_iff.mpr ⟨_, congrArg (clashAt _) (addEntry_top item hnew), rfl⟩

theorem readLines_entry {entry : String × Content} (hkey : IsPlainKey entry.1)
    {entries : Entries} (hnew : entry.1 ∉ entries.map (·.1.name)) (fuel : Nat) (t : List Char) :
    ∃ read, IsEntryOf entry read ∧
      readLines (fuel + 1) (.top entries) (entryLine entry ++ t) =
        readLines fuel (.top (entries ++ [read])) t := by
  obtain ⟨read, hread, hline⟩ := readEntry_line hkey hnew t
  refine ⟨read, hread, ?_⟩
  obtain ⟨c, rest, hstart, hc⟩ := exists_entryLine_eq_cons hkey
  obtain ⟨-, -, hcomment, hbreak, hreturn, hbracket⟩ := ne_of_isKeyChar hc
  have hblanks : skipBlanks (c :: (rest ++ t)) = c :: (rest ++ t) :=
    skipBlanks_append (isBlank_of_isKeyChar hc) (List.forall_mem_nil _) _
  rw [hstart, List.cons_append] at hline ⊢
  rw [readLines, hblanks]
  simp [hcomment, hbreak, hreturn, hbracket, hline, bind, Except.bind]

/-- The lines of entries with new keys are read, and the entries are put behind the others. -/
theorem readLines_entries {written : List (String × Content)}
    (hkeys : ∀ entry ∈ written, IsPlainKey entry.1) (hdistinct : (written.map (·.1)).Nodup)
    {entries : Entries} (hnew : ∀ entry ∈ written, entry.1 ∉ entries.map (·.1.name)) {fuel : Nat}
    (hfuel : written.length < fuel) :
    ∃ read, List.Forall₂ IsEntryOf written read ∧
      readLines fuel (.top entries) (written.flatMap entryLine) = .ok (.top (entries ++ read)) := by
  induction written generalizing entries fuel with
  | nil =>
    obtain ⟨fuel, rfl⟩ := Nat.exists_eq_succ_of_ne_zero (Nat.ne_of_gt hfuel)
    exact ⟨[], .nil, by rw [List.append_nil]; rfl⟩
  | cons entry written ih =>
    obtain ⟨fuel, rfl⟩ := Nat.exists_eq_succ_of_ne_zero (Nat.ne_of_gt (Nat.zero_lt_of_lt hfuel))
    rw [List.forall_mem_cons] at hkeys hnew
    rw [List.map_cons, List.nodup_cons] at hdistinct
    obtain ⟨read, hread, hline⟩ :=
      readLines_entry hkeys.1 hnew.1 fuel (written.flatMap entryLine)
    have hnewer : ∀ other ∈ written, other.1 ∉ (entries ++ [read]).map (·.1.name) := by
      intro other hother
      rw [List.map_append, List.mem_append, not_or, List.map_singleton, List.mem_singleton, hread.1]
      exact ⟨hnew.2 other hother, fun h => hdistinct.1 (List.mem_map.mpr ⟨other, hother, h⟩)⟩
    obtain ⟨reads, hreads, hlines⟩ :=
      ih hkeys.2 hdistinct.2 hnewer (Nat.lt_of_succ_lt_succ hfuel)
    refine ⟨read :: reads, .cons hread hreads, ?_⟩
    rw [List.flatMap_cons, hline, hlines, List.append_assoc, List.singleton_append]

theorem withoutMark_entries {written : List (String × Content)}
    (hkeys : ∀ entry ∈ written, IsPlainKey entry.1) :
    withoutMark (written.flatMap entryLine) = written.flatMap entryLine := by
  cases written with
  | nil => rfl
  | cons entry written =>
    obtain ⟨c, rest, hstart, hc⟩ := exists_entryLine_eq_cons (hkeys entry List.mem_cons_self)
    have hmark : c ≠ '\uFEFF' := by
      rintro rfl
      exact absurd hc (by decide)
    rw [List.flatMap_cons, hstart, List.cons_append, withoutMark]
    exact fun _ h => hmark (List.cons.inj h).1

/-- Entries under distinct keys are read back as they were written. -/
theorem read_entries {written : List (String × Content)}
    (hkeys : ∀ entry ∈ written, IsPlainKey entry.1) (hdistinct : (written.map (·.1)).Nodup) :
    ∃ read, List.Forall₂ IsEntryOf written read ∧
      Document.read (written.flatMap entryLine) = .ok read := by
  have hnew : ∀ entry ∈ written, entry.1 ∉ List.map (·.1.name) ([] : Entries) :=
    fun _ _ => List.not_mem_nil
  have hlength := length_le_flatMap entryLine_ne_nil written
  obtain ⟨read, hread, hlines⟩ :=
    readLines_entries hkeys hdistinct hnew (Nat.lt_succ_of_le hlength)
  refine ⟨read, hread, ?_⟩
  rw [Document.read, withoutMark_entries hkeys]
  exact bind_eq_ok_iff.mpr ⟨_, hlines, rfl⟩

end Document

end PageRecipe.Toml
