import PageRecipe.Proofs.Prose.HeadingIds
import PageRecipe.Proofs.Text.Blanks

/-!
# HTML blocks that spell an element

A `WrittenElement` is an HTML block that is one element, as it is written : a tag, an id and
classes in any order and each of them perhaps absent, a text and the closing tag, with blanks
wherever they may stand. Nothing in the values or in the text is mistaken for markup, so the
block is cut into these parts (`parts?_core`), its attributes are read one behind the other
(`attributes_chars`), and it becomes the element that it spells. A block that becomes no element
stays as it is (`nodeOf_written`).
-/

namespace PageRecipe.HtmlElement

open Text (trimStart_append_of_blank trimStart_cons_of_not_blank trim_surrounded)

/-! ## Characters -/

theorem isAlpha_iff {c : Char} : c.isAlpha = true ↔
    65 ≤ c.toNat ∧ c.toNat ≤ 90 ∨ 97 ≤ c.toNat ∧ c.toNat ≤ 122 := by
  change (decide (65 ≤ c.val ∧ c.val ≤ 90) || (decide (97 ≤ c.val) && decide (c.val ≤ 122))) =
    true ↔ _
  simp only [Bool.or_eq_true, Bool.and_eq_true, decide_eq_true_eq]
  rfl

theorem isAlphanum_iff {c : Char} : c.isAlphanum = true ↔
    (65 ≤ c.toNat ∧ c.toNat ≤ 90 ∨ 97 ≤ c.toNat ∧ c.toNat ≤ 122) ∨
      48 ≤ c.toNat ∧ c.toNat ≤ 57 := by
  rw [Char.isAlphanum, Bool.or_eq_true, isAlpha_iff, Char.isDigit_iff_toNat]
  rfl

theorem isAlphanum_of_isBlank {c : Char} (h : Text.isBlank c = true) : c.isAlphanum = false := by
  simp only [Text.isBlank, Bool.or_eq_true, Bool.and_eq_true, decide_eq_true_eq, beq_iff_eq] at h
  rw [Bool.eq_false_iff, Ne, isAlphanum_iff]
  omega

theorem isBlank_of_isAlphanum {c : Char} (h : c.isAlphanum = true) : Text.isBlank c = false := by
  rw [Bool.eq_false_iff]
  intro hblank
  rw [isAlphanum_of_isBlank hblank] at h
  cases h

/-- The small letters stand 32 places behind the capital ones. -/
theorem toNat_toLower (c : Char) :
    c.toLower.toNat = if 65 ≤ c.toNat ∧ c.toNat ≤ 90 then c.toNat + 32 else c.toNat := by
  by_cases hupper : c.val ≥ 'A'.val ∧ c.val ≤ 'Z'.val
  · have hcode : 65 ≤ c.toNat ∧ c.toNat ≤ 90 := hupper
    have hsum : (c.val + 32).toNat = (c.toNat + 32) % 2 ^ 32 := UInt32.toNat_add _ _
    rw [Nat.mod_eq_of_lt (by omega)] at hsum
    rw [if_pos hcode]
    exact (congrArg Char.toNat (dif_pos hupper)).trans hsum
  · have hcode : ¬(65 ≤ c.toNat ∧ c.toNat ≤ 90) := hupper
    rw [if_neg hcode]
    exact congrArg Char.toNat (dif_neg hupper)

theorem isAlpha_toLower (c : Char) : c.toLower.isAlpha = c.isAlpha := by
  rw [Bool.eq_iff_iff, isAlpha_iff, isAlpha_iff, toNat_toLower]
  split <;> omega

theorem isAlphanum_toLower (c : Char) : c.toLower.isAlphanum = c.isAlphanum := by
  rw [Bool.eq_iff_iff, isAlphanum_iff, isAlphanum_iff, toNat_toLower]
  split <;> omega

/-- The case of its letters has no part in whether a text is the name of a tag. -/
theorem isTagName_map_toLower (name : List Char) :
    isTagName (name.map Char.toLower) = isTagName name := by
  have halphanum : Char.isAlphanum ∘ Char.toLower = Char.isAlphanum :=
    funext isAlphanum_toLower
  cases name with
  | nil => rfl
  | cons c rest =>
    rw [List.map_cons, isTagName, isTagName, isAlpha_toLower, List.all_map,
      halphanum]

theorem isAlphanum_of_isTagName {name : List Char} (h : isTagName name = true) :
    ∀ c ∈ name, c.isAlphanum = true := by
  cases name with
  | nil => simp
  | cons first rest =>
    obtain ⟨hfirst, hrest⟩ := Bool.and_eq_true_iff.mp h
    exact List.forall_mem_cons.mpr ⟨by simp [Char.isAlphanum, hfirst], List.all_eq_true.mp hrest⟩

/-! ## Attributes as they are written -/

/-- What stands around the name of an attribute : blanks in front of the name, and behind it an
equals sign with blanks around it and a value in double quotes. -/
structure Assignment where
  gap : List Char
  before : List Char
  after : List Char
  value : List Char
  gap_ne_nil : gap ≠ []
  gap_blank : ∀ c ∈ gap, Text.isBlank c = true
  before_blank : ∀ c ∈ before, Text.isBlank c = true
  after_blank : ∀ c ∈ after, Text.isBlank c = true
  value_plain : ∀ c ∈ value, c ≠ '"' ∧ c ≠ '>'

/-- What stands behind the name. -/
def Assignment.behind (given : Assignment) : List Char :=
  given.before ++ '=' :: (given.after ++ '"' :: (given.value ++ ['"']))

/-- An assignment whose value is made of the names of some classes. -/
structure ClassAssignment extends Assignment where
  names : List (List Char)
  hasNames : Text.HasWords value names

/-- An attribute that matters, as it is written. -/
inductive WrittenAttribute where
  | id (given : Assignment)
  | classes (given : ClassAssignment)

namespace WrittenAttribute

/-- What stands around the name. -/
def assignment : WrittenAttribute → Assignment
  | id given => given
  | classes given => given.toAssignment

/-- The name. -/
def name : WrittenAttribute → List Char
  | id _ => ['i', 'd']
  | classes _ => ['c', 'l', 'a', 's', 's']

/-- The attribute that is meant. -/
def toAttribute : WrittenAttribute → Attribute
  | id given => .id given.value
  | classes given => .class given.value

/-- The characters of the attribute. -/
def chars (written : WrittenAttribute) : List Char :=
  written.assignment.gap ++ (written.name ++ written.assignment.behind)

/-- Blanks do not end a tag, and nothing else in an attribute does. -/
theorem chars_plain (written : WrittenAttribute)
    (hblank : ∀ c, Text.isBlank c = true → (c != '>') = true) :
    ∀ c ∈ written.chars, (c != '>') = true := by
  have hname : ∀ c ∈ written.name, (c != '>') = true := by
    cases written <;> exact List.all_eq_true.mp rfl
  have hvalue : ∀ c ∈ written.assignment.value, (c != '>') = true := fun c hc =>
    bne_iff_ne.mpr (written.assignment.value_plain c hc).2
  simp only [chars, Assignment.behind, List.forall_mem_append, List.forall_mem_cons]
  exact ⟨fun c hc => hblank c (written.assignment.gap_blank c hc), hname,
    fun c hc => hblank c (written.assignment.before_blank c hc), by decide,
    fun c hc => hblank c (written.assignment.after_blank c hc), by decide, hvalue, by decide,
    by simp⟩

end WrittenAttribute

/-! ## Reading attributes -/

theorem attributeValue?_behind (given : Assignment) (more : List Char) :
    attributeValue? (given.behind ++ more) = some (given.value, more) := by
  have hvalue : ∀ c ∈ given.value, (c != '"') = true := fun c hc =>
    bne_iff_ne.mpr (given.value_plain c hc).1
  have hsign : Text.trimStart (given.behind ++ more) =
      '=' :: (given.after ++ '"' :: (given.value ++ '"' :: more)) := by
    rw [Assignment.behind, List.append_assoc, trimStart_append_of_blank given.before_blank]
    have hsign : Text.isBlank '=' = false := rfl
    simp [trimStart_cons_of_not_blank hsign]
  have hquote : Text.trimStart (given.after ++ '"' :: (given.value ++ '"' :: more)) =
      '"' :: (given.value ++ '"' :: more) := by
    rw [trimStart_append_of_blank given.after_blank, trimStart_cons_of_not_blank rfl]
  have hread : (given.value ++ '"' :: more).takeWhile (· != '"') = given.value := by
    simp [List.takeWhile_append_of_pos hvalue]
  rw [attributeValue?, hsign]
  simp only [hquote, hread, List.drop_left]

theorem attribute?_written (written : WrittenAttribute) (more : List Char) :
    attribute? (written.name ++ (written.assignment.behind ++ more)) =
      some (written.toAttribute, more) := by
  have hvalue := attributeValue?_behind written.assignment more
  cases written with
  | id given => exact congrArg (Option.map _) hvalue
  | classes given => exact congrArg (Option.map _) hvalue

theorem attribute?_of_blank {c : Char} (h : Text.isBlank c = true) (rest : List Char) :
    attribute? (c :: rest) = none := by
  rw [attribute?.eq_def]
  split
  · next heq =>
    rw [(List.cons.inj heq).1] at h
    cases h
  · next heq =>
    rw [(List.cons.inj heq).1] at h
    cases h
  · rfl

/-- In front of an attribute, blanks are passed over. -/
theorem attributesFrom_gap {gap s rest : List Char} {found : Attribute} (hne : gap ≠ [])
    (hgap : ∀ c ∈ gap, Text.isBlank c = true) (hread : attribute? s = some (found, rest))
    (isStart : Bool) {fuel : Nat} (hfuel : gap.length ≤ fuel) :
    attributesFrom isStart fuel (gap ++ s) =
      found :: attributesFrom false (fuel - gap.length) rest := by
  induction gap generalizing isStart fuel with
  | nil => exact absurd rfl hne
  | cons c gap ih =>
    obtain ⟨hc, hrest⟩ := List.forall_mem_cons.mp hgap
    obtain ⟨fuel, rfl⟩ : ∃ less, fuel = less + 1 := ⟨fuel - 1, by simp at hfuel; omega⟩
    -- only behind the last blank does an attribute start
    cases gap with
    | nil => simp [attributesFrom, attribute?_of_blank hc, hc, hread]
    | cons next gap =>
      have hnext : attribute? (next :: (gap ++ s)) = none :=
        attribute?_of_blank (hrest next (by simp)) _
      have hfuel' : (next :: gap).length ≤ fuel := by simpa using hfuel
      rw [List.length_cons, Nat.add_sub_add_right, ← ih (by simp) hrest false hfuel']
      simp [attributesFrom, attribute?_of_blank hc, hc, hnext]

theorem attributesFrom_blanks {blanks : List Char} (h : ∀ c ∈ blanks, Text.isBlank c = true)
    (isStart : Bool) (fuel : Nat) : attributesFrom isStart fuel blanks = [] := by
  induction blanks generalizing isStart fuel with
  | nil =>
    cases fuel with
    | zero => rfl
    | succ fuel => cases isStart <;> rfl
  | cons c rest ih =>
    cases fuel with
    | zero => rfl
    | succ fuel =>
    obtain ⟨hc, hrest⟩ := List.forall_mem_cons.mp h
    have hbehind : attribute? rest = none := by
      cases rest with
      | nil => rfl
      | cons next rest => exact attribute?_of_blank (hrest next (by simp)) rest
    simp [attributesFrom, attribute?_of_blank hc, hc, hbehind, ih hrest]

/-- Written attributes are read one behind the other. -/
theorem attributesFrom_chars (written : List WrittenAttribute) {space : List Char}
    (hspace : ∀ c ∈ space, Text.isBlank c = true) (isStart : Bool) {fuel : Nat}
    (hfuel : (written.flatMap (·.chars)).length ≤ fuel) :
    attributesFrom isStart fuel (written.flatMap (·.chars) ++ space) =
      written.map (·.toAttribute) := by
  induction written generalizing isStart fuel with
  | nil => exact attributesFrom_blanks hspace isStart fuel
  | cons first rest ih =>
    rw [List.flatMap_cons, List.length_append, WrittenAttribute.chars, List.length_append] at hfuel
    have hread := attribute?_written first (rest.flatMap (·.chars) ++ space)
    have hfuel' : first.assignment.gap.length ≤ fuel := by omega
    have hgap := attributesFrom_gap first.assignment.gap_ne_nil first.assignment.gap_blank hread
      isStart hfuel'
    rw [ih false (by omega)] at hgap
    rw [List.map_cons, ← hgap, List.flatMap_cons, WrittenAttribute.chars]
    simp

theorem attributes_chars (written : List WrittenAttribute) {space : List Char}
    (hspace : ∀ c ∈ space, Text.isBlank c = true) :
    attributes (written.flatMap (·.chars) ++ space) = written.map (·.toAttribute) := by
  rw [attributes]
  exact attributesFrom_chars written hspace true (by simp; omega)

/-! ## Elements as they are written -/

/-- An HTML block that is one element, as it is written. -/
structure WrittenElement where
  lead : List Char
  tag : List Char
  id : Option Assignment
  classes : Option ClassAssignment
  /-- The id stands in front of the classes. -/
  idFirst : Bool
  /-- Blanks at the end of the opening tag. -/
  space : List Char
  inner : List Char
  closing : List Char
  /-- Blanks at the end of the closing tag. -/
  closingSpace : List Char
  trail : List Char
  lead_blank : ∀ c ∈ lead, Text.isBlank c = true
  tag_isTagName : isTagName tag = true
  space_blank : ∀ c ∈ space, Text.isBlank c = true
  inner_plain : '<' ∉ inner
  closing_eq : closing.map Char.toLower = tag.map Char.toLower
  closingSpace_blank : ∀ c ∈ closingSpace, Text.isBlank c = true
  trail_blank : ∀ c ∈ trail, Text.isBlank c = true

namespace WrittenElement

/-- The attributes in their order. -/
def attributes (e : WrittenElement) : List WrittenAttribute :=
  if e.idFirst then (e.id.map .id).toList ++ (e.classes.map .classes).toList
  else (e.classes.map .classes).toList ++ (e.id.map .id).toList

/-- What stands between the name of the tag and the end of the opening tag. -/
def attributeChars (e : WrittenElement) : List Char := e.attributes.flatMap (·.chars) ++ e.space

/-- What stands behind the opening tag. -/
def behind (e : WrittenElement) : List Char :=
  e.inner ++ '<' :: '/' :: (e.closing ++ (e.closingSpace ++ ['>']))

/-- The block without the blanks around it. -/
def core (e : WrittenElement) : List Char :=
  '<' :: (e.tag ++ (e.attributeChars ++ '>' :: e.behind))

/-- The block. -/
def html (e : WrittenElement) : String := String.ofList (e.lead ++ (e.core ++ e.trail))

/-- The element that is meant : its tag is in lower case, and its text has its ends trimmed and is
left out when nothing remains of it. -/
def node (e : WrittenElement) : Node :=
  .element (String.ofList (e.tag.map Char.toLower))
    (e.id.map fun given => String.ofList given.value)
    ((e.classes.map (·.names)).getD [] |>.map String.ofList)
    (if (Text.trim e.inner).isEmpty then [] else [.text (String.ofList (Text.trim e.inner))])

/-! ## Cutting a block into its parts -/

theorem closing_isTagName (e : WrittenElement) : isTagName e.closing = true := by
  rw [← isTagName_map_toLower, e.closing_eq, isTagName_map_toLower, e.tag_isTagName]

theorem splitClosing?_behind (e : WrittenElement) :
    splitClosing? e.behind = some (e.inner, e.closing) := by
  have hclosing : ∀ c ∈ e.closing.reverse, c.isAlphanum = true := fun c hc =>
    isAlphanum_of_isTagName e.closing_isTagName c (List.mem_reverse.mp hc)
  have hspace : ∀ c ∈ e.closingSpace.reverse, Text.isBlank c = true := fun c hc =>
    e.closingSpace_blank c (List.mem_reverse.mp hc)
  -- the closing tag is read from the end of the block
  have hreverse : e.behind.reverse =
      '>' :: (e.closingSpace.reverse ++ (e.closing.reverse ++ '/' :: '<' :: e.inner.reverse)) := by
    simp [behind]
  have hdrop : (e.closingSpace.reverse ++ (e.closing.reverse ++ '/' :: '<' :: e.inner.reverse)
      ).dropWhile Text.isBlank = e.closing.reverse ++ '/' :: '<' :: e.inner.reverse := by
    rw [List.dropWhile_append_of_pos hspace]
    apply Text.trimStart_eq_self
    cases hlast : e.closing.reverse with
    | nil => rfl
    | cons c rest => simpa using isBlank_of_isAlphanum (hclosing c (by simp [hlast]))
  have hname : (e.closing.reverse ++ '/' :: '<' :: e.inner.reverse).takeWhile Char.isAlphanum =
      e.closing.reverse := by
    rw [List.takeWhile_append_of_pos hclosing, List.takeWhile_cons_of_neg (by decide),
      List.append_nil]
  have hrest : (e.closing.reverse ++ '/' :: '<' :: e.inner.reverse).drop e.closing.length =
      '/' :: '<' :: e.inner.reverse := by
    rw [← List.length_reverse, List.drop_left]
  rw [splitClosing?, hreverse]
  simp only [hdrop, hname, List.reverse_reverse, hrest, e.closing_isTagName, if_true]

/-- The name of the tag ends where its attributes or the opening tag end. -/
theorem head?_attributeChars (e : WrittenElement) (more : List Char) :
    (e.attributeChars ++ '>' :: more).head?.all (!Char.isAlphanum ·) = true := by
  have hblank : ∀ c, Text.isBlank c = true → (!Char.isAlphanum c) = true := fun c hc => by
    rw [isAlphanum_of_isBlank hc, Bool.not_false]
  rw [attributeChars]
  cases e.attributes with
  | nil =>
    cases hspace : e.space with
    | nil => rfl
    | cons c rest => exact hblank c (e.space_blank c (by simp [hspace]))
  | cons first rest =>
    obtain ⟨c, gap, hgap⟩ := List.exists_cons_of_ne_nil first.assignment.gap_ne_nil
    rw [List.flatMap_cons, WrittenAttribute.chars, hgap]
    exact hblank c (first.assignment.gap_blank c (by simp [hgap]))

theorem attributeChars_plain (e : WrittenElement) : ∀ c ∈ e.attributeChars, (c != '>') = true := by
  have hblank : ∀ c, Text.isBlank c = true → (c != '>') = true := by
    intro c hc
    rw [bne_iff_ne]
    rintro rfl
    cases hc
  intro c hc
  rw [attributeChars, List.mem_append, List.mem_flatMap] at hc
  rcases hc with ⟨written, -, hc⟩ | hc
  · exact written.chars_plain hblank c hc
  · exact hblank c (e.space_blank c hc)

theorem parts?_core (e : WrittenElement) :
    parts? e.core = some ⟨e.tag, e.attributeChars, e.inner, e.closing⟩ := by
  have htag : (e.tag ++ (e.attributeChars ++ '>' :: e.behind)).takeWhile Char.isAlphanum =
      e.tag := by
    have hstop := e.head?_attributeChars e.behind
    rw [List.takeWhile_append_of_pos (isAlphanum_of_isTagName e.tag_isTagName)]
    cases hrest : e.attributeChars ++ '>' :: e.behind with
    | nil => simp
    | cons c rest =>
      have hc : c.isAlphanum = false := by simpa [hrest] using hstop
      rw [List.takeWhile_cons_of_neg (by simp [hc]), List.append_nil]
  have hattributes : (e.attributeChars ++ '>' :: e.behind).takeWhile (· != '>') =
      e.attributeChars := by
    rw [List.takeWhile_append_of_pos e.attributeChars_plain, List.takeWhile_cons_of_neg (by decide),
      List.append_nil]
  rw [core, parts?]
  simp only [htag, List.drop_left, hattributes, e.tag_isTagName, e.splitClosing?_behind, if_true,
    Option.map_some]

/-! ## The element of a block -/

theorem attributes_attributeChars (e : WrittenElement) :
    HtmlElement.attributes e.attributeChars = e.attributes.map (·.toAttribute) :=
  attributes_chars e.attributes e.space_blank

theorem lastId?_attributes (e : WrittenElement) :
    lastId? (e.attributes.map (·.toAttribute)) =
      e.id.map fun given => String.ofList given.value := by
  rw [attributes]
  cases e.idFirst <;> cases e.id <;> cases e.classes <;> rfl

theorem flatMap_classes_attributes (e : WrittenElement) :
    (e.attributes.map (·.toAttribute)).flatMap Attribute.classes =
      ((e.classes.map (·.names)).getD []).map String.ofList := by
  have hnames : ∀ given : ClassAssignment,
      Attribute.classes (.class given.value) = given.names.map String.ofList := fun given => by
    rw [Attribute.classes, given.hasNames.words_eq]
  have hid : ∀ given : Assignment, Attribute.classes (.id given.value) = [] := fun _ => rfl
  rw [attributes]
  cases e.idFirst <;> cases e.id <;> cases e.classes <;>
    simp [WrittenAttribute.toAttribute, hid, hnames]

theorem element?_core (e : WrittenElement) : element? e.core = some e.node := by
  have hcase : equalIgnoringCase e.tag e.closing = true := by
    rw [equalIgnoringCase, e.closing_eq, beq_self_eq_true]
  have hinner : (Text.trim e.inner).contains '<' = false := by
    simpa using fun hmem => e.inner_plain (Text.mem_of_mem_trim hmem)
  rw [element?, e.parts?_core]
  simp only [hcase, hinner, e.attributes_attributeChars, Node.bare, foldl_setAttribute,
    e.lastId?_attributes, e.flatMap_classes_attributes, node, Option.or_none, List.nil_append,
    Bool.not_true, Bool.or_self, Bool.false_eq_true, if_false]
  cases (Text.trim e.inner).isEmpty <;> rfl

theorem nodeOf_html (e : WrittenElement) : nodeOf e.html = e.node := by
  have hlast : e.core.getLast? = some '>' := by
    have hconcat : e.core = ('<' :: (e.tag ++ (e.attributeChars ++ '>' :: (e.inner ++
        '<' :: '/' :: (e.closing ++ e.closingSpace))))) ++ ['>'] := by simp [core, behind]
    rw [hconcat, List.getLast?_concat]
  have htrim : Text.trim e.html.toList = e.core := by
    rw [html, String.toList_ofList]
    exact trim_surrounded e.lead_blank e.trail_blank (by simp [core]) rfl (by rw [hlast]; rfl)
  rw [nodeOf, htrim, element?_core, Option.getD_some]

end WrittenElement

/-- A block that is written as one element becomes the element that is meant : with its tag in
lower case, with exactly the id and the classes that are written, and with its text or nothing.
Any block at all becomes an element or a text, and the text is the whole block with its ends
trimmed. -/
theorem nodeOf_written :
    (∀ e : WrittenElement, nodeOf e.html = e.node) ∧
    ∀ html, (nodeOf html).isElement = true ∨ nodeOf html = .text (Text.trimmed html) := by
  refine ⟨WrittenElement.nodeOf_html, fun html => ?_⟩
  rcases nodeOf_cases html with htext | ⟨tag, classes, children, helement, -⟩
  · exact Or.inr htext
  · exact Or.inl (by rw [helement]; rfl)

/-- A paragraph with blanks wherever they may stand. -/
def airyNote : WrittenElement where
  lead := [' ']
  tag := ['P']
  id := some
    { gap := ['\n', ' '], before := [' '], after := [' '], value := ['n', '1'],
      gap_ne_nil := by simp, gap_blank := List.all_eq_true.mp rfl,
      before_blank := List.all_eq_true.mp rfl, after_blank := List.all_eq_true.mp rfl,
      value_plain := by simp }
  classes := some
    { gap := [' '], before := [' '], after := [' '],
      value := [' ', 'n', 'o', 't', 'e', '\n', 's', 'e', 'o', ' '],
      names := [['n', 'o', 't', 'e'], ['s', 'e', 'o']],
      gap_ne_nil := by simp, gap_blank := List.all_eq_true.mp rfl,
      before_blank := List.all_eq_true.mp rfl, after_blank := List.all_eq_true.mp rfl,
      value_plain := by simp,
      hasNames := @Text.HasWords.word [' '] ['n', 'o', 't', 'e'] ['\n', 's', 'e', 'o', ' '] _
        (List.all_eq_true.mp rfl) ⟨by simp, by simpa using ⟨rfl, rfl, rfl, rfl⟩⟩ rfl
        (@Text.HasWords.word ['\n'] ['s', 'e', 'o'] [' '] _ (List.all_eq_true.mp rfl)
          ⟨by simp, by simpa using ⟨rfl, rfl, rfl⟩⟩ rfl (.blanks (List.all_eq_true.mp rfl))) }
  idFirst := false
  space := [' ']
  inner := ['\n', 'B', ' ', '>', ' ', 'A', ' ']
  closing := ['p']
  closingSpace := [' ']
  trail := ['\n']
  lead_blank := List.all_eq_true.mp rfl
  tag_isTagName := rfl
  space_blank := List.all_eq_true.mp rfl
  inner_plain := by simp
  closing_eq := rfl
  closingSpace_blank := List.all_eq_true.mp rfl
  trail_blank := List.all_eq_true.mp rfl

example : airyNote.html = " <P class = \" note\nseo \"\n id = \"n1\" >\nB > A </p >\n" ∧
    nodeOf airyNote.html = .element "p" (some "n1") ["note", "seo"] [.text "B > A"] :=
  ⟨by rfl, by rfl⟩

end PageRecipe.HtmlElement
