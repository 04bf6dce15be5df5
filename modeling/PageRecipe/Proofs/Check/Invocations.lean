import PageRecipe.Check.Classifier
import PageRecipe.Proofs.Text.Blanks

/-!
# Texts with several invocations

An `Invocation` is a macro invocation as it is written : two braces, a name and two braces, with
arguments in round brackets after the name or without. Read on its own, it is recognised with its
name (`macroName?_text`).

The recogniser looks for the bracket that closes the arguments from the end of the text, so
arguments may hold anything. What comes out for a text that starts with one invocation and ends
with another one therefore hangs on whether both have arguments : then the text counts as one
invocation of the first name, whatever stands between them, and else as none
(`macroName?_between`).
-/

namespace PageRecipe.Macro

open Text (trimStart_append_of_blank trimStart_cons_of_not_blank trim_of_ends)

/-! ## Characters -/

/-- The points of the blank characters. -/
def blankPoints : List Nat :=
  [9, 10, 11, 12, 13, 0x20, 0x85, 0xA0, 0x1680, 0x2000, 0x2001, 0x2002, 0x2003, 0x2004, 0x2005,
    0x2006, 0x2007, 0x2008, 0x2009, 0x200A, 0x2028, 0x2029, 0x202F, 0x205F, 0x3000]

theorem toNat_mem_blankPoints {c : Char} (h : Text.isBlank c = true) : c.toNat ∈ blankPoints := by
  simp only [Text.isBlank, Bool.or_eq_true, Bool.and_eq_true, decide_eq_true_eq, beq_iff_eq] at h
  simp only [blankPoints, List.mem_cons, List.not_mem_nil, or_false]
  omega

theorem isBlank_of_isNameRest {c : Char} (h : isNameRest c = true) : Text.isBlank c = false := by
  rw [Bool.eq_false_iff]
  intro hblank
  have hpoint := toNat_mem_blankPoints hblank
  have hwords : ∀ n ∈ blankPoints, Text.isInside Text.wordFlips n = false ∧ n ≠ '-'.toNat := by
    decide +kernel
  rw [isNameRest, Text.isWordChar, (hwords _ hpoint).1, Bool.false_or, beq_iff_eq] at h
  exact (hwords _ hpoint).2 (congrArg Char.toNat h)

/-- What a name may start with, it may go on with. -/
theorem isNameRest_of_isNameStart {c : Char} (h : isNameStart c = true) : isNameRest c = true := by
  have hwords : ∀ n < 123, 65 ≤ n ∧ n ≤ 90 ∨ n = 95 ∨ 97 ≤ n ∧ n ≤ 122 →
      Text.isInside Text.wordFlips n = true := by decide +kernel
  have hpoint : 65 ≤ c.toNat ∧ c.toNat ≤ 90 ∨ c.toNat = 95 ∨ 97 ≤ c.toNat ∧ c.toNat ≤ 122 := by
    change (decide (65 ≤ c.val ∧ c.val ≤ 90) ||
      (decide (97 ≤ c.val) && decide (c.val ≤ 122)) || c == '_') = true at h
    simp only [Bool.or_eq_true, Bool.and_eq_true, decide_eq_true_eq, beq_iff_eq,
      UInt32.le_iff_toNat_le] at h
    rcases h with (h | h) | rfl
    · exact Or.inl h
    · exact Or.inr (Or.inr h)
    · exact Or.inr (Or.inl rfl)
  rw [isNameRest, Text.isWordChar, hwords _ (by omega) hpoint, Bool.true_or]

/-- A name starts with a letter or an underscore and goes on with name characters. -/
structure IsName (name : List Char) : Prop where
  start : name.head?.any isNameStart = true
  rest : ∀ c ∈ name, isNameRest c = true

theorem IsName.of_isNameStart {c : Char} (h : isNameStart c = true) : IsName [c] :=
  ⟨h, fun _ hc => List.mem_singleton.mp hc ▸ isNameRest_of_isNameStart h⟩

/-! ## What stands behind a name -/

/-- No name goes on with a blank. -/
theorem head?_append_of_blank {blanks s : List Char} (h : ∀ c ∈ blanks, Text.isBlank c = true)
    (hs : s.head?.all (!isNameRest ·) = true) : (blanks ++ s).head?.all (!isNameRest ·) = true := by
  cases blanks with
  | nil => exact hs
  | cons c rest =>
    have hblank : Text.isBlank c = true := h c (by simp)
    rw [List.cons_append, List.head?_cons, Option.all_some, Bool.not_eq_true', Bool.eq_false_iff]
    intro hname
    rw [isBlank_of_isNameRest hname] at hblank
    cases hblank

/-- Between braces, the name is read up to the first character that no name holds. -/
theorem name?_of_name {lead name tail : List Char} (hlead : ∀ c ∈ lead, Text.isBlank c = true)
    (hname : IsName name) (htail : tail.head?.all (!isNameRest ·) = true) :
    name? ('\x7b' :: '\x7b' :: (lead ++ (name ++ tail))) =
      if isTail tail then some name else none := by
  obtain ⟨first, rest, rfl⟩ : ∃ first rest, name = first :: rest := by
    cases name with
    | nil => simpa using hname.start
    | cons first rest => exact ⟨first, rest, rfl⟩
  have hstart : isNameStart first = true := by simpa using hname.start
  have hrest : ∀ c ∈ rest, isNameRest c = true := fun c hc => hname.rest c (by simp [hc])
  have hstop : tail.takeWhile isNameRest = [] ∧ tail.dropWhile isNameRest = tail := by
    cases tail with
    | nil => exact ⟨rfl, rfl⟩
    | cons c tail => simp_all
  have hblank := isBlank_of_isNameRest (isNameRest_of_isNameStart hstart)
  rw [name?, trimStart_append_of_blank hlead, List.cons_append, trimStart_cons_of_not_blank hblank]
  simp only [hstart, Bool.true_and, List.dropWhile_append_of_pos hrest,
    List.takeWhile_append_of_pos hrest, hstop, List.append_nil]

/-- Behind a name and its opening bracket, the last character before the closing braces that is no
blank tells whether there are arguments. -/
theorem isArguments_of_last {inside blanks : List Char} {last : Char}
    (hblanks : ∀ c ∈ blanks, Text.isBlank c = true) (hlast : Text.isBlank last = false) :
    isArguments ('(' :: (inside ++ last :: (blanks ++ ['\x7d', '\x7d']))) = (last == ')') := by
  have hdrop : (blanks.reverse ++ last :: inside.reverse).dropWhile Text.isBlank =
      last :: inside.reverse := by
    rw [List.dropWhile_append_of_pos fun c hc => hblanks c (List.mem_reverse.mp hc),
      List.dropWhile_cons_of_neg (by simp [hlast])]
  have hreverse : (inside ++ last :: (blanks ++ ['\x7d', '\x7d'])).reverse =
      '\x7d' :: '\x7d' :: (blanks.reverse ++ last :: inside.reverse) := by simp
  simp only [isArguments, hreverse, hdrop]
  split
  next hmatch => rw [(List.cons.inj hmatch).1, beq_self_eq_true]
  next hother =>
    have hne : last ≠ ')' := by
      rintro rfl
      exact hother _ rfl
    rw [beq_eq_false_iff_ne.mpr hne]

/-! ## Invocations as they are written -/

/-- A written invocation : two braces, blanks, a name, blanks, arguments in round brackets or
nothing, blanks, and two braces. The arguments hold no braces. -/
structure Invocation where
  lead : List Char
  name : List Char
  gap : List Char
  arguments : Option (List Char)
  trail : List Char
  lead_blank : ∀ c ∈ lead, Text.isBlank c = true
  isName : IsName name
  gap_blank : ∀ c ∈ gap, Text.isBlank c = true
  arguments_plain : ∀ inside ∈ arguments, '\x7b' ∉ inside ∧ '\x7d' ∉ inside
  trail_blank : ∀ c ∈ trail, Text.isBlank c = true

namespace Invocation

/-- The arguments in their brackets. -/
def bracketed (m : Invocation) : List Char :=
  match m.arguments with
  | some inside => '(' :: (inside ++ [')'])
  | none => []

/-- What stands behind the name. -/
def tail (m : Invocation) : List Char :=
  m.gap ++ (m.bracketed ++ (m.trail ++ ['\x7d', '\x7d']))

/-- The characters of the invocation. -/
def chars (m : Invocation) : List Char := '\x7b' :: '\x7b' :: (m.lead ++ (m.name ++ m.tail))

/-- The invocation as a text. -/
def text (m : Invocation) : String := String.ofList m.chars

/-- No name goes on behind the name. -/
theorem head?_tail_append (m : Invocation) (more : List Char) :
    (m.tail ++ more).head?.all (!isNameRest ·) = true := by
  have hclosing : isNameRest '\x7d' = false ∧ isNameRest '(' = false := by decide +kernel
  simp only [tail, bracketed, List.append_assoc]
  apply head?_append_of_blank m.gap_blank
  rcases m.arguments with _ | inside
  · apply head?_append_of_blank m.trail_blank
    simp [hclosing.1]
  · simp [hclosing.2]

/-- The name is read, and then what stands behind it decides. -/
theorem name?_append (m : Invocation) (more : List Char) :
    name? (m.chars ++ more) = if isTail (m.tail ++ more) then some m.name else none := by
  rw [chars, List.cons_append, List.cons_append, List.append_assoc, List.append_assoc,
    name?_of_name m.lead_blank m.isName (m.head?_tail_append more)]

/-- Behind a name without arguments, the braces close the text. -/
theorem isTail_of_none {m : Invocation} (h : m.arguments = none) (more : List Char) :
    isTail (m.tail ++ more) = more.isEmpty := by
  have htrim : Text.trimStart (m.tail ++ more) = '\x7d' :: '\x7d' :: more := by
    simp only [tail, bracketed, h, List.nil_append, List.append_assoc]
    rw [trimStart_append_of_blank m.gap_blank, trimStart_append_of_blank m.trail_blank]
    exact trimStart_cons_of_not_blank rfl
  rw [isTail, isClosing, htrim]
  cases more <;> simp [isArguments]

/-- Behind a name with arguments, the end of the text decides. -/
theorem isTail_of_some {m : Invocation} {inside : List Char} (h : m.arguments = some inside)
    (more : List Char) : isTail (m.tail ++ more) =
      isArguments ('(' :: (inside ++ ')' :: (m.trail ++ ['\x7d', '\x7d']) ++ more)) := by
  have htrim : Text.trimStart (m.tail ++ more) =
      '(' :: (inside ++ ')' :: (m.trail ++ ['\x7d', '\x7d']) ++ more) := by
    simp only [tail, bracketed, h, List.cons_append, List.append_assoc, List.nil_append]
    rw [trimStart_append_of_blank m.gap_blank]
    exact trimStart_cons_of_not_blank rfl
  rw [isTail, isClosing, htrim]
  simp

/-- Before the closing braces and the blanks there, an invocation ends with the bracket of its
arguments, or with its name. -/
theorem exists_last (m : Invocation) : ∃ front last blanks,
    m.chars = front ++ last :: (blanks ++ ['\x7d', '\x7d']) ∧
      (∀ c ∈ blanks, Text.isBlank c = true) ∧ Text.isBlank last = false ∧
      (last == ')') = m.arguments.isSome := by
  rcases harguments : m.arguments with _ | inside
  · obtain ⟨front, last, hname⟩ : ∃ front last, m.name = front ++ [last] := by
      rcases List.eq_nil_or_concat m.name with hnil | ⟨front, last, hname⟩
      · simpa [hnil] using m.isName.start
      · exact ⟨front, last, by rw [hname, List.concat_eq_append]⟩
    have hlast : isNameRest last = true := m.isName.rest last (by simp [hname])
    have hbracket : last ≠ ')' := by
      rintro rfl
      exact absurd hlast (by decide +kernel)
    refine ⟨'\x7b' :: '\x7b' :: (m.lead ++ front), last, m.gap ++ m.trail, ?_, ?_,
      isBlank_of_isNameRest hlast, beq_eq_false_iff_ne.mpr hbracket⟩
    · simp [chars, tail, bracketed, harguments, hname]
    · exact fun c hc => (List.mem_append.mp hc).elim (m.gap_blank c) (m.trail_blank c)
  · exact ⟨'\x7b' :: '\x7b' :: (m.lead ++ (m.name ++ (m.gap ++ '(' :: inside))), ')', m.trail,
      by simp [chars, tail, bracketed, harguments], m.trail_blank, rfl, rfl⟩

end Invocation

/-! ## Texts of one and of two invocations -/

open Macro.Invocation

/-- A text that starts and ends with braces of invocations has no blanks to cut off. -/
theorem macroName?_of_chars (m last : Invocation) {more front : List Char}
    (h : m.chars ++ more = front ++ last.chars) :
    (Node.text (String.ofList (m.chars ++ more))).macroName? =
      (name? (m.chars ++ more)).map String.ofList := by
  obtain ⟨start, c, blanks, hchars, -⟩ := last.exists_last
  have hends : m.chars ++ more = (front ++ (start ++ c :: (blanks ++ ['\x7d']))) ++ ['\x7d'] := by
    simp [h, hchars]
  rw [Node.macroName?, String.toList_ofList, trim_of_ends rfl]
  rw [hends, List.getLast?_concat]
  rfl

/-- An invocation on its own is recognised with its name. -/
theorem macroName?_text (m : Invocation) :
    (Node.text m.text).macroName? = some (String.ofList m.name) := by
  have htail : isTail (m.tail ++ []) = true := by
    rcases harguments : m.arguments with _ | inside
    · rw [isTail_of_none harguments, List.isEmpty_nil]
    · rw [isTail_of_some harguments, List.append_nil, isArguments_of_last m.trail_blank rfl,
        beq_self_eq_true]
  have hends : m.chars ++ [] = [] ++ m.chars := by simp
  have hchars := macroName?_of_chars m m hends
  rw [name?_append, if_pos htail, List.append_nil] at hchars
  exact hchars

/-- Before the second invocation, the first one is completed exactly when both have arguments. -/
theorem isTail_between (m₁ m₂ : Invocation) (between : List Char) :
    isTail (m₁.tail ++ (between ++ m₂.chars)) =
      (m₁.arguments.isSome && m₂.arguments.isSome) := by
  obtain ⟨front, last, blanks, hchars, hblanks, hlast, hbracket⟩ := m₂.exists_last
  rcases harguments : m₁.arguments with _ | inside
  · rw [isTail_of_none harguments, Option.isSome_none, Bool.false_and, hchars]
    simp
  · have hsplit : inside ++ ')' :: (m₁.trail ++ ['\x7d', '\x7d']) ++ (between ++ m₂.chars) =
        (inside ++ ')' :: (m₁.trail ++ ['\x7d', '\x7d']) ++ (between ++ front)) ++
          last :: (blanks ++ ['\x7d', '\x7d']) := by simp [hchars]
    rw [isTail_of_some harguments, hsplit, isArguments_of_last hblanks hlast, hbracket,
      Option.isSome_some, Bool.true_and]

/-- Two invocations with a text between them are each recognised on their own. Together they count
as one invocation, of the first name, exactly when both have arguments, and else as none. -/
theorem macroName?_between (m₁ m₂ : Invocation) (between : String) :
    (Node.text m₁.text).macroName? = some (String.ofList m₁.name) ∧
    (Node.text m₂.text).macroName? = some (String.ofList m₂.name) ∧
    (Node.text (m₁.text ++ between ++ m₂.text)).macroName? =
      (if m₁.arguments.isSome && m₂.arguments.isSome then some (String.ofList m₁.name) else none) ∧
    ∀ name, (Node.text (m₁.text ++ between ++ m₂.text)).isMacro name =
      (m₁.arguments.isSome && m₂.arguments.isSome &&
        equalIgnoringCase (String.ofList m₁.name) name) := by
  have htext : m₁.text ++ between ++ m₂.text =
      String.ofList (m₁.chars ++ (between.toList ++ m₂.chars)) := by
    simp [text, String.ofList_append, String.append_assoc]
  have hname : (Node.text (m₁.text ++ between ++ m₂.text)).macroName? =
      if m₁.arguments.isSome && m₂.arguments.isSome then some (String.ofList m₁.name)
      else none := by
    rw [htext, macroName?_of_chars m₁ m₂ (List.append_assoc _ _ _).symm, name?_append,
      isTail_between]
    cases m₁.arguments.isSome && m₂.arguments.isSome <;> rfl
  refine ⟨macroName?_text m₁, macroName?_text m₂, hname, fun name => ?_⟩
  rw [Node.isMacro, hname]
  cases m₁.arguments.isSome && m₂.arguments.isSome <;> rfl

/-- An invocation of one letter with one letter as its arguments. -/
def oneLetter (name argument : Char) (hname : isNameStart name = true)
    (hargument : argument ≠ '\x7b' ∧ argument ≠ '\x7d') : Invocation where
  lead := []
  name := [name]
  gap := []
  arguments := some [argument]
  trail := []
  lead_blank := by simp
  isName := .of_isNameStart hname
  gap_blank := by simp
  arguments_plain := by simpa [eq_comm] using hargument
  trail_blank := by simp

/-- Two invocations side by side are one of the first name, in whatever case that is written, and
none of the second one. -/
theorem macroName?_sideBySide :
    (Node.text "\x7b\x7bA(x)\x7d\x7d\x7b\x7bB(y)\x7d\x7d").macroName? = some "A" ∧
    (Node.text "\x7b\x7bA(x)\x7d\x7d\x7b\x7bB(y)\x7d\x7d").isMacro "a" = true ∧
    (Node.text "\x7b\x7bA(x)\x7d\x7d\x7b\x7bB(y)\x7d\x7d").isMacro "B" = false := by
  obtain ⟨-, -, hname, hnamed⟩ := macroName?_between (oneLetter 'A' 'x' rfl (by decide))
    (oneLetter 'B' 'y' rfl (by decide)) ""
  have htext : (oneLetter 'A' 'x' rfl (by decide)).text ++ "" ++
      (oneLetter 'B' 'y' rfl (by decide)).text =
        "\x7b\x7bA(x)\x7d\x7d\x7b\x7bB(y)\x7d\x7d" := by decide +kernel
  rw [htext] at hname hnamed
  exact ⟨hname, (hnamed "a").trans (by decide), (hnamed "B").trans (by decide)⟩

/-- A text of two invocations with arguments counts as an invocation of the first name. -/
theorem macroName?_twoInvocations : ∃ (m₁ m₂ : Invocation) (between : String),
    m₁.text ++ between ++ m₂.text = "\x7b\x7bA(x)\x7d\x7d and \x7b\x7bB(y)\x7d\x7d" ∧
    (Node.text (m₁.text ++ between ++ m₂.text)).macroName? = some "A" ∧
    (Node.text (m₁.text ++ between ++ m₂.text)).isMacro "A" = true :=
  ⟨oneLetter 'A' 'x' rfl (by decide), oneLetter 'B' 'y' rfl (by decide), " and ",
    by decide +kernel, by decide +kernel, by decide +kernel⟩

end PageRecipe.Macro
