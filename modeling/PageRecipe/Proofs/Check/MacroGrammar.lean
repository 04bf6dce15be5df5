import PageRecipe.Proofs.Check.Invocations

/-!
# The grammar of macro invocations

A text may be read as an invocation in several ways : blanks behind the name stand before or
behind brackets that hold nothing, and what is in brackets may hold brackets. `Reading` is one of
these ways, part by part.

The recogniser follows the grammar part by part. What stands behind a name is accepted when it is
made of the parts that the grammar has there (`isTail_iff`), so a name is recognised when some
reading has it (`name?_eq_some_iff`), and all readings of a text have one name.
-/

namespace PageRecipe.Macro

open Text (trimStart_append_of_blank trimStart_cons_of_not_blank exists_blanks_append)

/-! ## Readings -/

/-- Round brackets around some characters, or nothing. -/
def bracketed : Option (List Char) → List Char
  | some inside => '(' :: (inside ++ [')'])
  | none => []

/-- A way to read a text as an invocation : two braces, blanks, a name, blanks, round brackets
around any characters or nothing, blanks, and two braces. The name starts with a letter of ASCII
or an underscore and goes on with word characters and hyphens. -/
structure Reading (s : List Char) where
  lead : List Char
  first : Char
  rest : List Char
  gap : List Char
  arguments : Option (List Char)
  trail : List Char
  lead_blank : ∀ c ∈ lead, Text.isBlank c = true
  first_isNameStart : isNameStart first = true
  rest_isNameRest : ∀ c ∈ rest, isNameRest c = true
  gap_blank : ∀ c ∈ gap, Text.isBlank c = true
  trail_blank : ∀ c ∈ trail, Text.isBlank c = true
  spells : s = ['\x7b', '\x7b'] ++ (lead ++ (first :: rest ++ (gap ++ (bracketed arguments ++
    (trail ++ ['\x7d', '\x7d'])))))

/-- The name that is read. -/
def Reading.name {s : List Char} (reading : Reading s) : List Char :=
  reading.first :: reading.rest

/-! ## What stands behind a name -/

theorem isClosing_iff {s : List Char} : isClosing s = true ↔
    ∃ blanks, (∀ c ∈ blanks, Text.isBlank c = true) ∧ s = blanks ++ ['\x7d', '\x7d'] := by
  rw [isClosing, beq_iff_eq]
  constructor
  · intro h
    obtain ⟨blanks, hblanks, hs⟩ := exists_blanks_append s
    exact ⟨blanks, hblanks, h ▸ hs⟩
  · rintro ⟨blanks, hblanks, rfl⟩
    rw [trimStart_append_of_blank hblanks]
    exact trimStart_cons_of_not_blank rfl

theorem isArguments_iff {s : List Char} : isArguments s = true ↔
    ∃ inside blanks, (∀ c ∈ blanks, Text.isBlank c = true) ∧
      s = '(' :: (inside ++ ')' :: (blanks ++ ['\x7d', '\x7d'])) := by
  constructor
  · intro h
    -- the rest is looked at from its end : two braces, blanks, then the bracket that closes
    rw [isArguments.eq_def] at h
    split at h
    · next rest =>
      split at h
      · next before hreverse =>
        split at h
        · next front hfront =>
          obtain ⟨blanks, hblanks, hbefore⟩ := exists_blanks_append before
          refine ⟨front.reverse, blanks.reverse, fun c hc => hblanks c (List.mem_reverse.mp hc), ?_⟩
          rw [Text.trimStart, hfront] at hbefore
          rw [← List.reverse_reverse rest, hreverse, hbefore]
          simp
        · cases h
      · cases h
    · cases h
  · rintro ⟨inside, blanks, hblanks, rfl⟩
    rw [isArguments_of_last hblanks rfl, beq_self_eq_true]

/-- What may stand behind a name is what the grammar has there. -/
theorem isTail_iff {s : List Char} : isTail s = true ↔ ∃ gap arguments trail,
    (∀ c ∈ gap, Text.isBlank c = true) ∧ (∀ c ∈ trail, Text.isBlank c = true) ∧
      s = gap ++ (bracketed arguments ++ (trail ++ ['\x7d', '\x7d'])) := by
  rw [isTail, Bool.or_eq_true, isClosing_iff, isArguments_iff]
  constructor
  · rintro (⟨blanks, hblanks, rfl⟩ | ⟨inside, blanks, hblanks, hs⟩)
    · exact ⟨[], none, blanks, by simp, hblanks, rfl⟩
    · obtain ⟨gap, hgap, hsplit⟩ := exists_blanks_append s
      exact ⟨gap, some inside, blanks, hgap, hblanks, by simpa [hs, bracketed] using hsplit⟩
  · rintro ⟨gap, _ | inside, trail, hgap, htrail, rfl⟩
    · refine Or.inl ⟨gap ++ trail, ?_, by simp [bracketed]⟩
      exact fun c hc => (List.mem_append.mp hc).elim (hgap c) (htrail c)
    · refine Or.inr ⟨inside, trail, htrail, ?_⟩
      rw [trimStart_append_of_blank hgap, bracketed, List.cons_append,
        trimStart_cons_of_not_blank rfl]
      simp

/-- A name ends where the grammar goes on. -/
theorem head?_all_of_isTail {s : List Char} (h : isTail s = true) :
    s.head?.all (!isNameRest ·) = true := by
  have hclosing : isNameRest '\x7d' = false ∧ isNameRest '(' = false := by decide +kernel
  obtain ⟨gap, arguments, trail, hgap, htrail, rfl⟩ := isTail_iff.mp h
  apply head?_append_of_blank hgap
  cases arguments with
  | none =>
    rw [bracketed, List.nil_append]
    exact head?_append_of_blank htrail (by simp [hclosing.1])
  | some inside => simp [bracketed, hclosing.2]

/-! ## The recogniser -/

/-- A name starts as names do and goes on as names do. -/
theorem isName_cons_iff {first : Char} {rest : List Char} :
    IsName (first :: rest) ↔ isNameStart first = true ∧ ∀ c ∈ rest, isNameRest c = true := by
  constructor
  · intro h
    exact ⟨by simpa using h.start, fun c hc => h.rest c (List.mem_cons_of_mem _ hc)⟩
  · rintro ⟨hfirst, hrest⟩
    exact ⟨by simpa using hfirst,
      List.forall_mem_cons.mpr ⟨isNameRest_of_isNameStart hfirst, hrest⟩⟩

theorem Reading.name?_eq {s : List Char} (reading : Reading s) :
    name? s = some reading.name := by
  have hname : IsName reading.name :=
    isName_cons_iff.mpr ⟨reading.first_isNameStart, reading.rest_isNameRest⟩
  have htail := isTail_iff.mpr ⟨reading.gap, reading.arguments, reading.trail,
    reading.gap_blank, reading.trail_blank, rfl⟩
  have hread := name?_of_name reading.lead_blank hname (head?_all_of_isTail htail)
  rw [if_pos htail] at hread
  exact (congrArg name? reading.spells).trans hread

/-- A recognised name comes with the rest of the text, which is made of what may surround it. -/
theorem exists_of_name?_eq_some {s name : List Char} (h : name? s = some name) :
    ∃ lead first rest tail, s = '\x7b' :: '\x7b' :: (lead ++ (first :: rest ++ tail)) ∧
      name = first :: rest ∧ (∀ c ∈ lead, Text.isBlank c = true) ∧ isNameStart first = true ∧
      (∀ c ∈ rest, isNameRest c = true) ∧ isTail tail = true := by
  rw [name?.eq_def] at h
  split at h
  · next inner =>
    obtain ⟨lead, hlead, hinner⟩ := exists_blanks_append inner
    split at h
    · next first behind htrim =>
      split at h
      · next hcond =>
        obtain ⟨hfirst, htail⟩ := Bool.and_eq_true_iff.mp hcond
        refine ⟨lead, first, behind.takeWhile isNameRest, behind.dropWhile isNameRest, ?_,
          (Option.some.inj h).symm, hlead, hfirst, List.all_eq_true.mp List.all_takeWhile, htail⟩
        rw [List.cons_append, List.takeWhile_append_dropWhile, ← htrim, ← hinner]
      · cases h
    · cases h
  · cases h

/-- A name is recognised when a reading of the text has it. -/
theorem name?_eq_some_iff {s name : List Char} :
    name? s = some name ↔ ∃ reading : Reading s, reading.name = name := by
  constructor
  · intro h
    obtain ⟨lead, first, rest, tail, hs, rfl, hlead, hfirst, hrest, htail⟩ :=
      exists_of_name?_eq_some h
    obtain ⟨gap, arguments, trail, hgap, htrail, rfl⟩ := isTail_iff.mp htail
    exact ⟨⟨lead, first, rest, gap, arguments, trail, hlead, hfirst, hrest, hgap, htrail, hs⟩, rfl⟩
  · rintro ⟨reading, rfl⟩
    exact reading.name?_eq

/-! ## Nodes -/

theorem macroName?_text_iff {value name : String} : (Node.text value).macroName? = some name ↔
    ∃ reading : Reading (Text.trim value.toList), reading.name = name.toList := by
  rw [Node.macroName?, Option.map_eq_some_iff]
  constructor
  · rintro ⟨found, hfound, rfl⟩
    rw [String.toList_ofList]
    exact name?_eq_some_iff.mp hfound
  · intro h
    exact ⟨name.toList, name?_eq_some_iff.mpr h, String.ofList_toList⟩

theorem isMacro_iff {node : Node} {name : String} : node.isMacro name = true ↔
    ∃ found, node.macroName? = some found ∧
      found.toList.map Char.toLower = name.toList.map Char.toLower := by
  rw [Node.isMacro]
  cases node.macroName? <;> simp [equalIgnoringCase]

/-- A node invokes a macro of some name when it is a text that, with its ends trimmed, has a
reading with that name. All readings of a text have one name. A node is an invocation of a given
macro when that name is the one of the macro, up to the case of letters of ASCII. -/
theorem macroName?_iff_reading (node : Node) :
    (∀ name, node.macroName? = some name ↔ ∃ value, node = .text value ∧
      ∃ reading : Reading (Text.trim value.toList), reading.name = name.toList) ∧
    (∀ (s : List Char) (a b : Reading s), a.name = b.name) ∧
    ∀ name, node.isMacro name = true ↔ ∃ value, node = .text value ∧
      ∃ reading : Reading (Text.trim value.toList),
        reading.name.map Char.toLower = name.toList.map Char.toLower := by
  have hname : ∀ name, node.macroName? = some name ↔ ∃ value, node = .text value ∧
      ∃ reading : Reading (Text.trim value.toList), reading.name = name.toList := by
    intro name
    cases node with
    | element tag id classes children => simp [Node.macroName?]
    | text value => simp [macroName?_text_iff]
  refine ⟨hname, fun s a b => Option.some.inj (a.name?_eq.symm.trans b.name?_eq), fun name => ?_⟩
  rw [isMacro_iff]
  constructor
  · rintro ⟨found, hfound, hcase⟩
    obtain ⟨value, hvalue, reading, hreading⟩ := (hname found).mp hfound
    exact ⟨value, hvalue, reading, hreading ▸ hcase⟩
  · rintro ⟨value, hvalue, reading, hcase⟩
    refine ⟨String.ofList reading.name, ?_, by rwa [String.toList_ofList]⟩
    exact (hname _).mpr ⟨value, hvalue, reading, String.toList_ofList.symm⟩

end PageRecipe.Macro
