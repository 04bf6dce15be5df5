import PageRecipe.Text.Blank

/-!
# Blanks around a text and between its words

A text begins with blanks, and behind them stands what is left of it when its start is trimmed
(`exists_blanks_append`). Blanks around a text that neither begins nor ends with one are what
trimming cuts off (`trim_surrounded`), and blanks around and between words are what is no part of
a word : every text is made of just one sequence of words (`words_eq_iff`), which hold what is
not blank in it (`HasWords.flatten_eq`).
-/

namespace PageRecipe.Text

/-! ## Trimming -/

theorem trimStart_append_of_blank {blanks s : List Char} (h : ∀ c ∈ blanks, isBlank c = true) :
    trimStart (blanks ++ s) = trimStart s :=
  List.dropWhile_append_of_pos h

theorem trimStart_cons_of_not_blank {c : Char} {s : List Char} (h : isBlank c = false) :
    trimStart (c :: s) = c :: s :=
  List.dropWhile_cons_of_neg (by simp [h])

theorem trimStart_eq_self {s : List Char} (h : s.head?.all (!isBlank ·) = true) :
    trimStart s = s := by
  cases s with
  | nil => rfl
  | cons c rest => exact trimStart_cons_of_not_blank (by simpa using h)

theorem exists_blanks_append (s : List Char) :
    ∃ blanks, (∀ c ∈ blanks, isBlank c = true) ∧ s = blanks ++ trimStart s :=
  ⟨s.takeWhile isBlank, List.all_eq_true.mp List.all_takeWhile,
    List.takeWhile_append_dropWhile.symm⟩

theorem exists_append_blanks (s : List Char) :
    ∃ blanks, (∀ c ∈ blanks, isBlank c = true) ∧ s = trimEnd s ++ blanks := by
  obtain ⟨blanks, hblanks, h⟩ := exists_blanks_append s.reverse
  refine ⟨blanks.reverse, fun c hc => hblanks c (List.mem_reverse.mp hc), ?_⟩
  rw [trimEnd, ← trimStart, ← List.reverse_append, ← h, List.reverse_reverse]

theorem trimEnd_append_of_blank {blanks s : List Char} (h : ∀ c ∈ blanks, isBlank c = true) :
    trimEnd (s ++ blanks) = trimEnd s := by
  have hreverse : ∀ c ∈ blanks.reverse, isBlank c = true :=
    fun c hc => h c (List.mem_reverse.mp hc)
  rw [trimEnd, List.reverse_append, List.dropWhile_append_of_pos hreverse, trimEnd]

theorem trim_of_ends {s : List Char} (hfirst : s.head?.all (!isBlank ·) = true)
    (hlast : s.getLast?.all (!isBlank ·) = true) : trim s = s := by
  have hend : trimStart s.reverse = s.reverse := trimStart_eq_self (by rwa [List.head?_reverse])
  rw [trim, trimStart_eq_self hfirst, trimEnd, ← trimStart, hend, List.reverse_reverse]

/-- Blanks around a text that neither begins nor ends with one are cut off. -/
theorem trim_surrounded {lead s trail : List Char} (hlead : ∀ c ∈ lead, isBlank c = true)
    (htrail : ∀ c ∈ trail, isBlank c = true) (hs : s ≠ [])
    (hfirst : s.head?.all (!isBlank ·) = true) (hlast : s.getLast?.all (!isBlank ·) = true) :
    trim (lead ++ (s ++ trail)) = s := by
  have hstart : trimStart (s ++ trail) = s ++ trail := by
    obtain ⟨c, rest, rfl⟩ := List.exists_cons_of_ne_nil hs
    exact trimStart_eq_self hfirst
  calc trim (lead ++ (s ++ trail)) = trimEnd (s ++ trail) := by
        rw [trim, trimStart_append_of_blank hlead, hstart]
    _ = trimEnd (trimStart s) := by rw [trimEnd_append_of_blank htrail, trimStart_eq_self hfirst]
    _ = s := trim_of_ends hfirst hlast

theorem mem_of_mem_trim {s : List Char} {c : Char} (h : c ∈ trim s) : c ∈ s := by
  rw [trim, trimEnd, List.mem_reverse] at h
  have hstart : c ∈ trimStart s := List.mem_reverse.mp ((List.dropWhile_sublist _).subset h)
  exact (List.dropWhile_sublist _).subset hstart

/-! ## Words -/

/-- A word is not empty and holds no blanks. -/
structure IsWord (word : List Char) : Prop where
  ne_nil : word ≠ []
  no_blank : ∀ c ∈ word, isBlank c = false

/-- The text is made of these words, with blanks between any two of them and perhaps at its
ends. -/
inductive HasWords : List Char → List (List Char) → Prop
  | blanks {s : List Char} (h : ∀ c ∈ s, isBlank c = true) : HasWords s []
  | word {lead word rest : List Char} {words : List (List Char)}
      (hlead : ∀ c ∈ lead, isBlank c = true) (hword : IsWord word)
      (hends : rest.head?.all isBlank = true) (hrest : HasWords rest words) :
      HasWords (lead ++ (word ++ rest)) (word :: words)

theorem words_append_of_blank {blanks : List Char} (h : ∀ c ∈ blanks, isBlank c = true)
    (s : List Char) : words (blanks ++ s) = words s := by
  induction blanks with
  | nil => rfl
  | cons c rest ih =>
    obtain ⟨hc, hrest⟩ := List.forall_mem_cons.mp h
    rw [← ih hrest]
    simp [words, wordStep, hc]

theorem words_append_right_of_blank {blanks : List Char} (h : ∀ c ∈ blanks, isBlank c = true)
    (s : List Char) : words (s ++ blanks) = words s := by
  have hnone : blanks.foldr wordStep ([], []) = ([], []) := by
    induction blanks with
    | nil => rfl
    | cons c rest ih =>
      obtain ⟨hc, hrest⟩ := List.forall_mem_cons.mp h
      rw [List.foldr_cons, ih hrest, wordStep, if_pos hc]
      rfl
  rw [words, List.foldr_append, hnone, ← words]

/-- Behind a blank no word has begun. -/
theorem fst_foldr_wordStep {rest : List Char} (h : rest.head?.all isBlank = true) :
    (rest.foldr wordStep ([], [])).1 = [] := by
  cases rest with
  | nil => rfl
  | cons c rest => rw [List.foldr_cons, wordStep, if_pos (by simpa using h)]

theorem foldr_wordStep_word {word : List Char} (h : ∀ c ∈ word, isBlank c = false)
    (split : List Char × List (List Char)) :
    word.foldr wordStep split = (word ++ split.1, split.2) := by
  induction word with
  | nil => rfl
  | cons c rest ih =>
    obtain ⟨hc, hrest⟩ := List.forall_mem_cons.mp h
    rw [List.foldr_cons, ih hrest, wordStep, if_neg (by simp [hc])]
    rfl

theorem words_append_of_word {word rest : List Char} (hword : IsWord word)
    (hends : rest.head?.all isBlank = true) : words (word ++ rest) = word :: words rest := by
  have hfirst := fst_foldr_wordStep hends
  simp only [words, List.foldr_append, foldr_wordStep_word hword.no_blank, hfirst,
    List.append_nil, List.isEmpty_iff, hword.ne_nil, if_false, if_true]

theorem HasWords.words_eq {s : List Char} {found : List (List Char)} (h : HasWords s found) :
    words s = found := by
  induction h with
  | blanks h =>
    have hblanks := words_append_of_blank h []
    rwa [List.append_nil] at hblanks
  | word hlead hword hends hrest ih =>
    rw [words_append_of_blank hlead, words_append_of_word hword hends, ih]

theorem HasWords.cons_blank {c : Char} {s : List Char} {found : List (List Char)}
    (hc : isBlank c = true) (h : HasWords s found) : HasWords (c :: s) found := by
  cases h with
  | blanks hs => exact .blanks (List.forall_mem_cons.mpr ⟨hc, hs⟩)
  | word hlead hword hends hrest =>
    exact .word (List.forall_mem_cons.mpr ⟨hc, hlead⟩) hword hends hrest

theorem IsWord.singleton {c : Char} (hc : isBlank c = false) : IsWord [c] :=
  ⟨List.cons_ne_nil c [], List.forall_mem_singleton.mpr hc⟩

theorem IsWord.cons {c : Char} {word : List Char} (hc : isBlank c = false) (hword : IsWord word) :
    IsWord (c :: word) :=
  ⟨List.cons_ne_nil c word, List.forall_mem_cons.mpr ⟨hc, hword.no_blank⟩⟩

/-- A text that begins with a character of a word begins with a word. -/
theorem HasWords.exists_word {c : Char} {s : List Char} {found : List (List Char)}
    (hc : isBlank c = false) (h : HasWords (c :: s) found) :
    ∃ word rest words, IsWord word ∧ c :: s = word ++ rest ∧ found = word :: words ∧
      rest.head?.all isBlank = true ∧ HasWords rest words := by
  generalize hs : c :: s = text at h
  cases h with
  | blanks hblanks =>
    have hblank := hblanks c (hs ▸ List.mem_cons_self)
    rw [hc] at hblank
    cases hblank
  | @word lead word rest words hlead hword hends hrest =>
    cases lead with
    | nil => exact ⟨word, rest, words, hword, rfl, rfl, hends, hrest⟩
    | cons first lead =>
      obtain ⟨rfl, -⟩ := List.cons.inj hs
      rw [hlead c List.mem_cons_self] at hc
      cases hc

theorem exists_hasWords (s : List Char) : ∃ found, HasWords s found := by
  induction s with
  | nil => exact ⟨[], .blanks (List.forall_mem_nil _)⟩
  | cons c s ih =>
    obtain ⟨found, h⟩ := ih
    by_cases hc : isBlank c = true
    · exact ⟨found, h.cons_blank hc⟩
    rw [Bool.not_eq_true] at hc
    -- The character is a word of its own or it belongs to the word behind it.
    by_cases hends : s.head?.all isBlank = true
    · exact ⟨[c] :: found, .word (List.forall_mem_nil _) (.singleton hc) hends h⟩
    · cases s with
      | nil => exact absurd rfl hends
      | cons next s =>
        have hnext : isBlank next = false := by simpa using hends
        obtain ⟨word, rest, words, hword, hs, rfl, hends, hrest⟩ := h.exists_word hnext
        rw [hs]
        exact ⟨(c :: word) :: words, .word (List.forall_mem_nil _) (hword.cons hc) hends hrest⟩

/-- A text is made of the words that are found in it, and of no others. -/
theorem words_eq_iff {s : List Char} {found : List (List Char)} :
    words s = found ↔ HasWords s found := by
  refine ⟨fun h => ?_, HasWords.words_eq⟩
  obtain ⟨made, hmade⟩ := exists_hasWords s
  rwa [← h, hmade.words_eq]

/-- The words of a text hold what is not blank in it. -/
theorem HasWords.flatten_eq {s : List Char} {found : List (List Char)} (h : HasWords s found) :
    found.flatten = s.filter fun c => !isBlank c := by
  have hnone : ∀ {blanks : List Char}, (∀ c ∈ blanks, isBlank c = true) →
      blanks.filter (fun c => !isBlank c) = [] := fun hblanks =>
    List.filter_eq_nil_iff.mpr fun c hc => by simp [hblanks c hc]
  induction h with
  | blanks h => rw [hnone h, List.flatten_nil]
  | word hlead hword hends hrest ih =>
    rw [List.filter_append, List.filter_append, hnone hlead, ← ih, List.flatten_cons,
      List.filter_eq_self.mpr fun c hc => by simp [hword.no_blank c hc], List.nil_append]

/-- Blanks at the ends of a text are no part of its words. -/
theorem words_trim (s : List Char) : words (trim s) = words s := by
  obtain ⟨lead, hlead, hstart⟩ := exists_blanks_append s
  obtain ⟨trail, htrail, hend⟩ := exists_append_blanks (trimStart s)
  calc words (trim s)
    _ = words (trim s ++ trail) := (words_append_right_of_blank htrail (trim s)).symm
    _ = words (trimStart s) := by rw [trim, ← hend]
    _ = words (lead ++ trimStart s) := (words_append_of_blank hlead _).symm
    _ = words s := by rw [← hstart]

end PageRecipe.Text
