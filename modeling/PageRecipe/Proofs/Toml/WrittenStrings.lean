import Mathlib.Data.List.TakeWhile
import PageRecipe.Toml.Text

/-!
# Strings that were written are read back

A text is written in one of four forms, and in double quotes its characters may be escaped. Every
character is written in one of four ways, whatever the form is (`writeChar_cases`), and each of
them is read back as the character.

Over several lines the quotes in a text are the difficulty. A reader takes a whole run of them at
once (`TakesQuotes`), so what is shown goes by the quotes that stand in front : at most two of
them belong to the text, and three more close it (`readsOff_multilineBasic`,
`readsOff_multilineLiteral`). In single quotes nothing can be escaped, and there are no more than
two in a row because another form is chosen otherwise (`Form.choose_spec`).

A reader gets every text back, and stops where the text ends, unless a quote follows
(`readString_write`).
-/

namespace PageRecipe.Toml

/-! ## Reading with enough fuel -/

/-- With enough fuel a text is read off the front of another one. -/
def ReadsOff (read : Nat → List Char → Result (List Char)) (s text rest : List Char) : Prop :=
  ∀ fuel, s.length < fuel → read fuel s = .ok (text, rest)

/-- A step of reading that takes something off and goes on. -/
theorem ReadsOff.step {read : Nat → List Char → Result (List Char)}
    {s ahead text more rest : List Char} (h : ReadsOff read ahead more rest)
    (hlength : ahead.length < s.length)
    (hstep : ∀ fuel, read (fuel + 1) s =
      (read fuel ahead).map fun (more, rest) => (text ++ more, rest)) :
    ReadsOff read s (text ++ more) rest := by
  intro fuel hfuel
  cases fuel with
  | zero => cases hfuel
  | succ fuel => rw [hstep, h fuel (by omega)]; rfl

/-! ## Characters as they are written -/

/-- How a character is written behind some quotes. -/
inductive IsWritten (isMultiline : Bool) (quotesBefore : Nat) : Char → List Char → Prop where
  | quote (hmultiline : isMultiline = true) (hquotes : quotesBefore < 2) :
      IsWritten isMultiline quotesBefore '"' ['"']
  | lineBreak (hmultiline : isMultiline = true) :
      IsWritten isMultiline quotesBefore '\n' ['\n']
  | plain {c : Char} (hbasic : isBasicChar c = true) : IsWritten isMultiline quotesBefore c [c]
  /-- An escape is read as the character, and takes no line break away. -/
  | escaped {c : Char} {code : List Char} (hread : ∀ t, readEscape (code ++ t) = .ok (c, t))
      (hbreak : ∀ t, escapedBreak? (code ++ t) = none) :
      IsWritten isMultiline quotesBefore c ('\\' :: code)

/-- Four digits are the code of a small number. -/
theorem hexCode_of_lt : ∀ n < 128, (hexCode n).length = 4 ∧
    ((hexCode n).all fun d => (digitValue? d).isSome) = true ∧
      natOfDigits? 16 (hexCode n) = some n := by
  decide +kernel

theorem readCode_hexCode {c : Char} (h : c.toNat < 128) (t : List Char) :
    readCode 4 (hexCode c.toNat ++ t) = .ok (c, t) := by
  obtain ⟨hlength, hdigits, hvalue⟩ := hexCode_of_lt c.toNat h
  have htake : ((hexCode c.toNat ++ t).take 4).takeWhile (fun d => (digitValue? d).isSome) =
      hexCode c.toNat := by
    rw [List.take_left' hlength]
    exact List.takeWhile_eq_self_iff.mpr (List.all_eq_true.mp hdigits)
  have hvalid : c.toNat.isValidChar := c.valid
  simp only [readCode, htake, hlength, hvalue, Nat.lt_irrefl, if_false, hvalid, if_true,
    List.drop_left' hlength, Char.ofNat_toNat]

theorem readEscape_hexCode {c : Char} (h : c.toNat < 128) (t : List Char) :
    readEscape ('u' :: hexCode c.toNat ++ t) = .ok (c, t) := by
  rw [List.cons_append, readEscape, readCode_hexCode h]
  rfl

theorem toNat_lt_of_isControl {c : Char} (h : isControl c = true) : c.toNat < 128 := by
  simp only [isControl, Bool.and_eq_true, Bool.or_eq_true, decide_eq_true_eq, beq_iff_eq] at h
  omega

theorem writeChar_cases (isMultiline : Bool) (quotesBefore : Nat) (c : Char) :
    IsWritten isMultiline quotesBefore c (writeChar isMultiline quotesBefore c) := by
  rw [writeChar]
  split_ifs with hquote hraw hbreak hmultiline hbell htab hfeed hreturn hback hcontrol
  · subst hquote
    rw [Bool.and_eq_true, decide_eq_true_eq] at hraw
    exact .quote hraw.1 hraw.2
  · subst hquote
    exact .escaped (fun _ => rfl) fun _ => rfl
  · subst hbreak
    exact .lineBreak hmultiline
  · subst hbreak
    exact .escaped (fun _ => rfl) fun _ => rfl
  · subst hbell
    exact .escaped (fun _ => rfl) fun _ => rfl
  · subst htab
    exact .escaped (fun _ => rfl) fun _ => rfl
  · subst hfeed
    exact .escaped (fun _ => rfl) fun _ => rfl
  · subst hreturn
    exact .escaped (fun _ => rfl) fun _ => rfl
  · subst hback
    exact .escaped (fun _ => rfl) fun _ => rfl
  · exact .escaped (readEscape_hexCode (toNat_lt_of_isControl hcontrol)) fun _ => rfl
  · exact .plain (by simp [isBasicChar, hquote, hback, hcontrol])

/-- The first character of a text is written in front of the others. -/
theorem exists_writeChars_eq_append (isMultiline : Bool) (quotesBefore : Nat) (c : Char)
    (s : List Char) : ∃ written, writeChars isMultiline quotesBefore (c :: s) =
      written ++ writeChars isMultiline (if written = ['"'] then quotesBefore + 1 else 0) s ∧
        IsWritten isMultiline quotesBefore c written :=
  ⟨_, rfl, writeChar_cases isMultiline quotesBefore c⟩

theorem ne_of_isBasicChar {c : Char} (h : isBasicChar c = true) :
    c ≠ '"' ∧ c ≠ '\\' ∧ c ≠ '\n' ∧ c ≠ '\r' := by
  refine ⟨?_, ?_, ?_, ?_⟩ <;> rintro rfl <;> exact absurd h (by decide)

theorem ne_of_isLiteralChar {c : Char} (h : isLiteralChar c = true) :
    c ≠ '\'' ∧ c ≠ '\n' ∧ c ≠ '\r' := by
  refine ⟨?_, ?_, ?_⟩ <;> rintro rfl <;> exact absurd h (by decide)

theorem newline?_of_ne {c : Char} (hbreak : c ≠ '\n') (hreturn : c ≠ '\r') (ahead : List Char) :
    newline? (c :: ahead) = none := by
  rw [newline?]
  · simp [hbreak]
  · simp [hreturn]

/-! ## In double quotes on one line -/

theorem readBasic_plain {c : Char} (h : isBasicChar c = true) (fuel : Nat) (ahead : List Char) :
    readBasic (fuel + 1) (c :: ahead) =
      (readBasic fuel ahead).map fun (more, rest) => ([c] ++ more, rest) := by
  obtain ⟨hquote, hback, -, -⟩ := ne_of_isBasicChar h
  rw [readBasic, if_pos h]
  · rfl
  · exact fun hc => hquote hc
  · exact fun hc => hback hc

theorem readBasic_escaped {c : Char} {code ahead : List Char}
    (h : readEscape (code ++ ahead) = .ok (c, ahead)) (fuel : Nat) :
    readBasic (fuel + 1) ('\\' :: code ++ ahead) =
      (readBasic fuel ahead).map fun (more, rest) => ([c] ++ more, rest) := by
  rw [List.cons_append, readBasic, h]
  rfl

theorem readsOff_basic (s t : List Char) (quotesBefore : Nat) :
    ReadsOff readBasic (writeChars false quotesBefore s ++ '"' :: t) s t := by
  induction s generalizing quotesBefore with
  | nil =>
    intro fuel hfuel
    cases fuel with
    | zero => cases hfuel
    | succ fuel => rfl
  | cons c s ih =>
    obtain ⟨written, hchars, hwritten⟩ := exists_writeChars_eq_append false quotesBefore c s
    rw [hchars, List.append_assoc]
    cases hwritten with
    | quote hmultiline => cases hmultiline
    | lineBreak hmultiline => cases hmultiline
    | plain hbasic => exact (ih _).step (by simp) (readBasic_plain hbasic · _)
    | escaped hread =>
      refine (ih _).step ?_ (readBasic_escaped (hread _))
      simp only [List.cons_append, List.length_cons, List.length_append]
      omega

/-! ## Quotes on several lines -/

theorem quoteCount_replicate_append {quote : Char} {s : List Char} (hs : s.head? ≠ some quote)
    (count : Nat) : quoteCount quote (List.replicate count quote ++ s) = count := by
  have hnone : s.takeWhile (· == quote) = [] := by
    cases s with
    | nil => rfl
    | cons c s => exact List.takeWhile_cons_of_neg (by simpa using hs)
  rw [quoteCount, List.takeWhile_append_of_pos (by simp [List.mem_replicate]), hnone,
    List.append_nil, List.length_replicate]

/-- At most two quotes do not close a text. -/
theorem closingQuotes_of_le {quote : Char} {count : Nat} (h : count ≤ 2) :
    closingQuotes quote count = (List.replicate count quote, false) :=
  if_pos (by omega)

/-- Three quotes behind them do. -/
theorem closingQuotes_add_three {quote : Char} {count : Nat} (h : count ≤ 2) :
    closingQuotes quote (count + 3) = (List.replicate count quote, true) := by
  rw [closingQuotes, if_neg (by omega), Nat.min_eq_left (by omega), Nat.add_sub_cancel]

/-- A reader takes all quotes in front of a text at once. -/
def TakesQuotes (read : Nat → List Char → Result (List Char)) (quote : Char)
    (allowed : Char → Bool) : Prop :=
  ∀ (fuel count : Nat) (rest : List Char), rest.head? ≠ some quote →
    let s := List.replicate (count + 1) quote ++ rest
    read (fuel + 1) s =
      let (text, closes) := closingQuotes quote (count + 1)
      if closes then .ok (text, s.drop (text.length + 3))
      else if goesOn allowed rest then
        (read fuel rest).map fun (more, rest) => (text ++ more, rest)
      else .error (Fault.here s).final

section Quotes

variable {read : Nat → List Char → Result (List Char)} {quote : Char} {allowed : Char → Bool}
  {count : Nat}

/-- Quotes that close nothing belong to the text. -/
theorem TakesQuotes.readsOff (hread : TakesQuotes read quote allowed)
    {ahead more rest : List Char} (h : ReadsOff read ahead more rest) (hcount : count ≤ 2)
    (hahead : ahead.head? ≠ some quote) (hgoesOn : goesOn allowed ahead = true) :
    ReadsOff read (List.replicate count quote ++ ahead) (List.replicate count quote ++ more)
      rest := by
  cases count with
  | zero => exact h
  | succ count =>
    refine h.step (by simp) fun fuel => ?_
    rw [hread fuel count ahead hahead, closingQuotes_of_le hcount]
    simp only [Bool.false_eq_true, if_false, hgoesOn, if_true]

theorem TakesQuotes.readsOff_closing (hread : TakesQuotes read quote allowed)
    {rest : List Char} (hrest : rest.head? ≠ some quote) (hcount : count ≤ 2) :
    ReadsOff read (List.replicate count quote ++ (quote :: quote :: quote :: rest))
      (List.replicate count quote) rest := by
  intro fuel hfuel
  cases fuel with
  | zero => cases hfuel
  | succ fuel =>
    have hquotes : List.replicate count quote ++ (quote :: quote :: quote :: rest) =
        List.replicate (count + 2 + 1) quote ++ rest := by
      rw [Nat.add_assoc, ← List.replicate_append_replicate, List.append_assoc]
      rfl
    rw [hquotes, hread fuel (count + 2) rest hrest, closingQuotes_add_three hcount]
    simp only [if_true, List.length_replicate]
    rw [List.drop_left' List.length_replicate]

end Quotes

section MultilineBasic

theorem readMultilineBasic_plain {c : Char} (h : isBasicChar c = true) (fuel : Nat)
    (ahead : List Char) : readMultilineBasic (fuel + 1) (c :: ahead) =
      (readMultilineBasic fuel ahead).map fun (more, rest) => ([c] ++ more, rest) := by
  obtain ⟨hquote, hback, hbreak, hreturn⟩ := ne_of_isBasicChar h
  simp [readMultilineBasic, hquote, hback, newline?_of_ne hbreak hreturn, h]

theorem readMultilineBasic_lineBreak (fuel : Nat) (ahead : List Char) :
    readMultilineBasic (fuel + 1) ('\n' :: ahead) =
      (readMultilineBasic fuel ahead).map fun (more, rest) => (['\n'] ++ more, rest) := rfl

theorem readMultilineBasic_escaped {c : Char} {code ahead : List Char}
    (h : readEscape (code ++ ahead) = .ok (c, ahead))
    (hbreak : escapedBreak? (code ++ ahead) = none) (fuel : Nat) :
    readMultilineBasic (fuel + 1) ('\\' :: code ++ ahead) =
      (readMultilineBasic fuel ahead).map fun (more, rest) => ([c] ++ more, rest) := by
  simp [readMultilineBasic, h, hbreak]

theorem takesQuotes_readMultilineBasic :
    TakesQuotes readMultilineBasic '"' (fun c => isBasicChar c || c == '\\') := by
  intro fuel count rest hrest
  have hquotes := quoteCount_replicate_append hrest (count + 1)
  have hdrop : (List.replicate (count + 1) '"' ++ rest).drop (count + 1) = rest :=
    List.drop_left' List.length_replicate
  rw [List.replicate_succ, List.cons_append] at *
  simp [readMultilineBasic, hquotes, hdrop]

/-- What was written is read back, with up to two quotes in front of it. -/
theorem readsOff_multilineBasic {t : List Char} (ht : t.head? ≠ some '"') (s : List Char)
    {count : Nat} (hcount : count ≤ 2) :
    ReadsOff readMultilineBasic
      (List.replicate count '"' ++ (writeChars true count s ++ ('"' :: '"' :: '"' :: t)))
      (List.replicate count '"' ++ s) t := by
  induction s generalizing count with
  | nil =>
    rw [List.append_nil]
    exact takesQuotes_readMultilineBasic.readsOff_closing ht hcount
  | cons c s ih =>
    obtain ⟨written, hchars, hwritten⟩ := exists_writeChars_eq_append true count c s
    rw [hchars, List.append_assoc]
    cases hwritten with
    | quote hmultiline hquotes =>
      -- It joins the quotes in front, which are read with what follows.
      have hquote := ih (show count + 1 ≤ 2 by omega)
      rw [List.replicate_succ', List.append_assoc, List.append_assoc] at hquote
      exact hquote
    | lineBreak hmultiline =>
      have hbreak := (ih (Nat.zero_le 2)).step (by simp) (readMultilineBasic_lineBreak · _)
      exact takesQuotes_readMultilineBasic.readsOff hbreak hcount (by simp) rfl
    | plain hbasic =>
      have hplain := (ih (Nat.zero_le 2)).step (by simp) (readMultilineBasic_plain hbasic · _)
      have hquote := (ne_of_isBasicChar hbasic).1
      rw [if_neg (by simpa using hquote)]
      exact takesQuotes_readMultilineBasic.readsOff hplain hcount (by simpa using hquote)
        (by simp [goesOn, hbasic])
    | escaped hread hbreak =>
      refine takesQuotes_readMultilineBasic.readsOff
        ((ih (Nat.zero_le 2)).step ?_ (readMultilineBasic_escaped (hread _) (hbreak _)))
        hcount (by simp) rfl
      simp only [List.cons_append, List.length_cons, List.length_append]
      omega

end MultilineBasic

section MultilineLiteral

/-- The longest run is no shorter than the runs that were seen. -/
theorem Form.le_longestRun (c : Char) (s : List Char) (current longest : Nat) :
    current ≤ longestRun c current longest s ∧ longest ≤ longestRun c current longest s := by
  induction s generalizing current longest with
  | nil => exact ⟨le_max_left .., le_max_right ..⟩
  | cons d s ih =>
    rw [longestRun]
    split
    · exact ⟨(Nat.le_succ _).trans (ih _ _).1, (ih _ _).2⟩
    · exact Nat.max_le.mp (ih _ _).2

theorem readMultilineLiteral_char {c : Char} (h : isLiteralChar c = true) (fuel : Nat)
    (ahead : List Char) : readMultilineLiteral (fuel + 1) (c :: ahead) =
      (readMultilineLiteral fuel ahead).map fun (more, rest) => ([c] ++ more, rest) := by
  obtain ⟨hquote, hbreak, hreturn⟩ := ne_of_isLiteralChar h
  simp [readMultilineLiteral, hquote, newline?_of_ne hbreak hreturn, h]

theorem readMultilineLiteral_lineBreak (fuel : Nat) (ahead : List Char) :
    readMultilineLiteral (fuel + 1) ('\n' :: ahead) =
      (readMultilineLiteral fuel ahead).map fun (more, rest) => (['\n'] ++ more, rest) := rfl

theorem takesQuotes_readMultilineLiteral :
    TakesQuotes readMultilineLiteral '\'' isLiteralChar := by
  intro fuel count rest hrest
  have hquotes := quoteCount_replicate_append hrest (count + 1)
  have hdrop : (List.replicate (count + 1) '\'' ++ rest).drop (count + 1) = rest :=
    List.drop_left' List.length_replicate
  rw [List.replicate_succ, List.cons_append] at *
  simp [readMultilineLiteral, hquotes, hdrop]

/-- A text with at most two quotes in a row is read as it stands, quotes in front of it
included. -/
theorem readsOff_multilineLiteral {t : List Char} (ht : t.head? ≠ some '\'') (s : List Char)
    {count longest : Nat} (hrun : Form.longestRun '\'' count longest s ≤ 2)
    (hchars : ∀ c ∈ s, c = '\n' ∨ isControl c = false) :
    ReadsOff readMultilineLiteral
      (List.replicate count '\'' ++ (s ++ ('\'' :: '\'' :: '\'' :: t)))
      (List.replicate count '\'' ++ s) t := by
  induction s generalizing count longest with
  | nil =>
    rw [List.append_nil]
    exact takesQuotes_readMultilineLiteral.readsOff_closing ht
      ((Form.le_longestRun _ [] _ _).1.trans hrun)
  | cons c s ih =>
    have hcount : count ≤ 2 := (Form.le_longestRun _ _ _ _).1.trans hrun
    rw [Form.longestRun] at hrun
    rw [List.forall_mem_cons] at hchars
    split at hrun
    next hquote =>
      -- It joins the quotes in front, as in double quotes.
      obtain rfl := eq_of_beq hquote
      have hquote := ih hrun hchars.2
      rwa [List.replicate_succ', List.append_assoc, List.append_assoc] at hquote
    next hquote =>
      have hquote : c ≠ '\'' := by simpa using hquote
      have hrest := ih hrun hchars.2
      rcases hchars.1 with rfl | hcontrol
      · have hbreak := hrest.step (by simp) (readMultilineLiteral_lineBreak · _)
        exact takesQuotes_readMultilineLiteral.readsOff hbreak hcount (by simp) rfl
      · have hliteral : isLiteralChar c = true := by simp [isLiteralChar, hcontrol, hquote]
        have hchar := hrest.step (by simp) (readMultilineLiteral_char hliteral · _)
        exact takesQuotes_readMultilineLiteral.readsOff hchar hcount (by simpa using hquote)
          (by simp [goesOn, hliteral])

end MultilineLiteral

/-! ## The form that is chosen -/

namespace Form

theorem not_mem_of_longestRun {c : Char} {s : List Char} {current longest : Nat}
    (h : longestRun c current longest s = 0) : c ∉ s := by
  induction s generalizing current longest with
  | nil => exact List.not_mem_nil
  | cons d s ih =>
    rw [longestRun] at h
    split at h
    next hquote =>
      have hpos := (le_longestRun c s (current + 1) longest).1
      omega
    next hquote =>
      rw [List.mem_cons, not_or]
      exact ⟨fun hcd => hquote (beq_iff_eq.mpr hcd.symm), ih h⟩

/-- What is known about a text that is written in single quotes. -/
theorem choose_spec (s : List Char) :
    match choose s with
    | basic | multilineBasic => True
    | literal => s ≠ [] ∧ ∀ c ∈ s, isLiteralChar c = true
    | multilineLiteral =>
      longestRun '\'' 0 0 s ≤ 2 ∧ ∀ c ∈ s, c = '\n' ∨ isControl c = false := by
  have hcontrol (h : (!s.any fun c => c != '\n' && isControl c) = true) :
      ∀ c ∈ s, c = '\n' ∨ isControl c = false := by
    simpa [or_iff_not_imp_left] using h
  rw [choose]
  split_ifs with hbasic hliteral hmultiline hlines hbreaks
  · trivial
  · simp only [Bool.and_eq_true, beq_iff_eq] at hliteral
    obtain ⟨⟨hcontrols, hsingles⟩, hbreaks⟩ := hliteral
    have hnobreak : '\n' ∉ s := by simpa using hbreaks
    -- The empty text would have been written in double quotes.
    refine ⟨fun hs => hbasic (hs ▸ rfl), fun c hc => ?_⟩
    have hquote : c ≠ '\'' := fun h => not_mem_of_longestRun hsingles (h ▸ hc)
    obtain rfl | hnone := hcontrol hcontrols c hc
    · exact absurd hc hnobreak
    · simp [isLiteralChar, hnone, hquote]
  · trivial
  · rw [Bool.and_eq_true, decide_eq_true_eq] at hlines
    exact ⟨hlines.2, hcontrol hlines.1⟩
  · trivial
  · trivial

end Form

/-! ## Strings of every form -/

/-- The text behind a string does not start with a quote of either kind. -/
def NoQuote (t : List Char) : Prop := t.head? ≠ some '"' ∧ t.head? ≠ some '\''

section

variable {s t : List Char}

/-- A string that does not start with three quotes is read on one line. -/
theorem readString_of_oneLine {w : List Char}
    (h : ∀ quote rest, w ≠ quote :: quote :: quote :: rest) : readString w = readLineString w := by
  rw [readString]
  · exact fun rest hw => h '"' rest hw
  · exact fun rest hw => h '\'' rest hw

/-- In double quotes on one line no quote of the text stands for itself. -/
theorem head?_writeChars (hne : s ≠ []) (t : List Char) :
    (writeChars false 0 s ++ t).head? ≠ some '"' := by
  cases s with
  | nil => exact absurd rfl hne
  | cons c s =>
    obtain ⟨written, hchars, hwritten⟩ := exists_writeChars_eq_append false 0 c s
    rw [hchars, List.append_assoc]
    cases hwritten with
    | quote hmultiline => cases hmultiline
    | lineBreak hmultiline => cases hmultiline
    | plain hbasic => simpa using (ne_of_isBasicChar hbasic).1
    | escaped => simp

theorem readString_basic (ht : NoQuote t) : readString (writeIn .basic s ++ t) = .ok (s, t) := by
  have hwrite : writeIn .basic s ++ t = '"' :: (writeChars false 0 s ++ '"' :: t) := by
    simp [writeIn, Form.isMultiline, Form.quotes]
  have hline (quote : Char) (rest : List Char) :
      '"' :: (writeChars false 0 s ++ '"' :: t) ≠ quote :: quote :: quote :: rest := by
    intro hthree
    obtain ⟨rfl, hthree⟩ := List.cons.inj hthree
    -- Two quotes are the empty string, and no third one follows it.
    by_cases hne : s = []
    · subst hne
      exact ht.1 (congrArg List.head? (List.cons.inj hthree).2)
    · exact head?_writeChars hne _ (congrArg List.head? hthree)
  rw [hwrite, readString_of_oneLine hline, readLineString,
    readsOff_basic s t 0 _ (Nat.lt_succ_self _)]
  rfl

theorem readString_literal (hne : s ≠ []) (hs : ∀ c ∈ s, isLiteralChar c = true) :
    readString (writeIn .literal s ++ t) = .ok (s, t) := by
  have hwrite : writeIn .literal s ++ t = '\'' :: (s ++ '\'' :: t) := by
    simp [writeIn, Form.isMultiline, Form.quotes]
  have hline (quote : Char) (rest : List Char) :
      '\'' :: (s ++ '\'' :: t) ≠ quote :: quote :: quote :: rest := by
    intro hthree
    obtain ⟨rfl, hthree⟩ := List.cons.inj hthree
    obtain ⟨c, s, rfl⟩ := List.exists_cons_of_ne_nil hne
    exact (ne_of_isLiteralChar (hs c List.mem_cons_self)).1 (List.cons.inj hthree).1
  have hread : readLiteral (s ++ '\'' :: t) = .ok (s, t) := by
    have htext : (s ++ '\'' :: t).takeWhile isLiteralChar = s := by
      rw [List.takeWhile_append_of_pos hs, List.takeWhile_cons_of_neg (by decide), List.append_nil]
    have hrest : (s ++ '\'' :: t).dropWhile isLiteralChar = '\'' :: t := by
      rw [List.dropWhile_append_of_pos hs, List.dropWhile_cons_of_neg (by decide)]
    simp only [readLiteral, hrest, htext]
  rw [hwrite, readString_of_oneLine hline, readLineString, hread]
  rfl

/-- A line break that only opens the string is skipped, and none is skipped that belongs to the
text. -/
theorem ReadsOff.opened {read : Nat → List Char → Result (List Char)} {body text rest : List Char}
    (h : ReadsOff read body text rest) (hasBreaks : Bool)
    (hbody : hasBreaks = false → newline? body = none) :
    let opened := (if hasBreaks then ['\n'] else []) ++ body
    read (opened.length + 1) (skipNewline opened) = .ok (text, rest) := by
  intro opened
  have hskip : skipNewline opened = body := by
    cases hasBreaks with
    | true => rfl
    | false => exact congrArg (Option.getD · body) (hbody rfl)
  have hlength : body.length ≤ opened.length := by simp [opened]
  rw [hskip]
  exact h _ (Nat.lt_succ_of_le hlength)

theorem newline?_writeChars (h : s.contains '\n' = false) (t : List Char) :
    newline? (writeChars true 0 s ++ '"' :: t) = none := by
  cases s with
  | nil => rfl
  | cons c s =>
    obtain ⟨written, hchars, hwritten⟩ := exists_writeChars_eq_append true 0 c s
    rw [hchars, List.append_assoc]
    cases hwritten with
    | quote => rfl
    | lineBreak => simp at h
    | plain hbasic =>
      obtain ⟨-, -, hbreak, hreturn⟩ := ne_of_isBasicChar hbasic
      exact newline?_of_ne hbreak hreturn _
    | escaped => rfl

theorem readString_multilineBasic (ht : NoQuote t) :
    readString (writeIn .multilineBasic s ++ t) = .ok (s, t) := by
  have hread := (readsOff_multilineBasic ht.1 s (Nat.zero_le 2)).opened (s.contains '\n')
    fun hbreaks => newline?_writeChars hbreaks _
  simp only [List.replicate_zero, List.nil_append] at hread
  simp only [writeIn, Form.isMultiline, Form.quotes, Bool.true_and, List.append_assoc,
    List.cons_append, List.nil_append, readString, hread]
  rfl

theorem newline?_text (h : s.contains '\n' = false)
    (hchars : ∀ c ∈ s, c = '\n' ∨ isControl c = false) (t : List Char) :
    newline? (s ++ '\'' :: t) = none := by
  cases s with
  | nil => rfl
  | cons c s =>
    rw [List.contains_cons, Bool.or_eq_false_iff, beq_eq_false_iff_ne] at h
    refine newline?_of_ne h.1.symm ?_ _
    rintro rfl
    exact absurd (hchars '\r' List.mem_cons_self) (by decide)

theorem readString_multilineLiteral (ht : NoQuote t) (hrun : Form.longestRun '\'' 0 0 s ≤ 2)
    (hchars : ∀ c ∈ s, c = '\n' ∨ isControl c = false) :
    readString (writeIn .multilineLiteral s ++ t) = .ok (s, t) := by
  have hread := (readsOff_multilineLiteral ht.2 s hrun hchars).opened (s.contains '\n')
    fun hbreaks => newline?_text hbreaks hchars _
  simp only [List.replicate_zero, List.nil_append] at hread
  simp only [writeIn, Form.isMultiline, Form.quotes, Bool.true_and, List.append_assoc,
    List.cons_append, List.nil_append, readString, hread]
  rfl

/-- Every text is read back from the string that is written for it. -/
theorem readString_write (s : List Char) (ht : NoQuote t) :
    readString (write s ++ t) = .ok (s, t) := by
  have hspec := Form.choose_spec s
  rw [write]
  cases hform : Form.choose s with
  | basic => exact readString_basic ht
  | literal =>
    rw [hform] at hspec
    exact readString_literal hspec.1 hspec.2
  | multilineBasic => exact readString_multilineBasic ht
  | multilineLiteral =>
    rw [hform] at hspec
    exact readString_multilineLiteral ht hspec.1 hspec.2

/-- A text with quotes of both kinds takes three quotes, and one of its own may stand in front of
them. -/
example : write "it's \"so\"".toList = "\"\"\"it's \"so\"\"\"\"".toList := by decide

end

end PageRecipe.Toml
