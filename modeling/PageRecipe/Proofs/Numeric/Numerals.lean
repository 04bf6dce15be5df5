import PageRecipe.Numeric.Literal

/-!
# Numerals

The grammar of the texts that are read as numbers : `IsInteger` for integers and `IsNumeral` for
decimal numbers with their names of what is not finite. The readers accept exactly these texts
(`isSome_intOfText?_iff`, `isSome_ofText?_iff`), and an integer that is written in decimal is
read back as itself (`intOfText?_toString`). What a number is written with is letters, digits,
a point and a sign (`isNumeralChar_of_mem_toPositional`).
-/

namespace PageRecipe

/-! ## The grammar -/

/-- A sign, or none. -/
def IsSign (s : List Char) : Prop := s = [] ∨ s = ['+'] ∨ s = ['-']

/-- Digits, at least one. -/
def AreDigits (s : List Char) : Prop := s ≠ [] ∧ ∀ c ∈ s, c.isDigit = true

/-- Digits behind a sign. -/
def IsInteger (s : List Char) : Prop :=
  ∃ sign digits, IsSign sign ∧ AreDigits digits ∧ s = sign ++ digits

/-- An exponent, or none. -/
inductive IsExponent : List Char → Prop where
  | absent : IsExponent []
  | power {letter : Char} {power : List Char} (hletter : letter = 'e' ∨ letter = 'E')
      (hpower : IsInteger power) : IsExponent (letter :: power)

/-- A number without a sign : digits with a point among them or not, and an exponent. -/
inductive IsDecimal : List Char → Prop where
  | whole {digits exponent : List Char} (hdigits : AreDigits digits)
      (hexponent : IsExponent exponent) : IsDecimal (digits ++ exponent)
  | point {whole fraction exponent : List Char} (hdigits : AreDigits (whole ++ fraction))
      (hexponent : IsExponent exponent) : IsDecimal (whole ++ '.' :: (fraction ++ exponent))

/-- A name of what is not finite, in any case. -/
def IsNotFinite (s : List Char) : Prop :=
  String.ofList (s.map Char.toLower) ∈ ["inf", "infinity", "nan"]

/-- A number behind a sign. -/
def IsNumeral (s : List Char) : Prop :=
  ∃ sign body, IsSign sign ∧ (IsNotFinite body ∨ IsDecimal body) ∧ s = sign ++ body

/-! ## Digits -/

theorem digitIn?_of_isDigit {c : Char} (h : c.isDigit = true) :
    digitIn? 10 c = some (c.toNat - '0'.toNat) := by
  have hle : c.toNat ≤ 57 := by
    simp only [Char.isDigit, Bool.and_eq_true, decide_eq_true_eq] at h
    exact h.2
  have hlt : c.toNat - '0'.toNat < 10 := by
    have : '0'.toNat = 48 := rfl
    omega
  rw [digitIn?, digitValue?, if_pos h, Option.filter_some, if_pos (decide_eq_true hlt)]

/-- A letter is no digit in base ten. -/
theorem digitIn?_of_not_isDigit {c : Char} (h : ¬c.isDigit = true) : digitIn? 10 c = none := by
  rw [digitIn?, digitValue?, if_neg h]
  split
  · exact Option.filter_eq_none_iff.mpr fun n hn => by simp at hn; simp; omega
  · split
    · exact Option.filter_eq_none_iff.mpr fun n hn => by simp at hn; simp; omega
    · rfl

theorem foldlM_digits {s : List Char} (h : ∀ c ∈ s, c.isDigit = true) (start : Nat) :
    s.foldlM (fun n c => (digitIn? 10 c).map (10 * n + ·)) start =
      some (Nat.ofDigitChars 10 s start) := by
  induction s generalizing start with
  | nil => rfl
  | cons c rest ih =>
    obtain ⟨hc, hrest⟩ := List.forall_mem_cons.mp h
    rw [List.foldlM_cons, digitIn?_of_isDigit hc]
    exact ih hrest _

theorem isDigit_of_foldlM {s : List Char} {start n : Nat}
    (h : s.foldlM (fun n c => (digitIn? 10 c).map (10 * n + ·)) start = some n) :
    ∀ c ∈ s, c.isDigit = true := by
  induction s generalizing start with
  | nil => exact fun c hc => absurd hc List.not_mem_nil
  | cons c rest ih =>
    rw [List.foldlM_cons] at h
    by_cases hc : c.isDigit = true
    · rw [digitIn?_of_isDigit hc] at h
      exact List.forall_mem_cons.mpr ⟨hc, ih h⟩
    · rw [digitIn?_of_not_isDigit hc] at h
      cases h

/-- Digits are read as the number that they write. -/
theorem natOfDigits?_eq_some_iff {s : List Char} {n : Nat} :
    natOfDigits? 10 s = some n ↔ AreDigits s ∧ n = Nat.ofDigitChars 10 s 0 := by
  rw [natOfDigits?]
  constructor
  · intro h
    split at h
    · cases h
    · next hne =>
      have hdigits := isDigit_of_foldlM h
      rw [foldlM_digits hdigits] at h
      exact ⟨⟨by simpa using hne, hdigits⟩, (Option.some.inj h).symm⟩
  · rintro ⟨⟨hne, hdigits⟩, rfl⟩
    rw [if_neg (by simpa using hne), foldlM_digits hdigits]

theorem areDigits_toDigits (n : Nat) : AreDigits (Nat.toDigits 10 n) :=
  ⟨Nat.toDigits_ne_nil, fun _ => Nat.isDigit_of_mem_toDigits (by decide) (by decide)⟩

theorem natOfDigits?_toDigits (n : Nat) : natOfDigits? 10 (Nat.toDigits 10 n) = some n :=
  natOfDigits?_eq_some_iff.mpr ⟨areDigits_toDigits n, Nat.ofDigitChars_ten_toDigits.symm⟩

theorem isSome_natOfDigits?_iff {s : List Char} :
    (natOfDigits? 10 s).isSome = true ↔ AreDigits s := by
  simp [Option.isSome_iff_exists, natOfDigits?_eq_some_iff]

/-! ## Signs -/

/-- A text that has no sign in front of it. -/
def IsUnsigned (s : List Char) : Prop := s.head? ≠ some '+' ∧ s.head? ≠ some '-'

/-- A sign is cut off from a text that has none of its own. -/
theorem splitSign_append {sign body : List Char} (hsign : IsSign sign) (hbody : IsUnsigned body) :
    splitSign (sign ++ body) = (sign.head?, body) := by
  rcases hsign with rfl | rfl | rfl
  · rw [List.nil_append]
    unfold splitSign
    split
    · exact absurd rfl hbody.1
    · exact absurd rfl hbody.2
    · rfl
  · rfl
  · rfl

/-- What is cut off from a text is a sign or nothing. -/
theorem exists_splitSign (s : List Char) :
    ∃ sign, IsSign sign ∧ (splitSign s).1 = sign.head? ∧ s = sign ++ (splitSign s).2 := by
  unfold splitSign
  split
  · exact ⟨['+'], Or.inr (Or.inl rfl), rfl, rfl⟩
  · exact ⟨['-'], Or.inr (Or.inr rfl), rfl, rfl⟩
  · exact ⟨[], Or.inl rfl, rfl, rfl⟩

theorem isUnsigned_of_isDigit {s : List Char} (h : ∀ c, s.head? = some c → c.isDigit = true) :
    IsUnsigned s :=
  ⟨fun hsign => absurd (h _ hsign) (by decide), fun hsign => absurd (h _ hsign) (by decide)⟩

theorem AreDigits.isDigit_head {s : List Char} (h : AreDigits s) (rest : List Char) (c : Char)
    (hc : (s ++ rest).head? = some c) : c.isDigit = true := by
  obtain ⟨hne, hdigits⟩ := h
  cases s with
  | nil => exact absurd rfl hne
  | cons d s =>
    obtain rfl := Option.some.inj hc
    exact hdigits d List.mem_cons_self

theorem AreDigits.isUnsigned {s : List Char} (h : AreDigits s) : IsUnsigned s :=
  isUnsigned_of_isDigit fun c hc => h.isDigit_head [] c (by rwa [List.append_nil])

/-! ## Integers -/

theorem isSome_intOfText?_iff {s : List Char} : (intOfText? s).isSome = true ↔ IsInteger s := by
  have hdigits : (intOfText? s).isSome = (natOfDigits? 10 (splitSign s).2).isSome := by
    unfold intOfText?
    split
    · next rest h => rw [h]; cases natOfDigits? 10 rest <;> rfl
    · next rest _ h => rw [h]; cases natOfDigits? 10 rest <;> rfl
  rw [hdigits, isSome_natOfDigits?_iff]
  constructor
  · intro h
    obtain ⟨sign, hsign, -, hs⟩ := exists_splitSign s
    exact ⟨sign, _, hsign, h, hs⟩
  · rintro ⟨sign, digits, hsign, h, rfl⟩
    rwa [splitSign_append hsign h.isUnsigned]

theorem toList_toString_ofNat (n : Nat) :
    (toString (Int.ofNat n)).toList = Nat.toDigits 10 n := by
  rw [← Nat.toList_repr]
  rfl

theorem toList_toString_negSucc (n : Nat) :
    (toString (Int.negSucc n)).toList = '-' :: Nat.toDigits 10 (n + 1) := by
  rw [← Nat.toList_repr]
  exact String.toList_append

/-- An integer in decimal is read as itself. -/
theorem intOfText?_toString (n : Int) : intOfText? (toString n).toList = some n := by
  cases n with
  | ofNat n =>
    have hunsigned := (areDigits_toDigits n).isUnsigned
    rw [intOfText?, toList_toString_ofNat, ← List.nil_append (Nat.toDigits 10 n),
      splitSign_append (Or.inl rfl) hunsigned]
    simp [natOfDigits?_toDigits]
  | negSucc n =>
    rw [intOfText?, toList_toString_negSucc, splitSign]
    simp [natOfDigits?_toDigits, Int.negSucc_eq]

/-! ## Decimal numbers -/

theorem isSome_exponentOf?_iff {s : List Char} :
    (Binary64.exponentOf? s).isSome = true ↔ IsExponent s := by
  cases s with
  | nil => exact ⟨fun _ => .absent, fun _ => rfl⟩
  | cons letter power =>
    rw [Binary64.exponentOf?]
    by_cases hletter : letter = 'e' ∨ letter = 'E'
    · rw [if_pos (by simpa using hletter), isSome_intOfText?_iff]
      refine ⟨.power hletter, fun h => ?_⟩
      cases h with
      | power _ hpower => exact hpower
    · rw [if_neg (by simpa using hletter)]
      refine ⟨fun h => absurd h Bool.false_ne_true, fun h => ?_⟩
      cases h with
      | power h _ => exact absurd h hletter

/-- Digits end where an exponent starts. -/
theorem IsExponent.not_isDigit_head {s : List Char} (h : IsExponent s) :
    s.takeWhile Char.isDigit = [] ∧ s.dropWhile Char.isDigit = s ∧ s.head? ≠ some '.' := by
  cases h with
  | absent => simp
  | power hletter hpower => rcases hletter with rfl | rfl <;> simp

/-- The digits in front of a text that starts with none are cut off. -/
theorem takeWhile_digits_append {a b : List Char} (ha : ∀ c ∈ a, c.isDigit = true)
    (hb : b.takeWhile Char.isDigit = []) :
    (a ++ b).takeWhile Char.isDigit = a ∧ (a ++ b).dropWhile Char.isDigit = b := by
  have hdrop : b.dropWhile Char.isDigit = b := by
    have := List.takeWhile_append_dropWhile (p := Char.isDigit) (l := b)
    rwa [hb, List.nil_append] at this
  rw [List.takeWhile_append_of_pos ha, List.dropWhile_append_of_pos ha, hb, hdrop, List.append_nil]
  exact ⟨rfl, rfl⟩

/-- A number is read where its digits and its exponent are. -/
theorem isSome_bind_bind {α β γ : Type} {x : Option α} {y : Option β} (f : α → β → γ) :
    (x.bind fun a => y.bind fun b => some (f a b)).isSome = true ↔
      x.isSome = true ∧ y.isSome = true := by
  cases x <;> cases y <;> simp

theorem isSome_ofDigits?_whole_iff {negative : Bool} {digits rest : List Char}
    (hdigits : ∀ c ∈ digits, c.isDigit = true) (hrest : rest.takeWhile Char.isDigit = [])
    (hpoint : rest.head? ≠ some '.') :
    (Binary64.ofDigits? negative (digits ++ rest)).isSome = true ↔
      AreDigits digits ∧ IsExponent rest := by
  obtain ⟨htake, hdrop⟩ := takeWhile_digits_append hdigits hrest
  rw [← isSome_natOfDigits?_iff, ← isSome_exponentOf?_iff]
  unfold Binary64.ofDigits?
  simp only [htake, hdrop]
  split
  · exact absurd rfl hpoint
  · rw [List.append_nil]
    exact isSome_bind_bind _

theorem isSome_ofDigits?_point_iff {negative : Bool} {whole fraction rest : List Char}
    (hwhole : ∀ c ∈ whole, c.isDigit = true) (hfraction : ∀ c ∈ fraction, c.isDigit = true)
    (hrest : rest.takeWhile Char.isDigit = []) :
    (Binary64.ofDigits? negative (whole ++ '.' :: (fraction ++ rest))).isSome = true ↔
      AreDigits (whole ++ fraction) ∧ IsExponent rest := by
  obtain ⟨htake, hdrop⟩ :=
    takeWhile_digits_append (b := '.' :: (fraction ++ rest)) hwhole (by simp)
  obtain ⟨htake', hdrop'⟩ := takeWhile_digits_append hfraction hrest
  rw [← isSome_natOfDigits?_iff, ← isSome_exponentOf?_iff]
  unfold Binary64.ofDigits?
  simp only [htake, hdrop, htake', hdrop']
  exact isSome_bind_bind _

/-- Digits at the start of a text, and a rest that does not start with one. -/
theorem exists_digits (s : List Char) : ∃ digits rest, s = digits ++ rest ∧
    (∀ c ∈ digits, c.isDigit = true) ∧ rest.takeWhile Char.isDigit = [] := by
  induction s with
  | nil => exact ⟨[], [], rfl, fun _ h => absurd h List.not_mem_nil, rfl⟩
  | cons c s ih =>
    by_cases hc : c.isDigit = true
    · obtain ⟨digits, rest, rfl, hdigits, hrest⟩ := ih
      exact ⟨c :: digits, rest, rfl, List.forall_mem_cons.mpr ⟨hc, hdigits⟩, hrest⟩
    · exact ⟨[], c :: s, rfl, fun _ h => absurd h List.not_mem_nil,
        List.takeWhile_cons_of_neg hc⟩

theorem isSome_ofDigits?_iff {negative : Bool} {s : List Char} :
    (Binary64.ofDigits? negative s).isSome = true ↔ IsDecimal s := by
  constructor
  · obtain ⟨whole, rest, rfl, hwhole, hrest⟩ := exists_digits s
    by_cases hpoint : rest.head? = some '.'
    · obtain ⟨behind, rfl⟩ := List.head?_eq_some_iff.mp hpoint
      obtain ⟨fraction, exponent, rfl, hfraction, hexponent⟩ := exists_digits behind
      rw [isSome_ofDigits?_point_iff hwhole hfraction hexponent]
      exact fun h => .point h.1 h.2
    · rw [isSome_ofDigits?_whole_iff hwhole hrest hpoint]
      exact fun h => .whole h.1 h.2
  · rintro (⟨hdigits, hexponent⟩ | ⟨hdigits, hexponent⟩)
    · obtain ⟨htake, -, hpoint⟩ := hexponent.not_isDigit_head
      exact (isSome_ofDigits?_whole_iff hdigits.2 htake hpoint).mpr ⟨hdigits, hexponent⟩
    · obtain ⟨htake, -, -⟩ := hexponent.not_isDigit_head
      obtain ⟨hwhole, hfraction⟩ := List.forall_mem_append.mp hdigits.2
      exact (isSome_ofDigits?_point_iff hwhole hfraction htake).mpr ⟨hdigits, hexponent⟩

/-! ## Numbers with their signs -/

/-- A name of what is not finite starts with one of two letters. -/
theorem IsNotFinite.head? {s : List Char} (h : IsNotFinite s) :
    (s.map Char.toLower).head? = some 'i' ∨ (s.map Char.toLower).head? = some 'n' := by
  have hlist : s.map Char.toLower = (String.ofList (s.map Char.toLower)).toList :=
    String.toList_ofList.symm
  rw [hlist]
  simp only [IsNotFinite, List.mem_cons, List.not_mem_nil, or_false] at h
  rcases h with h | h | h <;> rw [h] <;> decide

/-- A number without a sign starts with a digit or a point. -/
theorem IsDecimal.head? {s : List Char} (h : IsDecimal s) :
    ∃ c, s.head? = some c ∧ (c.isDigit = true ∨ c = '.') := by
  cases h with
  | @whole digits exponent hdigits hexponent =>
    cases digits with
    | nil => exact absurd rfl hdigits.1
    | cons c digits => exact ⟨c, rfl, Or.inl (hdigits.2 c List.mem_cons_self)⟩
  | @point digits fraction exponent hdigits hexponent =>
    cases digits with
    | nil => exact ⟨'.', rfl, Or.inr rfl⟩
    | cons c digits => exact ⟨c, rfl, Or.inl (hdigits.2 c (by simp))⟩

theorem IsNotFinite.isUnsigned {s : List Char} (h : IsNotFinite s) : IsUnsigned s := by
  have hhead := h.head?
  rw [List.head?_map] at hhead
  constructor <;> intro hsign <;> rw [hsign] at hhead <;> revert hhead <;> decide

theorem IsDecimal.isUnsigned {s : List Char} (h : IsDecimal s) : IsUnsigned s := by
  obtain ⟨c, hc, hhead⟩ := h.head?
  rw [IsUnsigned, hc]
  constructor <;> rintro ⟨⟩ <;> revert hhead <;> decide

theorem isSome_ofText?_iff {s : List Char} :
    (Binary64.ofText? s).isSome = true ↔ IsNumeral s := by
  have hbody : (Binary64.ofText? s).isSome = true ↔
      IsNotFinite (splitSign s).2 ∨ IsDecimal (splitSign s).2 := by
    simp only [Binary64.ofText?, IsNotFinite, List.mem_cons, List.not_mem_nil, or_false]
    split
    · next h => exact iff_of_true rfl (Or.inl (h.elim Or.inl fun h => Or.inr (Or.inl h)))
    · next hinf =>
      split
      · next h => exact iff_of_true rfl (Or.inl (Or.inr (Or.inr h)))
      · next hnan =>
        rw [isSome_ofDigits?_iff]
        refine (or_iff_right ?_).symm
        rintro (h | h | h)
        · exact hinf (Or.inl h)
        · exact hinf (Or.inr h)
        · exact hnan h
  rw [hbody]
  constructor
  · intro h
    obtain ⟨sign, hsign, -, hs⟩ := exists_splitSign s
    exact ⟨sign, _, hsign, h, hs⟩
  · rintro ⟨sign, body, hsign, h, rfl⟩
    have hunsigned : IsUnsigned body := h.elim IsNotFinite.isUnsigned IsDecimal.isUnsigned
    rwa [splitSign_append hsign hunsigned]

/-- Integers are numbers. -/
theorem IsInteger.isNumeral {s : List Char} (h : IsInteger s) : IsNumeral s := by
  obtain ⟨sign, digits, hsign, hdigits, rfl⟩ := h
  refine ⟨sign, digits, hsign, Or.inr ?_, rfl⟩
  have := IsDecimal.whole hdigits .absent
  rwa [List.append_nil] at this

/-- Only letters have a lower case. -/
theorem toLower_of_isDigit {c : Char} (h : c.isDigit = true) : c.toLower = c := by
  simp only [Char.isDigit, Bool.and_eq_true, decide_eq_true_eq] at h
  have hle : c.toNat ≤ 57 := h.2
  refine dif_neg fun hupper => ?_
  have hge : 65 ≤ c.toNat := hupper.1
  omega

/-- A number does not start like a truth value. -/
theorem IsNumeral.head? {s : List Char} (h : IsNumeral s) :
    (s.map Char.toLower).head? ≠ some 't' ∧ (s.map Char.toLower).head? ≠ some 'f' := by
  obtain ⟨sign, body, hsign, hbody, rfl⟩ := h
  rcases hsign with rfl | rfl | rfl
  · rw [List.nil_append]
    rcases hbody with hbody | hbody
    · rcases hbody.head? with h | h <;> rw [h] <;> decide
    · obtain ⟨c, hc, hdigit | rfl⟩ := hbody.head?
      · rw [List.head?_map, hc, Option.map_some, toLower_of_isDigit hdigit]
        constructor <;> rintro ⟨⟩ <;> revert hdigit <;> decide
      · rw [List.head?_map, hc]
        decide
  · rw [List.singleton_append, List.map_cons, List.head?_cons]
    decide
  · rw [List.singleton_append, List.map_cons, List.head?_cons]
    decide

/-! ## Characters of numbers -/

/-- A character that numbers and their names are written with. -/
def IsNumeralChar (c : Char) : Prop := c.isAlphanum = true ∨ c = '.' ∨ c = '-'

instance : DecidablePred IsNumeralChar := fun c =>
  inferInstanceAs (Decidable (c.isAlphanum = true ∨ c = '.' ∨ c = '-'))

theorem IsNumeralChar.of_all {s : String} (h : s.toList.all (IsNumeralChar ·) = true) {c : Char}
    (hc : c ∈ s.toList) : IsNumeralChar c :=
  of_decide_eq_true (List.all_eq_true.mp h c hc)

theorem IsNumeralChar.of_isDigit {c : Char} (h : c.isDigit = true) : IsNumeralChar c :=
  Or.inl (by rw [Char.isAlphanum, h, Bool.or_true])

theorem isNumeralChar_of_mem_toDigits {n : Nat} {c : Char} (h : c ∈ Nat.toDigits 10 n) :
    IsNumeralChar c :=
  .of_isDigit ((areDigits_toDigits n).2 c h)

theorem isNumeralChar_of_mem_toString {n : Int} {c : Char} (h : c ∈ (toString n).toList) :
    IsNumeralChar c := by
  cases n with
  | ofNat n =>
    rw [toList_toString_ofNat] at h
    exact isNumeralChar_of_mem_toDigits h
  | negSucc n =>
    rw [toList_toString_negSucc] at h
    rcases List.mem_cons.mp h with rfl | h
    · exact Or.inr (Or.inr rfl)
    · exact isNumeralChar_of_mem_toDigits h

theorem isNumeralChar_of_mem_positional {digits : Nat} {exponent : Int} {c : Char}
    (h : c ∈ Binary64.positional digits exponent) : IsNumeralChar c := by
  simp only [Binary64.positional] at h
  split at h
  · rcases List.mem_append.mp h with h | h
    · exact isNumeralChar_of_mem_toDigits h
    · rw [List.eq_of_mem_replicate h]
      exact .of_isDigit rfl
  · split at h
    · rcases List.mem_append.mp h with h | h
      · exact isNumeralChar_of_mem_toDigits (List.mem_of_mem_take h)
      · rcases List.mem_cons.mp h with rfl | h
        · exact Or.inr (Or.inl rfl)
        · exact isNumeralChar_of_mem_toDigits (List.mem_of_mem_drop h)
    · rcases List.mem_append.mp h with h | h
      · rcases List.mem_cons.mp h with rfl | h
        · exact .of_isDigit rfl
        · rcases List.mem_cons.mp h with rfl | h
          · exact Or.inr (Or.inl rfl)
          · rw [List.eq_of_mem_replicate h]
            exact .of_isDigit rfl
      · exact isNumeralChar_of_mem_toDigits h

/-- A sign is all that stands in front of a number. -/
theorem isNumeralChar_of_mem_signed {x : Binary64} {s : List Char}
    (hs : ∀ c ∈ s, IsNumeralChar c) {c : Char} (h : c ∈ x.signed s) : IsNumeralChar c := by
  rw [Binary64.signed] at h
  split at h
  · rcases List.mem_cons.mp h with rfl | h
    · exact Or.inr (Or.inr rfl)
    · exact hs c h
  · exact hs c h

theorem isNumeralChar_of_mem_toPositional {x : Binary64} {c : Char}
    (h : c ∈ x.toPositional.toList) : IsNumeralChar c := by
  simp only [Binary64.toPositional] at h
  split at h
  · exact .of_all (by decide) h
  · split at h
    · rw [String.toList_ofList] at h
      exact isNumeralChar_of_mem_signed (fun _ => .of_all (by decide)) h
    · rw [String.toList_ofList] at h
      exact isNumeralChar_of_mem_signed (fun _ => isNumeralChar_of_mem_positional) h

end PageRecipe
