import PageRecipe.Files.Path

/-!
# The parts of joined paths

Paths are joined as texts. Here is what that does to their parts : behind a path that is not
empty, a relative path adds the parts that count and takes none away (`parts_join`), so the
parts of the directory stand at the start (`parts_isPrefix_join`). An absolute path takes the
place of the directory (`join_of_isAbsolute`).

A name and a way up may be written anywhere and count there as what they are (`IsOwnSegment`). A
path that is made of such parts has them and no others (`parts_ofParts`).
-/

namespace PageRecipe

theorem segments_ne_nil (s : List Char) : segments s ≠ [] := by
  cases s with
  | nil => exact List.cons_ne_nil _ _
  | cons c rest =>
    rw [segments]
    split
    · exact List.cons_ne_nil _ _
    · split <;> exact List.cons_ne_nil _ _

/-- A slash ends one segment and starts another one. -/
theorem segments_append (s t : List Char) :
    segments (s ++ '/' :: t) = segments s ++ segments t := by
  induction s with
  | nil => rfl
  | cons c rest ih =>
    rw [List.cons_append, segments, segments, ih]
    by_cases hc : c = '/'
    · rw [if_pos hc, if_pos hc, List.cons_append]
    · rw [if_neg hc, if_neg hc]
      cases hrest : segments rest with
      | nil => exact absurd hrest (segments_ne_nil rest)
      | cons segment others => rfl

theorem segments_of_notMem {s : List Char} (h : '/' ∉ s) : segments s = [s] := by
  induction s with
  | nil => rfl
  | cons c rest ih =>
    rw [List.mem_cons, not_or] at h
    rw [segments, if_neg (Ne.symm h.1), ih h.2]

theorem slash_notMem_of_mem_segments {s segment : List Char} (h : segment ∈ segments s) :
    '/' ∉ segment := by
  induction s generalizing segment with
  | nil =>
    rw [segments, List.mem_singleton] at h
    simp [h]
  | cons c rest ih =>
    rw [segments] at h
    split at h
    · rcases List.mem_cons.mp h with rfl | h
      · exact List.not_mem_nil
      · exact ih h
    · next hc =>
      split at h
      · next hrest => exact absurd hrest (segments_ne_nil rest)
      · next first others hrest =>
        rcases List.mem_cons.mp h with rfl | h
        · rw [List.mem_cons, not_or]
          exact ⟨Ne.symm hc, ih (hrest ▸ List.mem_cons_self)⟩
        · exact ih (hrest ▸ List.mem_cons_of_mem first h)

/-- The part that a segment is has the segment as its text. -/
theorem PathPart.toList_text_of_ofSegment? {segment : List Char} {part : PathPart}
    (h : ofSegment? segment = some part) : part.text.toList = segment := by
  rw [ofSegment?] at h
  split at h
  · cases h
  · split at h
    · next hparent =>
      obtain rfl := Option.some.inj h
      rw [hparent]
      rfl
    · obtain rfl := Option.some.inj h
      exact String.toList_ofList

namespace FilePath

/-- The parts of a text that count, wherever it stands in a path. -/
def counted (s : List Char) : List PathPart := (segments s).filterMap PathPart.ofSegment?

/-- What the start of a text says about where the path starts. -/
def start (s : List Char) : List PathPart :=
  if s.head? = some '/' then [.root] else if (segments s).head? = some ['.'] then [.current] else []

theorem parts_eq (path : FilePath) :
    path.parts = start path.text.toList ++ counted path.text.toList := by
  simp only [parts, isAbsolute, start, beq_iff_eq]
  split
  · rfl
  · split <;> rfl

theorem counted_append (s t : List Char) : counted (s ++ '/' :: t) = counted s ++ counted t := by
  rw [counted, segments_append, List.filterMap_append]
  rfl

/-- A slash at the end of a text adds nothing that counts. -/
theorem counted_append_slash (s : List Char) : counted (s ++ ['/']) = counted s := by
  rw [counted_append]
  exact List.append_nil _

theorem head?_segments_append (s t : List Char) :
    (segments (s ++ '/' :: t)).head? = (segments s).head? := by
  rw [segments_append]
  cases h : segments s with
  | nil => exact absurd h (segments_ne_nil s)
  | cons segment others => rfl

/-- What follows a slash does not change where a path starts. -/
theorem start_append (s t : List Char) : start (s ++ '/' :: t) = start (s ++ ['/']) := by
  have hhead : (s ++ '/' :: t).head? = (s ++ ['/']).head? := by cases s <;> rfl
  rw [start, start, hhead, head?_segments_append, head?_segments_append]

/-- A slash behind a text that is not empty does not change where it starts. -/
theorem start_append_slash {s : List Char} (hs : s ≠ []) : start (s ++ ['/']) = start s := by
  have hhead : (s ++ ['/']).head? = s.head? := by
    cases s with
    | nil => exact absurd rfl hs
    | cons c rest => rfl
  rw [start, start, hhead, head?_segments_append]

theorem parts_of_isAbsolute {path : FilePath} (h : path.isAbsolute = true) :
    path.parts = .root :: counted path.text.toList := if_pos h

/-- A path in which no part says where it starts is relative, and all of its parts count wherever
it is written. -/
theorem counted_eq_parts {path : FilePath} (hroot : .root ∉ path.parts)
    (hcurrent : .current ∉ path.parts) :
    path.isAbsolute = false ∧ counted path.text.toList = path.parts := by
  cases habsolute : path.isAbsolute with
  | true => exact absurd (by simp [parts, habsolute]) hroot
  | false =>
    rw [parts, habsolute, if_neg Bool.false_ne_true] at hcurrent ⊢
    split at hcurrent
    · exact absurd List.mem_cons_self hcurrent
    · next hpoint => exact ⟨rfl, (if_neg hpoint).symm⟩

/-! ## Parts on their own -/

/-- A part that is one segment of a path, and counts there as what it is. -/
structure IsOwnSegment (part : PathPart) : Prop where
  slash_notMem : '/' ∉ part.text.toList
  ofSegment?_eq : PathPart.ofSegment? part.text.toList = some part

theorem isOwnSegment_of_mem_counted {s : List Char} {part : PathPart} (h : part ∈ counted s) :
    IsOwnSegment part := by
  obtain ⟨segment, hsegment, hpart⟩ := List.mem_filterMap.mp h
  have htext := PathPart.toList_text_of_ofSegment? hpart
  exact ⟨htext ▸ slash_notMem_of_mem_segments hsegment, htext ▸ hpart⟩

namespace IsOwnSegment

variable {part : PathPart}

theorem counted_eq (h : IsOwnSegment part) : counted part.text.toList = [part] := by
  rw [counted, segments_of_notMem h.slash_notMem, List.filterMap_cons_some h.ofSegment?_eq,
    List.filterMap_nil]

theorem head?_ne_slash (h : IsOwnSegment part) : part.text.toList.head? ≠ some '/' :=
  fun hhead => h.slash_notMem (List.mem_of_mem_head? hhead)

theorem isAbsolute_eq (h : IsOwnSegment part) : isAbsolute ⟨part.text⟩ = false :=
  beq_eq_false_iff_ne.mpr h.head?_ne_slash

theorem ne_root (h : IsOwnSegment part) : .root ≠ part := by
  rintro rfl
  exact h.slash_notMem (by decide)

theorem ne_current (h : IsOwnSegment part) : .current ≠ part := by
  rintro rfl
  cases h.ofSegment?_eq

/-- Neither does a point stand there, so the part is all of the path that it writes. -/
theorem parts_eq (h : IsOwnSegment part) : parts ⟨part.text⟩ = [part] := by
  have hpoint : part.text.toList ≠ ['.'] := fun hpoint => by
    have hpart := h.ofSegment?_eq
    rw [hpoint] at hpart
    cases hpart
  have hstart : start part.text.toList = [] := by
    rw [start, segments_of_notMem h.slash_notMem, if_neg h.head?_ne_slash,
      if_neg (by simpa using hpoint)]
  rw [FilePath.parts_eq, hstart, h.counted_eq, List.nil_append]

end IsOwnSegment

/-! ## Joining -/

theorem join_of_isAbsolute {path below : FilePath} (h : below.isAbsolute = true) :
    path.join below = below := if_pos h

/-- A relative path is put behind a slash, and there is one if the directory has none. -/
theorem exists_text_join {path below : FilePath} (hpath : path.text.toList ≠ [])
    (hbelow : below.isAbsolute = false) :
    ∃ s, (path.text.toList = s ∧ s ≠ [] ∨ path.text.toList = s ++ ['/']) ∧
      (path.join below).text.toList = s ++ '/' :: below.text.toList := by
  obtain ⟨s, c, hs⟩ : ∃ s c, path.text.toList = s ++ [c] :=
    ⟨_, _, (List.dropLast_concat_getLast hpath).symm⟩
  rw [join, if_neg (by simp [hbelow])]
  by_cases hc : c = '/'
  · subst hc
    exact ⟨s, Or.inr hs, by simp [hs]⟩
  · exact ⟨s ++ [c], Or.inl ⟨hs, by simp⟩, by simp [hs, hc]⟩

theorem parts_of_isEmpty {path : FilePath} (h : path.text.toList = []) : path.parts = [] := by
  rw [parts_eq, h]
  rfl

/-- Behind a path that is not empty, a relative path adds its parts that count. -/
theorem parts_join {path below : FilePath} (hpath : path.text.toList ≠ [])
    (hbelow : below.isAbsolute = false) :
    (path.join below).parts = path.parts ++ counted below.text.toList := by
  obtain ⟨s, hs, hjoin⟩ := exists_text_join hpath hbelow
  have hparts : path.parts = start (s ++ ['/']) ++ counted s := by
    rcases hs with ⟨hs, hne⟩ | hs
    · rw [parts_eq, hs, start_append_slash hne]
    · rw [parts_eq, hs, counted_append_slash]
  rw [parts_eq, hjoin, start_append, counted_append, hparts, List.append_assoc]

/-- The parts of a directory stand at the start of a relative path that is taken from it. -/
theorem parts_isPrefix_join {path below : FilePath} (hbelow : below.isAbsolute = false) :
    path.parts <+: (path.join below).parts := by
  by_cases hpath : path.text.toList = []
  · rw [parts_of_isEmpty hpath]
    exact List.nil_prefix
  · rw [parts_join hpath hbelow]
    exact List.prefix_append _ _

/-- Parts that are joined to a path one after the other are added to its parts. -/
theorem parts_foldl_join {path : FilePath} (hpath : path.text.toList ≠ []) {more : List PathPart}
    (hmore : ∀ part ∈ more, IsOwnSegment part) :
    (more.foldl (fun path part => path.join ⟨part.text⟩) path).parts = path.parts ++ more := by
  induction more generalizing path with
  | nil => exact (List.append_nil _).symm
  | cons part rest ih =>
    obtain ⟨hpart, hrest⟩ := List.forall_mem_cons.mp hmore
    have hjoin : (path.join ⟨part.text⟩).text.toList ≠ [] := by
      obtain ⟨s, -, htext⟩ := exists_text_join hpath hpart.isAbsolute_eq
      simp [htext]
    rw [List.foldl_cons, ih hjoin hrest, parts_join hpath hpart.isAbsolute_eq, hpart.counted_eq,
      List.append_assoc]
    rfl

/-- Parts on their own make a path with these parts. -/
theorem parts_ofParts {parts : List PathPart} (h : ∀ part ∈ parts, IsOwnSegment part) :
    (ofParts parts).parts = parts := by
  cases parts with
  | nil => rfl
  | cons part rest =>
    obtain ⟨hpart, hrest⟩ := List.forall_mem_cons.mp h
    have hfirst : join ⟨""⟩ ⟨part.text⟩ = ⟨part.text⟩ := by
      simp [join, hpart.isAbsolute_eq]
    have hne : part.text.toList ≠ [] := fun hnil => by
      have hpart := hpart.ofSegment?_eq
      rw [hnil] at hpart
      cases hpart
    rw [ofParts, List.foldl_cons, hfirst, @parts_foldl_join ⟨part.text⟩ hne rest hrest,
      hpart.parts_eq]
    rfl

/-- The path that parts make is relative, and behind another path it adds these parts. -/
theorem parts_join_ofParts {parts : List PathPart} (h : ∀ part ∈ parts, IsOwnSegment part) :
    (ofParts parts).isAbsolute = false ∧ ∀ path : FilePath, path.text.toList ≠ [] →
      (path.join (ofParts parts)).parts = path.parts ++ parts := by
  have hparts := parts_ofParts h
  have hroot : .root ∉ (ofParts parts).parts := by
    rw [hparts]
    exact fun hmem => (h _ hmem).ne_root rfl
  have hcurrent : .current ∉ (ofParts parts).parts := by
    rw [hparts]
    exact fun hmem => (h _ hmem).ne_current rfl
  obtain ⟨habsolute, hcounted⟩ := counted_eq_parts hroot hcurrent
  refine ⟨habsolute, fun path hpath => ?_⟩
  rw [parts_join hpath habsolute, hcounted, hparts]

/-- A path stays below the directory that it is taken from unless it is absolute and leads
elsewhere. -/
theorem parts_isPrefix_join_iff {path below : FilePath} :
    path.parts <+: (path.join below).parts ↔
      below.isAbsolute = false ∨ path.parts <+: below.parts := by
  cases hbelow : below.isAbsolute with
  | false => simp [parts_isPrefix_join hbelow]
  | true => simp [join_of_isAbsolute hbelow]

end FilePath

end PageRecipe
