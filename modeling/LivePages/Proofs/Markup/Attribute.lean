import LivePages.Markup.Printer
import LivePages.Proofs.Markup.Entity
import LivePages.Proofs.Markup.Piece
import LivePages.Proofs.Markup.WellFormed
import LivePages.Proofs.Text

/-! # Written attributes read back -/

namespace LivePages.Markup

theorem toLower_of_not_upper {c : Char} (lower : c.isUpper = false) :
    c.toLower = c := by
  have outside : ¬ (c.val ≥ 'A'.val ∧ c.val ≤ 'Z'.val) := by
    simpa [Char.isUpper] using lower
  rw [Char.toLower, dif_neg outside]

theorem lowered_of_lower {text : String}
    (lower : ∀ c ∈ text.toList, c.isUpper = false) :
    lowered text.toList = text := by
  have same : text.toList.map Char.toLower = text.toList.map id :=
    List.map_congr_left fun c member => toLower_of_not_upper (lower c member)
  rw [lowered, same, List.map_id, String.ofList_toList]

theorem readAttributes_trimStart (tag cs : List Char) :
    readAttributes tag (Text.trimStart cs) = readAttributes tag cs := by
  rw [readAttributes, readAttributes, Text.trimStart, Text.trimStart,
    List.dropWhile_idempotent]

/-- Taking characters of a kind goes no further than a text does in front of
another kind. -/
theorem takeWhile_append_rest {p : Char → Bool} {rest : List Char}
    (stop : ∀ c ∈ rest.head?, p c = false) (cs : List Char) :
    (cs ++ rest).takeWhile p = cs.takeWhile p := by
  induction cs with
  | nil =>
      cases rest with
      | nil => rfl
      | cons c rest => simp [stop c rfl]
  | cons c cs inductionHypothesis =>
      by_cases kind : p c = true
      · simp [kind, inductionHypothesis]
      · simp [kind]

theorem dropWhile_append_rest {p : Char → Bool} {rest : List Char}
    (stop : ∀ c ∈ rest.head?, p c = false) (cs : List Char) :
    (cs ++ rest).dropWhile p = cs.dropWhile p ++ rest := by
  induction cs with
  | nil =>
      cases rest with
      | nil => rfl
      | cons c rest => simp [stop c rfl]
  | cons c cs inductionHypothesis =>
      by_cases kind : p c = true
      · simp [kind, inductionHypothesis]
      · simp [kind]

/-- A word that stops where it is followed by another kind of character. -/
theorem takeWhile_append_stop {p : Char → Bool} {word : List Char}
    (all : ∀ c ∈ word, p c = true) {rest : List Char}
    (stop : ∀ c ∈ rest.head?, p c = false) :
    (word ++ rest).takeWhile p = word ∧ (word ++ rest).dropWhile p = rest := by
  rw [takeWhile_append_rest stop, dropWhile_append_rest stop,
    List.takeWhile_eq_self_iff.2 all, List.dropWhile_eq_nil_iff.2 all]
  exact ⟨rfl, rfl⟩

theorem quote_notMem_escapeAttribute (cs : List Char) :
    '"' ∉ escapeAttribute cs := by
  rw [escapeAttribute, List.mem_flatMap]
  rintro ⟨c, -, member⟩
  unfold escapeEntity at member
  split at member
  · simp at member
  · simp at member
  · rename_i noQuote
    simp at member
    exact noQuote member.symm

/-! ## One attribute after the other -/

theorem readAttributes_end {tag cs rest : List Char}
    (ended : Text.trimStart cs = '>' :: rest) :
    readAttributes tag cs = .ok ([], false, rest) := by
  rw [readAttributes]
  split <;> simp_all

/-- Where a name starts, an attribute follows. -/
theorem readAttributes_name {tag cs rest : List Char} {c : Char}
    (starts : Text.trimStart cs = c :: rest)
    (inName : isAttributeChar c = true) :
    readAttributes tag cs =
      let name := lowered (c :: rest.takeWhile isAttributeChar)
      match Text.trimStart (rest.dropWhile isAttributeChar) with
      | '=' :: more =>
        match readAttributeValue (Text.trimStart more) with
        | .error cut => .error cut
        | .ok (value, after) =>
          let a : Attribute :=
            ⟨name, some (String.ofList (decodeEntities value))⟩
          (readAttributes tag after).map fun (as, tail) => (a :: as, tail)
      | after =>
        (readAttributes tag after).map fun (as, tail) =>
          (⟨name, none⟩ :: as, tail) := by
  rw [readAttributes]
  split
  · simp_all
  iterate 3
    · rename_i first
      rw [starts] at first
      cases first
      simp [isAttributeChar] at inName
  · rename_i first
    rw [starts] at first
    cases first
    have noEquals : c ≠ '=' := by
      rintro rfl
      simp [isAttributeChar] at inName
    rw [if_neg noEquals]
    split
    · split <;> simp_all
    · split <;> simp_all

theorem readAttributes_bare (tag : List Char)
    {cs rest after : List Char} {c : Char}
    (starts : Text.trimStart cs = c :: rest) (inName : isAttributeChar c = true)
    (behind : Text.trimStart (rest.dropWhile isAttributeChar) = after)
    (noValue : ∀ d ∈ after.head?, d ≠ '=') :
    readAttributes tag cs =
      (readAttributes tag after).map fun (as, tail) =>
        (⟨lowered (c :: rest.takeWhile isAttributeChar), none⟩ :: as, tail) := by
  rw [readAttributes_name starts inName, behind]
  dsimp only
  split
  · simp at noValue
  · rfl

theorem readAttributes_value (tag : List Char)
    {cs rest more value after : List Char} {c : Char}
    (starts : Text.trimStart cs = c :: rest) (inName : isAttributeChar c = true)
    (behind : Text.trimStart (rest.dropWhile isAttributeChar) = '=' :: more)
    (read : readAttributeValue (Text.trimStart more) = .ok (value, after)) :
    readAttributes tag cs =
      (readAttributes tag after).map fun (as, tail) =>
        (⟨lowered (c :: rest.takeWhile isAttributeChar),
            some (String.ofList (decodeEntities value))⟩ :: as, tail) := by
  rw [readAttributes_name starts inName, behind]
  simp only [read]

/-- What may stand behind an attribute of a written tag. -/
theorem head_writeAttributes (attributes : List Attribute) (body : List Char) :
    ∀ c ∈ (attributes.flatMap writeAttribute ++ '>' :: body).head?,
      c = ' ' ∨ c = '>' := by
  intro c first
  cases attributes with
  | nil => simp_all [eq_comm]
  | cons a attributes => simp_all [writeAttribute, eq_comm]

theorem isBlank_of_isAttributeChar {c : Char} (inName : isAttributeChar c = true) :
    Text.isBlank c = false := by
  cases blank : Text.isBlank c with
  | false => rfl
  | true => simp [isAttributeChar, blank] at inName

theorem trimStart_name {name : String} (named : IsAttributeName name)
    (rest : List Char) :
    ∃ c cs, name.toList = c :: cs ∧ isAttributeChar c = true ∧
      Text.trimStart (' ' :: (name.toList ++ rest)) = c :: (cs ++ rest) := by
  cases spelled : name.toList with
  | nil => exact absurd spelled named.filled
  | cons c cs =>
      have inName : isAttributeChar c = true :=
        named.chars c (spelled ▸ List.mem_cons_self)
      have solid := isBlank_of_isAttributeChar inName
      have gap : Text.trimStart (' ' :: c :: (cs ++ rest)) =
          Text.trimStart (c :: (cs ++ rest)) := rfl
      refine ⟨c, cs, rfl, inName, ?_⟩
      rw [List.cons_append, gap, Text.trimStart_cons_of_solid solid]

/-- The name of a written attribute is read up to what stands behind it. -/
theorem read_attributeName {name : String} (named : IsAttributeName name)
    {rest : List Char} (stop : ∀ c ∈ rest.head?, isAttributeChar c = false) :
    ∃ c more, Text.trimStart (' ' :: (name.toList ++ rest)) = c :: more ∧
      isAttributeChar c = true ∧
      lowered (c :: more.takeWhile isAttributeChar) = name ∧
      more.dropWhile isAttributeChar = rest := by
  obtain ⟨c, cs, spelled, inName, starts⟩ := trimStart_name named rest
  have others : ∀ d ∈ cs, isAttributeChar d = true := by
    intro d member
    exact named.chars d (spelled ▸ List.mem_cons_of_mem c member)
  obtain ⟨taken, dropped⟩ := takeWhile_append_stop others stop
  refine ⟨c, cs ++ rest, starts, inName, ?_, dropped⟩
  rw [taken, ← spelled, lowered_of_lower named.lower]

/-- Behind a bare attribute no value follows. -/
theorem trimStart_attributes_head {attributes : List Attribute}
    (named : ∀ a ∈ attributes, IsAttributeName a.name) (body : List Char) :
    ∀ c ∈ (Text.trimStart
      (attributes.flatMap writeAttribute ++ '>' :: body)).head?, c ≠ '=' := by
  intro c first
  cases attributes with
  | nil =>
      cases first
      decide
  | cons a attributes =>
      obtain ⟨value, shape⟩ : ∃ value,
          writeAttribute a = ' ' :: (a.name.toList ++ value) := ⟨_, rfl⟩
      obtain ⟨d, cs, -, inName, starts⟩ :=
        trimStart_name (named a List.mem_cons_self)
          (value ++ (attributes.flatMap writeAttribute ++ '>' :: body))
      rw [List.flatMap_cons, shape, List.append_assoc, List.cons_append,
        List.append_assoc, starts] at first
      cases first
      rintro rfl
      simp [isAttributeChar] at inName

/-- Attributes are read back from behind a tag, up to the end of the tag. -/
theorem readAttributes_write (tag body : List Char) (attributes : List Attribute)
    (named : ∀ a ∈ attributes, IsAttributeName a.name) :
    readAttributes tag (attributes.flatMap writeAttribute ++ '>' :: body) =
      .ok (attributes, false, body) := by
  induction attributes with
  | nil => exact readAttributes_end rfl
  | cons a attributes inductionHypothesis =>
      obtain ⟨name, value⟩ := a
      have isName : IsAttributeName name := named _ List.mem_cons_self
      have later := inductionHypothesis fun a member =>
        named a (List.mem_cons_of_mem _ member)
      generalize written :
        attributes.flatMap writeAttribute ++ '>' :: body = rest at later
      have head := head_writeAttributes attributes body
      rw [written] at head
      cases value with
      | none =>
          have stop : ∀ c ∈ rest.head?, isAttributeChar c = false := by
            intro c first
            rcases head c first with rfl | rfl <;> decide
          have noValue : ∀ c ∈ (Text.trimStart rest).head?, c ≠ '=' := by
            rw [← written]
            exact trimStart_attributes_head
              (fun a member => named a (List.mem_cons_of_mem _ member)) body
          obtain ⟨c, more, starts, inName, read, behind⟩ :=
            read_attributeName isName stop
          have step := readAttributes_bare tag starts inName
            (congrArg Text.trimStart behind) noValue
          rw [read, readAttributes_trimStart, later] at step
          simpa [writeAttribute, written, Except.map] using step
      | some value =>
          have stop : ∀ c ∈ ('=' :: '"' :: (escapeAttribute value.toList ++
              '"' :: rest)).head?, isAttributeChar c = false := by
            intro c first
            cases first
            decide
          obtain ⟨c, more, starts, inName, read, behind⟩ :=
            read_attributeName isName stop
          have quoted : readAttributeValue (Text.trimStart
              ('"' :: (escapeAttribute value.toList ++ '"' :: rest))) =
                .ok (escapeAttribute value.toList, rest) := by
            rw [Text.trimStart_cons_of_solid (by decide), readAttributeValue,
              splitAt?_append (quote_notMem_escapeAttribute _)]
            rfl
          have step := readAttributes_value tag starts inName
            (congrArg Text.trimStart behind) quoted
          rw [read, later, decode_escape] at step
          simpa [writeAttribute, written, Except.map] using step

end LivePages.Markup
