import LivePages.Proofs.Markup.Attribute

/-!
# Written tags read back

A tag that holds neither blanks nor upper-case letters is read up to what stands
behind it, both where it opens its element and where it closes it.
-/

namespace LivePages.Markup

theorem isBlank_of_isTagChar {c : Char} (inTag : isTagChar c = true) :
    Text.isBlank c = false := by
  cases blank : Text.isBlank c with
  | false => rfl
  | true => simp [isTagChar, blank] at inTag

theorem IsTag.notMem {tag : String} (isTag : IsTag tag) {c : Char}
    (outside : isTagChar c = false) :
    c ∉ tag.toList := by
  intro member
  rw [isTag.chars c member] at outside
  contradiction

/-- The tag that opens an element is read with its attributes. -/
theorem pieces_startTag {tag : String} (isTag : IsTag tag)
    {attributes : List Attribute}
    (named : ∀ a ∈ attributes, IsAttributeName a.name) (body : List Char) :
    pieces ('<' :: (tag.toList ++
        (attributes.flatMap writeAttribute ++ '>' :: body))) =
      if isVoid tag then addPiece (.leaf tag attributes) (pieces body)
      else if isRaw tag then
        let (content, after) := splitBefore ('<' :: '/' :: tag.toList) body
        if after = [] then ([.raw tag attributes content], none)
        else
          match splitAt? '>' after with
          | some (_, tail) =>
            addPiece (.raw tag attributes content) (pieces tail)
          | none => ([.raw tag attributes content], some (.tag after))
      else addPiece (.opening tag attributes) (pieces body) := by
  have stop : ∀ c ∈ (attributes.flatMap writeAttribute ++ '>' :: body).head?,
      isTagChar c = false := by
    intro c first
    rcases head_writeAttributes attributes body c first with rfl | rfl <;>
      decide
  obtain ⟨taken, dropped⟩ := takeWhile_append_stop isTag.chars stop
  have starts := isTag.starts
  have name := lowered_of_lower isTag.lower
  cases spelled : tag.toList with
  | nil => simp [spelled] at starts
  | cons c cs =>
      rw [spelled] at starts taken dropped name
      have read := fun start =>
        readAttributes_write start body attributes named
      rw [← dropped] at read
      rw [List.cons_append] at taken read ⊢
      rw [← spelled]
      exact pieces_tag starts (taken.symm ▸ name) (read _)

theorem pieces_endTag {tag : String} (isTag : IsTag tag) (rest : List Char) :
    pieces ('<' :: '/' :: (tag.toList ++ '>' :: rest)) =
      addPiece (.closing tag) (pieces rest) := by
  have solid : ∀ c ∈ tag.toList, Text.isBlank c = false := by
    intro c member
    exact isBlank_of_isTagChar (isTag.chars c member)
  have ended := splitAt?_append (isTag.notMem (c := '>') (by decide)) rest
  rw [pieces_closing ended, Text.trim_of_solid solid, lowered_of_lower isTag.lower]

end LivePages.Markup
