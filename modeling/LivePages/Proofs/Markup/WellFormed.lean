import Mathlib
import LivePages.Markup.Parser

/-!
# Well-formed trees

The trees whose markup reads back as the tree.  Each kind of node has a
condition of its own on its texts; on top of that two texts never stand next
to each other, and the elements that can be open while their content is read
are not nested too deep.
-/

namespace LivePages.Markup

/-- A tag that is read back as it is written. -/
structure IsTag (tag : String) : Prop where
  starts : tag.toList.head?.any Char.isAlpha = true
  chars : ∀ c ∈ tag.toList, isTagChar c = true
  lower : ∀ c ∈ tag.toList, c.isUpper = false

/-- The name of an attribute that is read back as it is written. -/
structure IsAttributeName (name : String) : Prop where
  filled : name.toList ≠ []
  chars : ∀ c ∈ name.toList, isAttributeChar c = true
  lower : ∀ c ∈ name.toList, c.isUpper = false

/-- Whether a character after `<` makes it the start of a tag, a comment or a
declaration. -/
def startsMarkup (c : Char) : Bool := c.isAlpha || c = '/' || c = '!'

/-- A text that is read back as one text. -/
structure IsPlainText (text : String) : Prop where
  filled : text.toList ≠ []
  noMarkup : ∀ c, startsMarkup c = true → ¬ ['<', c] <:+: text.toList

/-- A content of the raw element with that tag.  The start of its closing tag
does not occur in it, in any mix of cases. -/
structure IsRawText (tag text : String) : Prop where
  filled : text.toList ≠ []
  noEnd : ¬ '<' :: '/' :: tag.toList <:+: text.toList.map Char.toLower

/-- The text of a comment. -/
def IsCommentText (text : String) : Prop := ¬ ['-', '-', '>'] <:+: text.toList

def Node.isText : Node → Bool
  | .text _ => true
  | _ => false

mutual

/-- A node that stands inside `ancestors` elements and is read back as it is
written. -/
def Node.WellFormed (ancestors : Nat) : Node → Prop
  | .element tag attributes children =>
    IsTag tag ∧ (∀ a ∈ attributes, IsAttributeName a.name) ∧
      if isVoid tag then children = []
      else if isRaw tag then
        children = [] ∨ ∃ text, children = [.text text] ∧ IsRawText tag text
      else ancestors < maxNesting ∧ WellFormed (ancestors + 1) children
  | .text text => IsPlainText text
  | .comment text => IsCommentText text

/-- Siblings that are read back as they are written.  No two texts stand next
to each other. -/
def WellFormed (ancestors : Nat) : List Node → Prop
  | [] => True
  | node :: rest =>
    node.WellFormed ancestors ∧
      (node.isText = true → ∀ next ∈ rest.head?, next.isText = false) ∧
      WellFormed ancestors rest

end

/-! ## Deciding it -/

theorem isTag_iff (tag : String) :
    IsTag tag ↔ tag.toList.head?.any Char.isAlpha = true ∧
      (tag.toList.all fun c => isTagChar c && !c.isUpper) = true := by
  simp only [List.all_eq_true, Bool.and_eq_true, Bool.not_eq_true']
  constructor
  · intro isTag
    exact ⟨isTag.starts, fun c member =>
      ⟨isTag.chars c member, isTag.lower c member⟩⟩
  · rintro ⟨starts, each⟩
    exact ⟨starts, fun c member => (each c member).1,
      fun c member => (each c member).2⟩

instance (tag : String) : Decidable (IsTag tag) :=
  decidable_of_iff _ (isTag_iff tag).symm

theorem isAttributeName_iff (name : String) :
    IsAttributeName name ↔ name.toList ≠ [] ∧
      (name.toList.all fun c => isAttributeChar c && !c.isUpper) = true := by
  simp only [List.all_eq_true, Bool.and_eq_true, Bool.not_eq_true']
  constructor
  · intro isName
    exact ⟨isName.filled, fun c member =>
      ⟨isName.chars c member, isName.lower c member⟩⟩
  · rintro ⟨filled, each⟩
    exact ⟨filled, fun c member => (each c member).1,
      fun c member => (each c member).2⟩

instance (name : String) : Decidable (IsAttributeName name) :=
  decidable_of_iff _ (isAttributeName_iff name).symm

/-- Only the characters of a text can follow a `<` in it. -/
theorem isPlainText_iff (text : String) :
    IsPlainText text ↔ text.toList ≠ [] ∧
      (text.toList.all fun c =>
        !(startsMarkup c && decide (['<', c] <:+: text.toList))) = true := by
  simp only [List.all_eq_true, Bool.not_eq_true', Bool.and_eq_false_imp,
    decide_eq_false_iff_not]
  constructor
  · intro isPlain
    exact ⟨isPlain.filled, fun c _ => isPlain.noMarkup c⟩
  · rintro ⟨filled, noMarkup⟩
    refine ⟨filled, fun c starts found => ?_⟩
    have member : c ∈ text.toList := found.subset (by simp)
    exact noMarkup c member starts found

instance (text : String) : Decidable (IsPlainText text) :=
  decidable_of_iff _ (isPlainText_iff text).symm

instance (tag text : String) : Decidable (IsRawText tag text) :=
  decidable_of_iff
    (text.toList ≠ [] ∧
      ¬ '<' :: '/' :: tag.toList <:+: text.toList.map Char.toLower)
    ⟨fun ⟨filled, noEnd⟩ => ⟨filled, noEnd⟩, fun raw => ⟨raw.filled, raw.noEnd⟩⟩

instance (text : String) : Decidable (IsCommentText text) :=
  inferInstanceAs (Decidable (¬ _))

instance (tag : String) (children : List Node) :
    Decidable
      (children = [] ∨ ∃ text, children = [.text text] ∧ IsRawText tag text) :=
  match children with
  | [] => .isTrue (.inl rfl)
  | [.text text] => decidable_of_iff (IsRawText tag text) (by simp)
  | [.comment _] => .isFalse (by simp)
  | [.element ..] => .isFalse (by simp)
  | _ :: _ :: _ => .isFalse (by simp)

mutual

instance Node.decidableWellFormed (ancestors : Nat) :
    (node : Node) → Decidable (node.WellFormed ancestors)
  | .element tag attributes children =>
      have := decidableWellFormed (ancestors + 1) children
      decidable_of_iff
        (IsTag tag ∧ (∀ a ∈ attributes, IsAttributeName a.name) ∧
          if isVoid tag then children = []
          else if isRaw tag then
            children = [] ∨ ∃ text, children = [.text text] ∧ IsRawText tag text
          else ancestors < maxNesting ∧ WellFormed (ancestors + 1) children)
        (by rw [Node.WellFormed])
  | .text text => decidable_of_iff (IsPlainText text) (by rw [Node.WellFormed])
  | .comment text =>
      decidable_of_iff (IsCommentText text) (by rw [Node.WellFormed])

instance decidableWellFormed (ancestors : Nat) :
    (nodes : List Node) → Decidable (WellFormed ancestors nodes)
  | [] => .isTrue (by simp [WellFormed])
  | node :: rest =>
      have := node.decidableWellFormed ancestors
      have := decidableWellFormed ancestors rest
      decidable_of_iff
        (node.WellFormed ancestors ∧
          (node.isText = true → ∀ next ∈ rest.head?, next.isText = false) ∧
          WellFormed ancestors rest)
        (by rw [WellFormed])

end

end LivePages.Markup
