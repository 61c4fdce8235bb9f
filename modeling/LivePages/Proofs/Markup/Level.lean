import LivePages.Proofs.Markup.Reparse

/-!
# The levels of a tree

Reading puts siblings together while the elements around them are still open.  What it
leaves of them can be said level by level: of the texts, comments and elements that
stand next to each other, whatever they stand inside of.  The limit of nesting bounds
how many levels there are.
-/

namespace LivePages.Markup

/-- The lists of siblings in a tree, each with the number of elements it stands
inside. -/
inductive Level (nodes : List Node) : Nat → List Node → Prop where
  | top : Level nodes 0 nodes
  | inside {ancestors : Nat} {siblings children : List Node} {tag : String}
    {attributes : List Attribute} (outer : Level nodes ancestors siblings)
    (member : .element tag attributes children ∈ siblings) :
    Level nodes (ancestors + 1) children

mutual

/-- How many elements stand inside each other in a node, itself included. -/
def Node.height : Node → Nat
  | .element _ _ children => height children + 1
  | .text _ => 0
  | .comment _ => 0

/-- How often a walk through siblings goes from an element to its children. -/
def height : List Node → Nat
  | [] => 0
  | node :: rest => max node.height (height rest)

end

/-- What reading leaves of siblings that stand inside `ancestors` elements. -/
structure IsReadLevel (ancestors : Nat) (siblings : List Node) : Prop where
  textsApart : ∀ before first second after,
    siblings ≠ before ++ .text first :: .text second :: after
  texts : ∀ text, .text text ∈ siblings → text ≠ ""
  comments : ∀ text, .comment text ∈ siblings → IsCommentText text
  elements : ∀ tag attributes children, .element tag attributes children ∈ siblings →
    ancestors ≤ maxNesting ∧ IsTag tag ∧ (∀ a ∈ attributes, IsAttributeName a.name) ∧
      (isVoid tag = true → children = []) ∧
      (isRaw tag = true →
        children = [] ∨ ∃ text, children = [.text text] ∧ IsRawText tag text)

/-! ## From one level to the next -/

theorem areRead_rawChildren (ancestors : Nat) (content : List Char) :
    AreRead ancestors (rawChildren content) := by
  unfold rawChildren
  split
  · exact areRead_nil ancestors
  · rename_i filled
    refine ⟨List.isChain_singleton _, List.forall_mem_singleton.2 (.text ?_)⟩
    rw [String.toList_ofList]
    simpa using filled

section Elements

variable {ancestors : Nat} {tag : String} {attributes : List Attribute} {children : List Node}
  (read : (Node.element tag attributes children).IsRead ancestors)

include read

theorem Node.IsRead.areRead : AreRead (ancestors + 1) children := by
  cases read with
  | void => exact areRead_nil _
  | raw => exact areRead_rawChildren _ _
  | element _ _ _ _ _ apart inside => exact ⟨apart, inside⟩

theorem Node.IsRead.element_spec :
    ancestors ≤ maxNesting ∧ IsTag tag ∧ (∀ a ∈ attributes, IsAttributeName a.name) ∧
      (isVoid tag = true → children = []) ∧
      (isRaw tag = true →
        children = [] ∨ ∃ text, children = [.text text] ∧ IsRawText tag text) := by
  cases read with
  | void shallow isTag named => exact ⟨shallow, isTag, named, fun _ => rfl, fun _ => .inl rfl⟩
  | raw shallow isTag named raw noEnd =>
      refine ⟨shallow, isTag, named, fun void => ?_, fun _ => wellFormed_rawChildren noEnd⟩
      rcases rawTag_cases raw with rfl | rfl
      · exact absurd void (by decide)
      · exact absurd void (by decide)
  | element shallow isTag named notVoid notRaw =>
      refine ⟨shallow, isTag, named, fun void => ?_, fun raw => ?_⟩
      · exact absurd void (by simp [notVoid])
      · exact absurd raw (by simp [notRaw])

end Elements

section Levels

variable {nodes siblings : List Node} {ancestors : Nat}

/-- By induction on the way down to the level. -/
theorem AreRead.level (read : AreRead 0 nodes) (level : Level nodes ancestors siblings) :
    AreRead ancestors siblings := by
  induction level with
  | top => exact read
  | inside _ member inductionHypothesis => exact (inductionHypothesis.each _ member).areRead

theorem Apart.texts_ne (apart : Apart siblings) (before : List Node) (first second : String)
    (after : List Node) : siblings ≠ before ++ .text first :: .text second :: after := by
  rintro rfl
  obtain ⟨-, meeting, -⟩ := List.isChain_append.1 apart
  have gap := (apart_cons.1 meeting).1 rfl (.text second) rfl
  cases gap

theorem AreRead.isReadLevel (read : AreRead ancestors siblings) :
    IsReadLevel ancestors siblings where
  textsApart := read.apart.texts_ne
  texts := by
    rintro text member rfl
    cases read.each _ member with
    | text filled => exact filled rfl
  comments text member := by
    cases read.each _ member with
    | comment isComment => exact isComment
  elements _ _ _ member := (read.each _ member).element_spec

end Levels

/-! ## How deep a tree is -/

mutual

/-- No element stands below the limit, so the one above it is the last that holds
others. -/
theorem Node.IsRead.height_le (ancestors : Nat) : (node : Node) → node.IsRead ancestors →
    ancestors ≤ maxNesting + 1 → ancestors + node.height ≤ maxNesting + 1
  | .text _, _, within => within
  | .comment _, _, within => within
  | .element tag attributes children, read, _ => by
      have shallow := read.element_spec.1
      have below := AreRead.height_le (ancestors + 1) children read.areRead (by omega)
      rw [Node.height]
      omega

theorem AreRead.height_le (ancestors : Nat) : (nodes : List Node) → AreRead ancestors nodes →
    ancestors ≤ maxNesting + 1 → ancestors + height nodes ≤ maxNesting + 1
  | [], _, within => within
  | node :: rest, read, within => by
      obtain ⟨first, later⟩ := List.forall_mem_cons.1 read.each
      have here := Node.IsRead.height_le ancestors node first within
      have behind :=
        AreRead.height_le ancestors rest ⟨(apart_cons.1 read.apart).2, later⟩ within
      rw [height]
      omega

end

/-- Whatever the source, strictly or leniently read: each level of the tree is as reading
leaves siblings, and there is a bound on how deep a walk through the tree goes. -/
theorem levels_of_read (markup : String) (nodes : List Node)
    (read : parse markup = .ok nodes ∨ parseLeniently markup = nodes) :
    height nodes ≤ maxNesting + 1 ∧
      ∀ ancestors siblings, Level nodes ancestors siblings →
        IsReadLevel ancestors siblings := by
  have areRead : AreRead 0 nodes := by
    rcases read with parsed | rfl
    · exact areRead_of_parse parsed
    · exact areRead_parseLeniently markup
  have height := areRead.height_le 0 nodes (Nat.zero_le _)
  rw [Nat.zero_add] at height
  exact ⟨height, fun ancestors siblings level => (areRead.level level).isReadLevel⟩

/-- A page in mixed case with texts on both sides of a stray tag, a raw element, a void one
and a comment that the end cuts off. -/
theorem levels_of_read_cutOff :
    let markup := "<UL><LI Class=A>1</b>2<BR>3<script>if (a < b) '</p>'</Script><!-- 4 ->"
    let nodes : List Node :=
      [.element "ul" []
        [.element "li" [⟨"class", some "A"⟩]
          [.text "12", .element "br" [] [], .text "3",
            .element "script" [] [.text "if (a < b) '</p>'"], .comment " 4 ->"]]]
    parseLeniently markup = nodes ∧ height nodes ≤ maxNesting + 1 ∧
      ∀ ancestors siblings, Level nodes ancestors siblings →
        IsReadLevel ancestors siblings := by
  intro markup nodes
  have read : parseLeniently markup = nodes := by decide +kernel
  exact ⟨read, levels_of_read markup nodes (.inr read)⟩

end LivePages.Markup
