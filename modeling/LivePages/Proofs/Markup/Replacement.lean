import LivePages.Proofs.Markup.Frame

/-!
# Replacing an element

Elements open one after the other, each before what stands inside it.  The first of a tag
has one place in a tree, if there is one at all, and that is where it is replaced: the
tree in which other nodes stand at this place differs in nothing else.
-/

namespace LivePages.Markup

/-- The place of the first element of a tag: one stands in the gap, and none of the tag opens
in front of it. -/
structure Frame.IsFirst (tag : String) (nodes : List Node) (frame : Frame) : Prop where
  holds : ∃ attributes children, nodes = frame.fill [.element tag attributes children]
  first : tag ∉ frame.opened

namespace Frame

/-- The frame with one more node in front of it. -/
def behind (node : Node) : Frame → Frame
  | here before after => here (node :: before) after
  | inside before tag attributes inner after =>
    inside (node :: before) tag attributes inner after

variable {tag : String} {nodes : List Node}

theorem fill_behind (node : Node) (frame : Frame) (nodes : List Node) :
    (frame.behind node).fill nodes = node :: frame.fill nodes := by
  cases frame <;> rfl

theorem opened_behind (node : Node) (frame : Frame) :
    (frame.behind node).opened = tagsOf [node] ++ frame.opened := by
  cases frame with
  | here before after => exact tagsOf_append [node] before
  | inside before tag attributes inner after =>
      rw [behind, opened, opened, ← List.singleton_append, tagsOf_append, List.append_assoc]

theorem IsFirst.behind {node : Node} {frame : Frame} (isFirst : frame.IsFirst tag nodes)
    (absent : tag ∉ tagsOf [node]) : (frame.behind node).IsFirst tag (node :: nodes) := by
  obtain ⟨attributes, children, rfl⟩ := isFirst.holds
  refine ⟨⟨attributes, children, (fill_behind node frame _).symm⟩, ?_⟩
  rw [opened_behind, List.mem_append, not_or]
  exact ⟨absent, isFirst.first⟩

/-- The first element of a tag is sought in front of what stands behind it. -/
theorem exists_isFirst :
    (nodes : List Node) → tag ∈ tagsOf nodes → ∃ frame : Frame, frame.IsFirst tag nodes
  | [], member => by simp [tagsOf] at member
  | .text text :: rest, member => by
      simp only [tagsOf] at member
      obtain ⟨frame, isFirst⟩ := exists_isFirst rest member
      exact ⟨_, isFirst.behind (by simp [tagsOf])⟩
  | .comment text :: rest, member => by
      simp only [tagsOf] at member
      obtain ⟨frame, isFirst⟩ := exists_isFirst rest member
      exact ⟨_, isFirst.behind (by simp [tagsOf])⟩
  | .element t attributes children :: rest, member => by
      by_cases same : t = tag
      · subst same
        exact ⟨here [] rest, ⟨attributes, children, rfl⟩, by simp [opened, tagsOf]⟩
      · by_cases within : tag ∈ tagsOf children
        · obtain ⟨inner, ⟨as, cs, filled⟩, first⟩ := exists_isFirst children within
          refine ⟨inside [] t attributes inner rest, ⟨as, cs, ?_⟩, ?_⟩
          · rw [filled]
            rfl
          · rw [opened, tagsOf, List.nil_append, List.mem_cons, not_or]
            exact ⟨Ne.symm same, first⟩
        · rw [tagsOf, List.mem_cons, List.mem_append, or_iff_right (Ne.symm same),
            or_iff_right within] at member
          obtain ⟨frame, isFirst⟩ := exists_isFirst rest member
          refine ⟨_, isFirst.behind ?_⟩
          rw [tagsOf, tagsOf, List.append_nil, List.mem_cons, not_or]
          exact ⟨Ne.symm same, within⟩

/-- The first node in which a tag opens stands in one place only. -/
theorem split_unique {x y : Node} {before before' after after' : List Node}
    (same : before ++ x :: after = before' ++ y :: after')
    (inX : tag ∈ tagsOf [x]) (inY : tag ∈ tagsOf [y])
    (absent : tag ∉ tagsOf before) (absent' : tag ∉ tagsOf before') :
    before = before' ∧ x = y ∧ after = after' := by
  induction before generalizing before' with
  | nil =>
      cases before' with
      | nil => exact ⟨rfl, List.cons.inj same⟩
      | cons node before' =>
          obtain ⟨rfl, -⟩ := List.cons.inj same
          rw [← List.singleton_append, tagsOf_append, List.mem_append, not_or] at absent'
          exact absurd inX absent'.1
  | cons node before inductionHypothesis =>
      rw [← List.singleton_append, tagsOf_append, List.mem_append, not_or] at absent
      cases before' with
      | nil =>
          obtain ⟨rfl, -⟩ := List.cons.inj same
          exact absurd inY absent.1
      | cons other before' =>
          obtain ⟨rfl, behind⟩ := List.cons.inj same
          rw [← List.singleton_append, tagsOf_append, List.mem_append, not_or] at absent'
          obtain ⟨rfl, rest⟩ := inductionHypothesis behind absent.2 absent'.2
          exact ⟨rfl, rest⟩

theorem mem_tagsOf_singleton (tag : String) (attributes : List Attribute)
    (children : List Node) : tag ∈ tagsOf [.element tag attributes children] := by
  rw [tagsOf]
  exact List.mem_cons_self

theorem mem_tagsOf_around (t : String) (around attributes : List Attribute)
    (children : List Node) (inner : Frame) :
    tag ∈ tagsOf [.element t around (inner.fill [.element tag attributes children])] := by
  rw [tagsOf, tagsOf_fill]
  simp [mem_tagsOf_singleton]

/-- By induction on the place, element by element that is around it. -/
theorem IsFirst.unique {frame other : Frame} (isFirst : frame.IsFirst tag nodes)
    (alsoFirst : other.IsFirst tag nodes) : other = frame := by
  obtain ⟨⟨attributes, children, filled⟩, first⟩ := isFirst
  obtain ⟨⟨as, cs, alsoFilled⟩, first'⟩ := alsoFirst
  rw [filled] at alsoFilled
  clear filled
  induction frame generalizing other with
  | here before after =>
      cases other with
      | here before' after' =>
          obtain ⟨rfl, -, rfl⟩ := split_unique alsoFilled (mem_tagsOf_singleton ..)
            (mem_tagsOf_singleton ..) first first'
          rfl
      | inside before' t around inner after' =>
          rw [opened, List.mem_append, List.mem_cons, not_or, not_or] at first'
          obtain ⟨-, same, -⟩ := split_unique alsoFilled (mem_tagsOf_singleton ..)
            (mem_tagsOf_around ..) first first'.1
          cases same
          exact absurd rfl first'.2.1
  | inside before t around inner after inductionHypothesis =>
      rw [opened, List.mem_append, List.mem_cons, not_or, not_or] at first
      cases other with
      | here before' after' =>
          obtain ⟨-, same, -⟩ := split_unique alsoFilled (mem_tagsOf_around ..)
            (mem_tagsOf_singleton ..) first.1 first'
          cases same
          exact absurd rfl first.2.1
      | inside before' t' around' inner' after' =>
          rw [opened, List.mem_append, List.mem_cons, not_or, not_or] at first'
          obtain ⟨rfl, same, rfl⟩ := split_unique alsoFilled (mem_tagsOf_around ..)
            (mem_tagsOf_around ..) first.1 first'.1
          obtain ⟨rfl, rfl, within⟩ := Node.element.inj same
          rw [inductionHypothesis first.2.2 first'.2.2 within]

end Frame

/-- Without an element of the tag nothing is replaced.  Otherwise the first one has its place,
and there it is replaced by the nodes, in their order.  All other nodes are as they were. -/
theorem replaceFirst?_spec (tag : String) (replacement nodes : List Node) :
    (tag ∉ tagsOf nodes ∧ replaceFirst? tag replacement nodes = none) ∨
    ∃ frame : Frame, (∀ other : Frame, other.IsFirst tag nodes ↔ other = frame) ∧
      replaceFirst? tag replacement nodes = some (frame.fill replacement) := by
  by_cases member : tag ∈ tagsOf nodes
  · obtain ⟨frame, isFirst⟩ := Frame.exists_isFirst nodes member
    refine .inr ⟨frame, fun other => ⟨isFirst.unique, ?_⟩, ?_⟩
    · rintro rfl
      exact isFirst
    · obtain ⟨attributes, children, rfl⟩ := isFirst.holds
      exact Frame.replaceFirst?_fill replacement attributes children isFirst.first
  · exact .inl ⟨member, replaceFirst?_of_notMem tag replacement nodes member⟩

/-- An element inside a template opens before one behind the template.  What is put there is
not searched again. -/
example :
    let slot : Node := .element "slot" [] []
    replaceFirst? "slot" [.text "a", slot] [.element "template" [] [slot], slot] =
      some [.element "template" [] [.text "a", slot], slot] := by
  decide +kernel

end LivePages.Markup
