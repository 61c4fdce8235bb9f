import LivePages.Markup.Tree
import LivePages.Proofs.Markup.Output

/-!
# Places in a tree

A frame is a list of nodes with a gap at some place, at any depth.  What is put into
the gap shows up as it is in the markup of the whole, as long as the elements around
the gap are not void.
-/

namespace LivePages.Markup

/-- The tags of all elements, in the order in which they open. -/
def tagsOf : List Node → List String
  | [] => []
  | .element tag _ children :: rest => tag :: (tagsOf children ++ tagsOf rest)
  | _ :: rest => tagsOf rest

/-- A list of nodes with a gap in it. -/
inductive Frame where
  | here (before after : List Node)
  | inside (before : List Node) (tag : String) (attributes : List Attribute)
    (inner : Frame) (after : List Node)

namespace Frame

/-- Puts nodes into the gap. -/
def fill (nodes : List Node) : Frame → List Node
  | here before after => before ++ (nodes ++ after)
  | inside before tag attributes inner after =>
    before ++ .element tag attributes (inner.fill nodes) :: after

/-- The tags of the elements that open in front of the gap. -/
def opened : Frame → List String
  | here before _ => tagsOf before
  | inside before tag _ inner _ => tagsOf before ++ tag :: inner.opened

/-- The tags of the elements that open behind the gap. -/
def following : Frame → List String
  | here _ after => tagsOf after
  | inside _ _ _ inner after => inner.following ++ tagsOf after

/-- Whether the gap stands inside no element. -/
def isTop : Frame → Bool
  | here .. => true
  | inside .. => false

/-- The markup in front of the gap. -/
def left : Frame → List Char
  | here before _ => writeAll before
  | inside before tag attributes inner _ =>
    writeAll before ++
      ('<' :: tag.toList ++ attributes.flatMap writeAttribute ++ '>' :: inner.left)

/-- The markup behind the gap. -/
def right : Frame → List Char
  | here _ after => writeAll after
  | inside _ tag _ inner after =>
    inner.right ++ ('<' :: '/' :: tag.toList ++ '>' :: writeAll after)

/-- No void element stands around the gap. -/
def IsShown : Frame → Prop
  | here .. => True
  | inside _ tag _ inner _ => isVoid tag = false ∧ inner.IsShown

end Frame

theorem tagsOf_append (first second : List Node) :
    tagsOf (first ++ second) = tagsOf first ++ tagsOf second := by
  induction first with
  | nil => simp [tagsOf]
  | cons node first inductionHypothesis =>
      cases node <;> simp [tagsOf, inductionHypothesis]

theorem writeAll_append (first second : List Node) :
    writeAll (first ++ second) = writeAll first ++ writeAll second := by
  induction first with
  | nil => rfl
  | cons node first inductionHypothesis =>
      simp [writeAll, inductionHypothesis]

theorem writeAll_suffix {last nodes : List Node} (suffix : last <:+ nodes) :
    writeAll last <:+ writeAll nodes := by
  obtain ⟨front, rfl⟩ := suffix
  rw [writeAll_append]
  exact List.suffix_append _ _

/-! ## Finding the gap -/

theorem replaceFirst?_of_notMem (tag : String) (replacement : List Node) :
    ∀ nodes : List Node, tag ∉ tagsOf nodes → replaceFirst? tag replacement nodes = none
  | [], _ => replaceFirst?_nil tag replacement
  | .text text :: rest, absent => by
      simp only [tagsOf] at absent
      rw [replaceFirst?_other tag replacement (by simp),
        replaceFirst?_of_notMem tag replacement rest absent, Option.map_none]
  | .comment text :: rest, absent => by
      simp only [tagsOf] at absent
      rw [replaceFirst?_other tag replacement (by simp),
        replaceFirst?_of_notMem tag replacement rest absent, Option.map_none]
  | .element t attributes children :: rest, absent => by
      simp only [tagsOf, List.mem_cons, List.mem_append, not_or] at absent
      obtain ⟨other, inChildren, inRest⟩ := absent
      rw [replaceFirst?_element, if_neg (Ne.symm other),
        replaceFirst?_of_notMem tag replacement children inChildren]
      dsimp only
      rw [replaceFirst?_of_notMem tag replacement rest inRest]
      rfl

/-- Nodes without such an element are passed over. -/
theorem replaceFirst?_append (tag : String) (replacement : List Node)
    {before : List Node} (absent : tag ∉ tagsOf before) (rest : List Node) :
    replaceFirst? tag replacement (before ++ rest) =
      (replaceFirst? tag replacement rest).map (before ++ ·) := by
  induction before with
  | nil => simp
  | cons node before inductionHypothesis =>
      cases node with
      | text text =>
          simp only [tagsOf] at absent
          rw [List.cons_append, replaceFirst?_other tag replacement (by simp)]
          simp [inductionHypothesis absent, Function.comp_def]
      | comment text =>
          simp only [tagsOf] at absent
          rw [List.cons_append, replaceFirst?_other tag replacement (by simp)]
          simp [inductionHypothesis absent, Function.comp_def]
      | element t attributes children =>
          simp only [tagsOf, List.mem_cons, List.mem_append, not_or] at absent
          obtain ⟨other, inChildren, later⟩ := absent
          rw [List.cons_append, replaceFirst?_element, if_neg (Ne.symm other),
            replaceFirst?_of_notMem tag replacement children inChildren]
          dsimp only
          rw [inductionHypothesis later]
          simp [Function.comp_def]

/-- What is put into the gap opens between what opens in front of it and behind it. -/
theorem Frame.tagsOf_fill (frame : Frame) (nodes : List Node) :
    tagsOf (frame.fill nodes) = frame.opened ++ (tagsOf nodes ++ frame.following) := by
  induction frame with
  | here before after => rw [fill, tagsOf_append, tagsOf_append, opened, following]
  | inside before tag attributes inner after inductionHypothesis =>
      rw [fill, tagsOf_append, tagsOf, inductionHypothesis, opened, following]
      simp only [List.append_assoc, List.cons_append]

/-- An element in the gap is the first one of its tag if none of the tag opens in front. -/
theorem Frame.replaceFirst?_fill {tag : String} (replacement : List Node)
    (attributes : List Attribute) (children : List Node) {frame : Frame}
    (absent : tag ∉ frame.opened) :
    replaceFirst? tag replacement (frame.fill [.element tag attributes children]) =
      some (frame.fill replacement) := by
  induction frame with
  | here before after =>
      rw [fill, replaceFirst?_append tag replacement absent, List.cons_append,
        replaceFirst?_element, if_pos rfl]
      rfl
  | inside before t around inner after inductionHypothesis =>
      rw [opened, List.mem_append, List.mem_cons, not_or, not_or] at absent
      obtain ⟨inBefore, other, inInner⟩ := absent
      rw [fill, replaceFirst?_append tag replacement inBefore, replaceFirst?_element,
        if_neg (Ne.symm other), inductionHypothesis inInner]
      rfl

/-- What is put into the gap stands between the two sides of the frame. -/
theorem Frame.writeAll_fill {frame : Frame} (isShown : frame.IsShown)
    (nodes : List Node) :
    writeAll (frame.fill nodes) = frame.left ++ (writeAll nodes ++ frame.right) := by
  induction frame with
  | here before after => simp only [fill, left, right, writeAll_append]
  | inside before tag attributes inner after inductionHypothesis =>
      obtain ⟨notVoid, isShown⟩ := isShown
      rw [fill, writeAll_append, writeAll, write, inductionHypothesis isShown, left, right]
      simp [notVoid]

theorem Frame.fill_ne_nil {nodes : List Node} (filled : nodes ≠ []) (frame : Frame) :
    frame.fill nodes ≠ [] := by
  cases frame <;> simp [fill, filled]

/-- A void element is read without children, so no gap stands in one. -/
theorem Frame.isShown_of_fill {nodes : List Node} (filled : nodes ≠ []) {frame : Frame}
    {ancestors : Nat} (read : ∀ n ∈ frame.fill nodes, n.IsRead ancestors) : frame.IsShown := by
  induction frame generalizing ancestors with
  | here before after => trivial
  | inside before tag attributes inner after inductionHypothesis =>
      have member : Node.element tag attributes (inner.fill nodes) ∈
          fill nodes (inside before tag attributes inner after) :=
        List.mem_append_right _ List.mem_cons_self
      obtain ⟨notVoid, inside⟩ := (read _ member).children (inner.fill_ne_nil filled)
      exact ⟨notVoid, inductionHypothesis inside⟩

/-! ## Comparing trees -/

mutual

def Node.decideEq : (a b : Node) → Decidable (a = b)
  | .text s, .text t => decidable_of_iff (s = t) (by simp)
  | .comment s, .comment t => decidable_of_iff (s = t) (by simp)
  | .element tag attributes children, .element t as cs =>
    have := Node.decideAllEq children cs
    decidable_of_iff (tag = t ∧ attributes = as ∧ children = cs) (by simp)
  | .text _, .comment _ | .text _, .element .. | .comment _, .text _
  | .comment _, .element .. | .element .., .text _ | .element .., .comment _ =>
    isFalse nofun

def Node.decideAllEq : (as bs : List Node) → Decidable (as = bs)
  | [], [] => isTrue rfl
  | a :: as, b :: bs =>
    have := Node.decideEq a b
    have := Node.decideAllEq as bs
    decidable_of_iff (a = b ∧ as = bs) (by simp)
  | [], _ :: _ | _ :: _, [] => isFalse nofun

end

instance : DecidableEq Node := Node.decideEq

instance decidableReadChars (cs : List Char) (nodes : List Node) :
    Decidable (parseChars cs = .ok nodes) :=
  match parseChars cs with
  | .error _ => isFalse nofun
  | .ok found =>
      decidable_of_iff (found = nodes)
        ⟨congrArg _, fun same => Except.ok.inj same⟩

instance decidableRead (markup : String) (nodes : List Node) :
    Decidable (parse markup = .ok nodes) :=
  inferInstanceAs (Decidable (parseChars markup.toList = .ok nodes))

end LivePages.Markup
