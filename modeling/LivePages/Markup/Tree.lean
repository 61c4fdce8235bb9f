import LivePages.Markup.Printer

/-! Search and change in markup trees. What stands below an inert element is not part of the live
document. -/

namespace LivePages.Markup

/-- Whether a node is an element of that tag. -/
def Node.hasTag (tag : String) : Node → Bool
  | .element t _ _ => t = tag
  | _ => false

/-- Replaces the first of the nodes that is an element of that tag by a list of nodes. What stands
below the nodes is left alone. -/
def replaceSibling? (tag : String) (replacement : List Node) : List Node → Option (List Node)
  | [] => none
  | node :: rest =>
    if node.hasTag tag then some (replacement ++ rest)
    else (replaceSibling? tag replacement rest).map (node :: ·)

/-- Replaces the first element of that tag that stands below the nodes. Below the first of them that
has the tag itself, and behind it, nothing is searched. -/
def replaceBelow? (tag : String) (replacement : List Node) : List Node → Option (List Node)
  | [] => none
  | .element t attributes children :: rest =>
    if t = tag then none
    else
      match replaceBelow? tag replacement children <|>
        replaceSibling? tag replacement children with
      | some changed => some (.element t attributes changed :: rest)
      | none => (replaceBelow? tag replacement rest).map (.element t attributes children :: ·)
  | node :: rest => (replaceBelow? tag replacement rest).map (node :: ·)
termination_by nodes => sizeOf nodes

/-- Replaces the first element of that tag, in the order in which elements open, by a list of nodes.
It stands below a node in front of the first one that has the tag, or else is that one. There is no
result without such an element. -/
def replaceFirst? (tag : String) (replacement nodes : List Node) : Option (List Node) :=
  replaceBelow? tag replacement nodes <|> replaceSibling? tag replacement nodes

section ReplaceFirst

variable (tag : String) (replacement : List Node)

@[simp] theorem replaceFirst?_nil : replaceFirst? tag replacement [] = none := by
  simp [replaceFirst?, replaceBelow?, replaceSibling?]

/-- An element opens before its children, and these before what stands behind it. -/
theorem replaceFirst?_element (t : String) (attributes : List Attribute)
    (children rest : List Node) :
    replaceFirst? tag replacement (.element t attributes children :: rest) =
      if t = tag then some (replacement ++ rest)
      else
        match replaceFirst? tag replacement children with
        | some changed => some (.element t attributes changed :: rest)
        | none => (replaceFirst? tag replacement rest).map (.element t attributes children :: ·) := by
  rw [replaceFirst?, replaceBelow?, replaceSibling?]
  by_cases same : t = tag
  · simp [same, Node.hasTag]
  · rw [if_neg same, if_neg same, if_neg (by simpa [Node.hasTag] using same)]
    rw [← replaceFirst?]
    cases replaceFirst? tag replacement children with
    | some changed => rfl
    | none =>
        rw [replaceFirst?]
        cases replaceBelow? tag replacement rest <;> rfl

theorem replaceFirst?_other {node : Node}
    (noElement : ∀ t attributes children, node ≠ .element t attributes children)
    (rest : List Node) :
    replaceFirst? tag replacement (node :: rest) =
      (replaceFirst? tag replacement rest).map (node :: ·) := by
  have noTag : node.hasTag tag = false := by
    cases node with
    | element t attributes children => exact absurd rfl (noElement t attributes children)
    | _ => rfl
  rw [replaceFirst?, replaceBelow?, replaceSibling?, noTag, replaceFirst?]
  · cases replaceBelow? tag replacement rest <;> rfl
  · exact noElement

end ReplaceFirst

/-- The live elements in the order in which they open. What stands inside an inert element is not
live. -/
def liveElements : List Node → List Element
  | [] => []
  | .element tag attributes children :: rest =>
    ⟨tag, attributes, children⟩ ::
      ((if isInert tag then [] else liveElements children) ++ liveElements rest)
  | _ :: rest => liveElements rest
termination_by nodes => sizeOf nodes

/-- Changes the attributes of the live elements one after the other, in the order in which they
open, along with a state. -/
def mapLive {σ : Type} (change : String → List Attribute → σ → List Attribute × σ) :
    List Node → σ → List Node × σ
  | [], s => ([], s)
  | .element tag attributes children :: rest, s =>
    let (attributes, s) := change tag attributes s
    let (children, s) := if isInert tag then (children, s) else mapLive change children s
    let (rest, s) := mapLive change rest s
    (.element tag attributes children :: rest, s)
  | node :: rest, s =>
    let (rest, s) := mapLive change rest s
    (node :: rest, s)
termination_by nodes => sizeOf nodes

/-- The first live element with that id. -/
def findById? (id : String) : List Node → Option Element
  | [] => none
  | .element tag attributes children :: rest =>
    if idOf? attributes = some id then some ⟨tag, attributes, children⟩
    else
      let inside := if isInert tag then none else findById? id children
      match inside with
      | some e => some e
      | none => findById? id rest
  | _ :: rest => findById? id rest
termination_by nodes => sizeOf nodes

/-- The ids of the live elements in the order in which they open. -/
def liveIds : List Node → List String
  | [] => []
  | .element tag attributes children :: rest =>
    (idOf? attributes).toList ++ ((if isInert tag then [] else liveIds children) ++ liveIds rest)
  | _ :: rest => liveIds rest
termination_by nodes => sizeOf nodes

/-- Puts nodes on a stack one after the other, so that the last of them is on top. -/
def pushAll : List Node → List Node → List Node
  | [], stack => stack
  | node :: nodes, stack => pushAll nodes (node :: stack)

theorem sizeOf_pushAll (nodes stack : List Node) :
    sizeOf (pushAll nodes stack) + 1 = sizeOf nodes + sizeOf stack := by
  induction nodes generalizing stack with
  | nil => simp [pushAll, Nat.add_comm]
  | cons node nodes inductionHypothesis =>
      have pushed := inductionHypothesis (node :: stack)
      simp only [pushAll, List.cons.sizeOf_spec] at pushed ⊢
      omega

/-- Adds the ids of the live elements on a stack of nodes and below them, each once. -/
def gatherIds : List Node → List String → List String
  | [], ids => ids
  | .element tag attributes children :: stack, ids =>
    let ids := (idOf? attributes).elim ids ids.insert
    gatherIds (if isInert tag then stack else pushAll children stack) ids
  | _ :: stack, ids => gatherIds stack ids
termination_by stack => sizeOf stack
decreasing_by
  · have pushed := sizeOf_pushAll children stack
    simp only [List.cons.sizeOf_spec, Node.element.sizeOf_spec]
    split <;> omega
  · simp only [List.cons.sizeOf_spec]
    omega

/-- The ids that live elements have before any are given out. -/
def authoredIds (nodes : List Node) : List String := gatherIds (pushAll nodes []) []

end LivePages.Markup
