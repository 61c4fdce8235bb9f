import LivePages.Markup.Piece

/-! Building a tree from tags that open and close. A closing tag closes what is open inside its
element too; one without an opening tag is dropped. -/

namespace LivePages.Markup

/-- An element whose closing tag has not been met. Its children so far stand newest first. -/
structure OpenElement where
  tag : String
  attributes : List Attribute
  newest : List Node
deriving Inhabited

/-- A partly built list of nodes: the finished nodes at the top, newest first, and the open
elements, innermost first. -/
structure Forest where
  newest : List Node
  stack : List OpenElement
deriving Inhabited

namespace Forest

def empty : Forest := ⟨[], []⟩

/-- Changes the nodes, newest first, next to which a new node is put. -/
def onNewest (change : List Node → List Node) (f : Forest) : Forest :=
  match f.stack with
  | [] => { f with newest := change f.newest }
  | top :: rest => { f with stack := { top with newest := change top.newest } :: rest }

/-- Adds a node inside the innermost open element. -/
def add (node : Node) (f : Forest) : Forest := f.onNewest (node :: ·)

/-- Adds text to nodes that stand newest first, joined to a text in front. -/
def joinText (text : String) : List Node → List Node
  | .text before :: older => .text (before ++ text) :: older
  | older => .text text :: older

/-- Adds text, joined to a text right before it. -/
def addText (text : String) (f : Forest) : Forest := f.onNewest (joinText text)

def OpenElement.close (e : OpenElement) : Node := .element e.tag e.attributes e.newest.reverse

/-- Closes the `n` innermost open elements. -/
def closeInner : Nat → Forest → Forest
  | 0, f => f
  | n + 1, f =>
    match f.stack with
    | [] => f
    | top :: rest => closeInner n (add (OpenElement.close top) { f with stack := rest })

/-- Closes the innermost open element of that tag with all that are open inside it. Without such an
element nothing happens. -/
def close (tag : String) (f : Forest) : Forest :=
  match f.stack.findIdx? fun e => e.tag = tag with
  | some n => closeInner (n + 1) f
  | none => f

/-- Opens an element. -/
def push (tag : String) (attributes : List Attribute) (f : Forest) : Forest :=
  { f with stack := ⟨tag, attributes, []⟩ :: f.stack }

/-- The finished nodes, all open elements being closed. -/
def finish (f : Forest) : List Node := (closeInner f.stack.length f).newest.reverse

end Forest

end LivePages.Markup
