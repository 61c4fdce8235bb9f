import LivePages.Markup.Parser
import LivePages.Markup.Tree

/-! The document a client shows, with its focus. -/

namespace LivePages

open Markup (Element Node)

/-- The rendered document, with the focused element and the caret in it. -/
structure Document where
  nodes : List Node
  focused : Option String
  caret : Option Nat
deriving Inhabited

/-- Whether an element has a caret. -/
def Markup.Element.isSelectable (e : Element) : Bool := e.tag = "input" || e.tag = "textarea"

/-- The value of a form field: the content of a text area, otherwise the attribute. -/
def Markup.Element.fieldValue (e : Element) : String :=
  if e.tag = "textarea" then e.innerHtml else (e.attribute? "value").getD ""

namespace Document

def empty : Document := ⟨[], none, none⟩

/-- Replaces the whole document. Nothing stays focused. -/
def replaceMarkup (markup : String) (_ : Document) : Document :=
  ⟨Markup.parseLeniently markup, none, none⟩

def toHtml (d : Document) : String := Markup.toHtml d.nodes

def find? (d : Document) (id : String) : Option Element := Markup.findById? id d.nodes

/-- Focuses the element with that id, if there is one. -/
def focus? (id : String) (d : Document) : Option Document :=
  (d.find? id).map fun _ => { d with focused := some id, caret := none }

def blur (d : Document) : Document := { d with focused := none, caret := none }

/-- Puts the caret into the focused element, at most at the end of its value. There is no result
without a focused element that has a caret. -/
def setCaret? (offset : Nat) (d : Document) : Option Document :=
  match d.focused.bind d.find? with
  | none => none
  | some e =>
    if e.isSelectable then some { d with caret := some (min offset e.fieldValue.length) } else none

end Document

end LivePages
