/-! Trees of markup. -/

namespace LivePages.Markup

/-- An attribute of an element. A bare one, such as `disabled`, has no value. -/
structure Attribute where
  name : String
  value : Option String
deriving DecidableEq, Inhabited, Repr

/-- A node of a markup tree. Text is kept as written, attribute values are decoded. -/
inductive Node where
  | element (tag : String) (attributes : List Attribute) (children : List Node)
  | text (text : String)
  | comment (text : String)
deriving Inhabited, Repr

/-- An element seen apart from the other kinds of nodes. -/
structure Element where
  tag : String
  attributes : List Attribute
  children : List Node
deriving Inhabited, Repr

/-- Elements that have neither children nor a closing tag. -/
def voidTags : List String :=
  ["area", "base", "br", "col", "embed", "hr", "img", "input", "link", "meta", "source", "track",
    "wbr"]

def isVoid (tag : String) : Bool := voidTags.contains tag

/-- Elements whose content is one raw text. -/
def rawTags : List String := ["script", "style"]

def isRaw (tag : String) : Bool := rawTags.contains tag

/-- Elements whose children are not part of the live document. -/
def isInert (tag : String) : Bool := tag = "template"

/-- The value of an attribute; a bare one has the empty value. -/
def Attribute.valueOrEmpty (a : Attribute) : String := a.value.getD ""

/-- The value of the first attribute of that name. -/
def attributeValue? (attributes : List Attribute) (name : String) : Option String :=
  (attributes.find? fun a => a.name = name).map Attribute.valueOrEmpty

/-- Gives the first attribute of that name a value, or adds one at the end. -/
def setAttribute (name value : String) : List Attribute → List Attribute
  | [] => [⟨name, some value⟩]
  | a :: rest =>
    if a.name = name then ⟨a.name, some value⟩ :: rest else a :: setAttribute name value rest

/-- The id among the attributes of an element, unless it is empty. -/
def idOf? (attributes : List Attribute) : Option String :=
  (attributeValue? attributes "id").filter (· ≠ "")

def Element.attribute? (e : Element) (name : String) : Option String :=
  attributeValue? e.attributes name

def Element.id? (e : Element) : Option String := idOf? e.attributes

end LivePages.Markup
