import LivePages.Markup.Entity
import LivePages.Markup.Node

/-! Markup trees as texts. -/

namespace LivePages.Markup

def writeAttribute (a : Attribute) : List Char :=
  ' ' :: a.name.toList ++
    match a.value with
    | some v => '=' :: '"' :: escapeAttribute v.toList ++ ['"']
    | none => []

mutual

/-- The markup of a node. -/
def write : Node → List Char
  | .element tag attributes children =>
    '<' :: tag.toList ++ attributes.flatMap writeAttribute ++ '>' ::
      if isVoid tag then [] else writeAll children ++ '<' :: '/' :: tag.toList ++ ['>']
  | .text text => text.toList
  | .comment text => ['<', '!', '-', '-'] ++ text.toList ++ ['-', '-', '>']

/-- The markup of a list of nodes. -/
def writeAll : List Node → List Char
  | [] => []
  | node :: rest => write node ++ writeAll rest

end

def toHtml (nodes : List Node) : String := String.ofList (writeAll nodes)

def Element.outerHtml (e : Element) : String :=
  String.ofList (write (.element e.tag e.attributes e.children))

def Element.innerHtml (e : Element) : String := toHtml e.children

end LivePages.Markup
