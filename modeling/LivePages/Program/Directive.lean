import LivePages.Markup.Node

/-! Directives: template elements whose first attribute asks for a loop, a branch or a layout. -/

namespace LivePages

/-- What the wrapper element of a directive asks for. Only its first attribute counts. -/
inductive Directive where
  | loop (header : String)
  | conditional (condition : String)
  | elseIf (condition : String)
  | otherwise
  | layout (name : String)
  /-- Any other first attribute: the children stand in place of the wrapper. -/
  | passThrough
  /-- No attribute at all: the wrapper is skipped with its children. -/
  | malformed
deriving DecidableEq, Inhabited

namespace Directive

/-- The tag of the wrapper elements. -/
def tag : String := "template"

def elseIfName : String := ":else-if"

def otherwiseName : String := ":else"

def ofAttributes : List Markup.Attribute → Directive
  | [] => malformed
  | a :: _ =>
    let value := a.valueOrEmpty
    if a.name = ":for" then loop value
    else if a.name = ":if" then conditional value
    else if a.name = elseIfName then elseIf value
    else if a.name = otherwiseName then otherwise
    else if a.name = "layout" then layout value
    else passThrough

end Directive

end LivePages
