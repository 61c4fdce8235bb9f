import LivePages.Expr.Parser

/-!
# Names that are mentioned

The names that an expression mentions are those it looks up and those of the functions
it calls.  A source mentions the names of the expression that is read from it, and none
if none can be read.
-/

namespace LivePages.Expr

mutual

/-- The names that an expression mentions. -/
def names : Expr → List String
  | literal _ => []
  | name n => [n]
  | array es => namesAll es
  | member object _ => object.names
  | index object position => object.names ++ position.names
  | call callee args => callee.names ++ namesAll args
  | unary _ operand => operand.names
  | binary _ left right => left.names ++ right.names
  | logical _ left right => left.names ++ right.names
  | conditional test consequent alternate =>
    test.names ++ (consequent.names ++ alternate.names)

def namesAll : List Expr → List String
  | [] => []
  | e :: es => e.names ++ namesAll es

end

/-- The names that the source of an expression mentions. -/
def namesIn (source : String) : List String :=
  match parseExpression source with
  | .ok e => e.names
  | .error _ => []

theorem namesIn_of_parse {source : String} {e : Expr} (parsed : parseExpression source = .ok e) :
    namesIn source = e.names := by
  rw [namesIn, parsed]

end LivePages.Expr
