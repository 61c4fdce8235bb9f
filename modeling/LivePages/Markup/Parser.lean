import LivePages.Markup.Forest
import LivePages.Text.Basic

/-! Markup texts as trees, strictly and leniently. The two readings differ only in what happens at
a construct that is cut off, and at elements that are nested too deep. -/

namespace LivePages.Markup

/-- How many elements may be open at the same time. -/
def maxNesting : Nat := 256

/-- Why a markup text is refused. Offsets count bytes. -/
inductive ParseError where
  | unterminatedComment (offset : Nat)
  | unterminatedAttribute (offset : Nat)
  | unterminatedTag (offset : Nat)
  | nestingTooDeep (limit : Nat)
deriving DecidableEq, Inhabited

def ParseError.message : ParseError → String
  | unterminatedComment offset => "unterminated comment starting at byte " ++ toString offset
  | unterminatedAttribute offset =>
    "unterminated attribute value starting at byte " ++ toString offset
  | unterminatedTag offset => "unterminated tag starting at byte " ++ toString offset
  | nestingTooDeep limit => "markup nesting exceeds " ++ toString limit ++ " levels"

/-- The children of a raw element with that content. -/
def rawChildren (content : List Char) : List Node :=
  if content.isEmpty then [] else [.text (String.ofList content)]

/-- Adds a piece to a forest. There is no result if an element is nested too deep. -/
def Forest.build? (f : Forest) : Piece → Option Forest
  | .text text => some (f.addText (String.ofList text))
  | .comment text => some (f.add (.comment (String.ofList text)))
  | .leaf tag attributes => some (f.add (.element tag attributes []))
  | .raw tag attributes content => some (f.add (.element tag attributes (rawChildren content)))
  | .opening tag attributes =>
    if f.stack.length < maxNesting then some (f.push tag attributes) else none
  | .closing tag => some (f.close tag)

/-- Adds a piece to a forest. An element nested too deep stays empty, and its content moves to the
enclosing element. -/
def Forest.buildLeniently (f : Forest) (p : Piece) : Forest :=
  match f.build? p, p with
  | some g, _ => g
  | none, .opening tag attributes => f.add (.element tag attributes [])
  | none, _ => f

/-- The error for a construct that is cut off at the end of `cs`. -/
def Cut.error (cs : List Char) : Cut → ParseError
  | .comment rest => .unterminatedComment (Text.byteLength cs - Text.byteLength rest)
  | .value rest => .unterminatedAttribute (Text.byteLength cs - Text.byteLength rest)
  | .tag rest => .unterminatedTag (Text.byteLength cs - Text.byteLength rest)

def parseChars (cs : List Char) : Except ParseError (List Node) :=
  let (ps, cut) := pieces cs
  match ps.foldlM Forest.build? Forest.empty, cut with
  | none, _ => .error (.nestingTooDeep maxNesting)
  | some _, some c => .error (c.error cs)
  | some f, none => .ok f.finish

/-- An unterminated comment runs to the end of the text; any other construct that is cut off is
dropped. -/
def Forest.recover (f : Forest) : Option Cut → Forest
  | some (.comment rest) => f.add (.comment (String.ofList (rest.drop 4)))
  | _ => f

def parseCharsLeniently (cs : List Char) : List Node :=
  let (ps, cut) := pieces cs
  ((ps.foldl Forest.buildLeniently Forest.empty).recover cut).finish

/-- The nodes of a markup text. Elements that are not closed end where an enclosing one is closed,
or at the end of the text. -/
def parse (markup : String) : Except ParseError (List Node) := parseChars markup.toList

/-- The nodes of any text at all, as a browser would read it. -/
def parseLeniently (markup : String) : List Node := parseCharsLeniently markup.toList

end LivePages.Markup
