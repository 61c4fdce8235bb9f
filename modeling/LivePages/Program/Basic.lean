import LivePages.Markup.Parser
import LivePages.Template

namespace LivePages

/-- A step of a compiled page. -/
inductive Instruction where
  /-- Emits markup. -/
  | append (template : Template)
  /-- Repeats the body once for each value of the loop. -/
  | loop (header : String) (body : List Instruction)
  /-- Emits the body of the first arm whose condition holds; an arm without one always does. -/
  | branch (arms : List (Option String × List Instruction))
  /-- A layout with the content put into its slot. -/
  | layout (name : String) (body : List Instruction)
deriving Inhabited

abbrev Arm := Option String × List Instruction

abbrev Program := List Instruction

/-- How many layouts may be included inside each other. -/
def maxLayoutDepth : Nat := 16

/-- The element that the content of a layout replaces. -/
def slotTag : String := "slot"

/-- Why a page cannot be compiled. -/
inductive CompileError where
  | parse (cause : Markup.ParseError)
  | orphanBranch (directive : String)
  | unknownLayout (name : String)
  | layoutDepthExceeded (limit : Nat)
  | unterminatedInterpolation (offset : Nat)
deriving DecidableEq, Inhabited

def CompileError.message : CompileError → String
  | parse cause => "Failed to parse markup: " ++ cause.message
  | orphanBranch directive => "`" ++ directive ++ "` without a preceding `:if`"
  | unknownLayout name => "Unknown layout: " ++ name
  | layoutDepthExceeded limit => "Layouts nested deeper than " ++ toString limit ++ " levels"
  | unterminatedInterpolation offset =>
    "Unterminated `$\x7b` interpolation at byte " ++ toString offset

end LivePages
