import LivePages.Markup.Tree
import LivePages.Program.Basic
import LivePages.Program.Directive

/-! Pages as programs. Siblings become instructions from left to right; all markup between two
directives is one template, and the arms of a branch may have text and comments between them. -/

namespace LivePages

/-- Instructions under construction for a list of siblings. -/
structure Emitter where
  instructions : List Instruction
  /-- Markup that no instruction holds yet. -/
  markup : String
  /-- The arms of a branch that may still go on. -/
  chain : Option (List Arm)
  /-- Markup met since the last arm. It counts only if the branch does not go on. -/
  pending : String
deriving Inhabited

namespace Emitter

def empty : Emitter := ⟨[], "", none, ""⟩

def flushMarkup (e : Emitter) : Except CompileError Emitter :=
  if e.markup = "" then .ok e
  else
    match Template.parse e.markup with
    | .ok t => .ok { e with instructions := e.instructions ++ [.append t], markup := "" }
    | .error offset => .error (.unterminatedInterpolation offset)

def closeChain (e : Emitter) : Emitter :=
  let instructions :=
    match e.chain with
    | some arms => e.instructions ++ [.branch arms]
    | none => e.instructions
  ⟨instructions, e.markup ++ e.pending, none, ""⟩

/-- Adds the markup of a node. Between the arms of a branch, text and comments wait. -/
def addMarkup (node : Markup.Node) (e : Emitter) : Emitter :=
  let html := Markup.toHtml [node]
  match node, e.chain with
  | .element .., _ | _, none =>
    let e := e.closeChain
    { e with markup := e.markup ++ html }
  | _, some _ => { e with pending := e.pending ++ html }

def addInstructions (is : List Instruction) (e : Emitter) : Except CompileError Emitter := do
  let e ← e.closeChain.flushMarkup
  return { e with instructions := e.instructions ++ is }

def openChain (arm : Arm) (e : Emitter) : Except CompileError Emitter := do
  let e ← e.closeChain.flushMarkup
  return { e with chain := some [arm] }

def continueChain (directive : String) (arm : Arm) (e : Emitter) : Except CompileError Emitter :=
  match e.chain with
  | some arms => .ok { e with chain := some (arms ++ [arm]), pending := "" }
  | none => .error (.orphanBranch directive)

def finish (e : Emitter) : Except CompileError (List Instruction) :=
  e.closeChain.flushMarkup.map Emitter.instructions

end Emitter

/-- How layouts are found while a page is compiled, and how errors are reported. Finding a layout
may change a state `σ` and fail in its own way. -/
structure LayoutSource (σ ε : Type) where
  /-- The nodes of a layout, if it is known. -/
  resolve : String → ExceptT ε (StateM σ) (Option (List Markup.Node))
  report : CompileError → ε

namespace LayoutSource

variable {σ ε : Type}

/-- Reports the errors of a step of compiling. -/
def check (source : LayoutSource σ ε) {α : Type} :
    Except CompileError α → ExceptT ε (StateM σ) α
  | .ok a => pure a
  | .error e => throw (source.report e)

/-- Adds the instructions of siblings to an emitter. `expand` compiles a layout with its content. -/
def lowerWith (source : LayoutSource σ ε)
    (expand : String → List Markup.Node → ExceptT ε (StateM σ) (List Instruction)) :
    List Markup.Node → Emitter → ExceptT ε (StateM σ) Emitter
  | [], e => pure e
  | .element tag attributes children :: rest, e => do
    if tag = Directive.tag then
      let body := do
        let inner ← lowerWith source expand children Emitter.empty
        source.check inner.finish
      let next ←
        match Directive.ofAttributes attributes with
        | .loop header => do
          let is ← body
          source.check (e.addInstructions [.loop header is])
        | .conditional condition => do
          let is ← body
          source.check (e.openChain (some condition, is))
        | .elseIf condition => do
          let is ← body
          source.check (e.continueChain Directive.elseIfName (some condition, is))
        | .otherwise => do
          let is ← body
          let e ← source.check (e.continueChain Directive.otherwiseName (none, is))
          pure e.closeChain
        | .layout name => do
          let is ← expand name children
          source.check (e.addInstructions [.layout name is])
        | .passThrough => do
          let is ← body
          source.check (e.addInstructions is)
        | .malformed => pure e
      lowerWith source expand rest next
    else lowerWith source expand rest (e.addMarkup (.element tag attributes children))
  | node :: rest, e => lowerWith source expand rest (e.addMarkup node)
termination_by nodes => sizeOf nodes

/-- The instructions of siblings, with at most `depth` more layouts inside each other. -/
def lower (source : LayoutSource σ ε) :
    Nat → List Markup.Node → ExceptT ε (StateM σ) (List Instruction)
  | depth, nodes => do
    let expand := fun name content =>
      match depth with
      | 0 => throw (source.report (.layoutDepthExceeded maxLayoutDepth))
      | depth + 1 => do
        match ← source.resolve name with
        | none => throw (source.report (.unknownLayout name))
        | some layout =>
          lower source depth ((Markup.replaceFirst? slotTag content layout).getD layout)
    let e ← source.lowerWith expand nodes Emitter.empty
    source.check e.finish

/-- Compiles the markup of a page. -/
def compile (source : LayoutSource σ ε) (markup : String) : ExceptT ε (StateM σ) Program := do
  let nodes ← source.check ((Markup.parse markup).mapError .parse)
  source.lower maxLayoutDepth nodes

end LayoutSource

/-- A source that parses layouts it finds by name. -/
def LayoutSource.ofLookup {σ : Type} (markup? : String → Option String) :
    LayoutSource σ CompileError where
  resolve name :=
    match markup? name with
    | none => pure none
    | some markup =>
      match Markup.parse markup with
      | .ok nodes => pure (some nodes)
      | .error e => throw (.parse e)
  report e := e

end LivePages
