import LivePages.Program.Basic

/-! Running a program for its text. -/

namespace LivePages.Instruction

variable {σ : Type}

mutual

/-- The text that an instruction emits. -/
def render (engine : Evaluator σ) (locals : Locals) : Instruction → Evaluation σ String
  | append template => template.render engine locals
  | loop header body => do
    let (binding, items) ← engine.iterate header locals
    let texts ← items.mapM fun item => renderAll engine ((binding, item) :: locals) body
    return String.join texts
  | branch arms => renderArms engine locals arms
  | layout _ body => renderAll engine locals body

def renderAll (engine : Evaluator σ) (locals : Locals) : List Instruction → Evaluation σ String
  | [] => return ""
  | i :: rest => do
    let first ← render engine locals i
    let more ← renderAll engine locals rest
    return first ++ more

/-- The text of the first arm whose condition holds. -/
def renderArms (engine : Evaluator σ) (locals : Locals) : List Arm → Evaluation σ String
  | [] => return ""
  | (condition, body) :: rest => do
    let taken ←
      match condition with
      | some source => engine.test source locals
      | none => pure true
    if taken then renderAll engine locals body else renderArms engine locals rest

end

end LivePages.Instruction

namespace LivePages.Program

/-- The markup a page expands to. -/
def render {σ : Type} (engine : Evaluator σ) (program : Program) : Evaluation σ String :=
  Instruction.renderAll engine [] program

end LivePages.Program
