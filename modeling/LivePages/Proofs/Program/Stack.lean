import LivePages.Proofs.Program.Keeping

/-!
# Loop variables on a stack

The variables of loops can be kept on a stack that all instructions share.  Each round of
a loop puts its own on top and takes it off again.  Then the text is the same, and the
stack is afterwards what it was, even if something fails.
-/

namespace LivePages

variable {σ α β : Type}

/-- Uses the variables that are on the stack. -/
def onStack (use : Locals → Evaluation σ α) : Evaluation (Locals × σ) α := fun (stack, s) =>
  let (result, s) := use stack s
  (result, stack, s)

/-- Takes steps with a variable on top of the stack.  It is taken off again even if they
fail. -/
def withVariable (binding : String) (item : Value) (steps : Evaluation (Locals × σ) α) :
    Evaluation (Locals × σ) α := fun (stack, s) =>
  let (result, stack, s) := steps ((binding, item) :: stack, s)
  (result, stack.tail, s)

namespace Instruction

mutual

/-- The text that an instruction emits, with the variables of loops on the stack. -/
def renderStacked (engine : Evaluator σ) : Instruction → Evaluation (Locals × σ) String
  | append template => onStack fun stack => template.render engine stack
  | loop header body => do
    let (binding, items) ← onStack (engine.iterate header)
    let texts ← items.mapM fun item => withVariable binding item (renderStackedAll engine body)
    return String.join texts
  | branch arms => renderStackedArms engine arms
  | layout _ body => renderStackedAll engine body

def renderStackedAll (engine : Evaluator σ) :
    List Instruction → Evaluation (Locals × σ) String
  | [] => return ""
  | i :: rest => do
    let first ← renderStacked engine i
    let more ← renderStackedAll engine rest
    return first ++ more

def renderStackedArms (engine : Evaluator σ) : List Arm → Evaluation (Locals × σ) String
  | [] => return ""
  | (condition, body) :: rest => do
    let taken ←
      match condition with
      | some source => onStack (engine.test source)
      | none => pure true
    if taken then renderStackedAll engine body else renderStackedArms engine rest

end

end Instruction

theorem onStack_bind (first : Locals → Evaluation σ α) (next : Locals → α → Evaluation σ β) :
    (onStack fun stack => first stack >>= next stack) =
      onStack first >>= fun a => onStack fun stack => next stack a := by
  funext ⟨stack, s⟩
  rw [Keeps.bind_eq, onStack, onStack, Keeps.bind_eq]
  rcases first stack s with ⟨_ | _, _⟩ <;> rfl

theorem onStack_mapM {γ : Type} (step : Locals → γ → Evaluation σ β) (items : List γ) :
    (onStack fun stack => items.mapM (step stack)) =
      items.mapM fun item => onStack fun stack => step stack item := by
  induction items with
  | nil => rfl
  | cons item items inductionHypothesis =>
      simp only [List.mapM_cons]
      rw [onStack_bind]
      congr 1
      funext b
      rw [onStack_bind, inductionHypothesis]
      rfl

theorem withVariable_onStack (binding : String) (item : Value)
    (use : Locals → Evaluation σ α) :
    withVariable binding item (onStack use) =
      onStack fun stack => use ((binding, item) :: stack) :=
  rfl

section Stacked

variable (engine : Evaluator σ)

mutual

theorem Instruction.renderStacked_eq : (i : Instruction) →
    renderStacked engine i = onStack fun stack => i.render engine stack
  | .append template => by
      simp only [renderStacked, render]
  | .loop header body => by
      have body := renderStackedAll_eq body
      simp only [renderStacked, render, body, withVariable_onStack, onStack_bind]
      congr 1
      funext found
      rw [onStack_mapM]
      rfl
  | .branch arms => by
      simp only [renderStacked, render, renderStackedArms_eq arms]
  | .layout _ body => by
      simp only [renderStacked, render, renderStackedAll_eq body]

/-- With the variables of loops on a stack instructions emit the same, and they leave the
stack as it was, whether they fail or not. -/
theorem Instruction.renderStackedAll_eq : (is : List Instruction) →
    renderStackedAll engine is = onStack fun stack => renderAll engine stack is
  | [] => by
      simp only [renderStackedAll, renderAll]
      rfl
  | i :: rest => by
      simp only [renderStackedAll, renderAll, onStack_bind, renderStacked_eq i,
        renderStackedAll_eq rest]
      rfl

theorem Instruction.renderStackedArms_eq : (arms : List Arm) →
    renderStackedArms engine arms = onStack fun stack => renderArms engine stack arms
  | [] => by
      simp only [renderStackedArms, renderArms]
      rfl
  | (none, body) :: rest => by
      simp only [renderStackedArms, renderArms, pure_bind, if_true, renderStackedAll_eq body]
  | (some condition, body) :: rest => by
      simp only [renderStackedArms, renderArms, onStack_bind, renderStackedAll_eq body,
        renderStackedArms_eq rest]
      congr 1
      funext taken
      cases taken <;> rfl

end

end Stacked

end LivePages
