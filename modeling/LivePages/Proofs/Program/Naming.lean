import LivePages.Proofs.Program.Keeping

/-!
# Programs and the names they mention

A program mentions names in its interpolations, its conditions and its loop headers.
A loop variable is no name of the loop: it belongs to the body, and means the item there.
So the text of a program depends on what the names mean that it mentions and that are no
variables around it, and on nothing else.  And a predicate on states that looking up and
calling keep is kept by whole programs, whether they succeed or fail.
-/

namespace LivePages

variable {σ τ : Type}

/-! ## Names of a program -/

def Segment.names : Segment → List String
  | literal _ => []
  | expr source => Expr.namesIn source

def Template.names (t : Template) : List String := t.segments.flatMap Segment.names

namespace Instruction

mutual

/-- The names that an instruction mentions, without the variables of its own loops. -/
def names : Instruction → List String
  | append t => t.names
  | loop header body =>
    match Expr.parseLoopHeader header with
    | .ok h => h.iterable.names ++ (namesAll body).filter (· ≠ h.binding)
    | .error _ => []
  | branch arms => namesArms arms
  | layout _ body => namesAll body

def namesAll : List Instruction → List String
  | [] => []
  | i :: rest => i.names ++ namesAll rest

def namesArms : List Arm → List String
  | [] => []
  | (condition, body) :: rest =>
    (condition.elim [] Expr.namesIn) ++ (namesAll body ++ namesArms rest)

end

/-- The names that instructions mention and that are no variables around them. -/
def freeNames (locals : Locals) (is : List Instruction) : List String :=
  (namesAll is).filter fun name => locals.lookup name = none

theorem namesAll_append (first second : List Instruction) :
    namesAll (first ++ second) = namesAll first ++ namesAll second := by
  induction first with
  | nil => rfl
  | cons i first inductionHypothesis =>
      rw [List.cons_append, namesAll, namesAll, inductionHypothesis, List.append_assoc]

theorem freeNames_append (locals : Locals) (first second : List Instruction) :
    freeNames locals (first ++ second) = freeNames locals first ++ freeNames locals second := by
  rw [freeNames, namesAll_append, List.filter_append]
  rfl

theorem mem_freeNames {locals : Locals} {is : List Instruction} {name : String}
    (inside : name ∈ namesAll is) (free : locals.lookup name = none) :
    name ∈ freeNames locals is :=
  List.mem_filter.2 ⟨inside, decide_eq_true free⟩

end Instruction

/-! ## Sources that are read -/

section Source

variable (env : Surroundings σ) (locals : Locals)

theorem Surroundings.evaluate_of_parse {source : String} {e : Expr}
    (parsed : Expr.parseExpression source = .ok e) :
    env.evaluator.evaluate source locals = e.eval env locals := by
  unfold evaluator
  dsimp only
  rw [parsed]
  rfl

theorem Surroundings.iterate_of_parse {header : String} {h : LoopHeader}
    (parsed : Expr.parseLoopHeader header = .ok h) :
    env.evaluator.iterate header locals = (do
      let v ← h.iterable.eval env locals
      return (h.binding, ← Expr.iterate h.kind v)) := by
  unfold evaluator
  dsimp only
  rw [parsed]
  rfl

theorem Instruction.render_loop {header : String} (body : List Instruction) {h : LoopHeader}
    (parsed : Expr.parseLoopHeader header = .ok h) :
    (loop header body).render env.evaluator locals = (do
      let v ← h.iterable.eval env locals
      let items ← liftM (Expr.iterate h.kind v)
      let texts ← items.mapM fun item =>
        renderAll env.evaluator ((h.binding, item) :: locals) body
      return String.join texts) := by
  rw [render, env.iterate_of_parse locals parsed]
  simp only [bind_assoc, pure_bind]

theorem Instruction.render_loop_unread {header : String} (body : List Instruction)
    {e : EvalError} (parsed : Expr.parseLoopHeader header = .error e) :
    (loop header body).render env.evaluator locals = throw e := by
  rw [render, Surroundings.evaluator]
  dsimp only
  rw [parsed]
  rfl

end Source

/-! ## Names and their meaning -/

section Push

variable {name binding : String} (apart : name ≠ binding) (env : Surroundings σ)
  (locals : Locals) (item : Value)

include apart

theorem Expr.lookup_push :
    lookup env ((binding, item) :: locals) name = lookup env locals name := by
  unfold lookup
  rw [List.lookup_cons, beq_eq_false_iff_ne.2 apart]

theorem Expr.callName_push (args : List Value) :
    callName env ((binding, item) :: locals) name args = callName env locals name args := by
  unfold callName
  rw [List.lookup_cons, beq_eq_false_iff_ne.2 apart]

end Push

section Meaning

variable {R : σ → τ → Prop} {env : Surroundings σ} {other : Surroundings τ}

/-- Within a loop its variable means the item, and another name what it means outside. -/
theorem SameMeaning.push {locals otherLocals : Locals} {name binding : String}
    (outside : name ≠ binding → SameMeaning R env locals other otherLocals name) (item : Value) :
    SameMeaning R env ((binding, item) :: locals) other ((binding, item) :: otherLocals) name := by
  by_cases own : name = binding
  · subst own
    refine ⟨fun s t related => ?_, fun args => ?_⟩
    · unfold Expr.lookup
      rw [List.lookup_cons_self, List.lookup_cons_self]
      exact ⟨rfl, related⟩
    · unfold Expr.callName
      rw [List.lookup_cons_self, List.lookup_cons_self]
      exact .throw _
  · obtain ⟨lookup, call⟩ := outside own
    refine ⟨?_, fun args => ?_⟩
    · rw [Expr.lookup_push own, Expr.lookup_push own]
      exact lookup
    · rw [Expr.callName_push own, Expr.callName_push own]
      exact call args

/-- A variable that an expression does not mention does not change it. -/
theorem Expr.eval_push {e : Expr} {binding : String} (apart : binding ∉ e.names)
    (item : Value) (locals : Locals) :
    e.eval env ((binding, item) :: locals) = e.eval env locals := by
  have same : ∀ name ∈ e.names,
      SameMeaning Eq env locals env ((binding, item) :: locals) name := by
    intro name member
    have other : name ≠ binding := fun same => apart (same ▸ member)
    refine ⟨?_, fun args => ?_⟩
    · rw [lookup_push other]
      rintro s t rfl
      exact ⟨rfl, rfl⟩
    · rw [callName_push other]
      rintro s t rfl
      exact ⟨rfl, rfl⟩
  funext s
  obtain ⟨answer, state⟩ := e.eval_sameMeaning same s s rfl
  exact Prod.ext answer state.symm

section Sources

variable {locals otherLocals : Locals}

theorem Surroundings.evaluate_sameMeaning {source : String}
    (same : ∀ name ∈ Expr.namesIn source, SameMeaning R env locals other otherLocals name) :
    LivePages.Relates R (env.evaluator.evaluate source locals)
      (other.evaluator.evaluate source otherLocals) := by
  unfold evaluator
  dsimp only
  cases parsed : Expr.parseExpression source with
  | error e => exact .throw e
  | ok e =>
      rw [Expr.namesIn_of_parse parsed] at same
      exact e.eval_sameMeaning same

theorem Template.render_sameMeaning {t : Template}
    (same : ∀ name ∈ t.names, SameMeaning R env locals other otherLocals name) :
    Relates R (t.render env.evaluator locals) (t.render other.evaluator otherLocals) := by
  refine (Relates.mapM t.segments fun segment member => ?_).bind fun texts => .pure _
  cases segment with
  | literal text => exact .pure text
  | expr source =>
      have mentioned : ∀ name ∈ Expr.namesIn source, name ∈ t.names :=
        fun name inside => List.mem_flatMap.2 ⟨.expr source, member, inside⟩
      exact (Surroundings.evaluate_sameMeaning fun name inside =>
        same name (mentioned name inside)).bind fun v => .pure _

end Sources

mutual

theorem Instruction.render_sameMeaning {locals otherLocals : Locals} : (i : Instruction) →
    (∀ name ∈ i.names, SameMeaning R env locals other otherLocals name) →
    Relates R (i.render env.evaluator locals) (i.render other.evaluator otherLocals)
  | .append template, same => by
      rw [Instruction.render, Instruction.render]
      exact Template.render_sameMeaning same
  | .loop header body, same => by
      rw [names] at same
      cases parsed : Expr.parseLoopHeader header with
      | error e =>
          rw [render_loop_unread env locals body parsed,
            render_loop_unread other otherLocals body parsed]
          exact .throw e
      | ok h =>
          rw [parsed, List.forall_mem_append] at same
          rw [render_loop env locals body parsed, render_loop other otherLocals body parsed]
          refine (h.iterable.eval_sameMeaning same.1).bind fun v =>
            LivePages.Relates.bind (.lift _) fun items =>
              (Relates.mapM items fun item _ => ?_).bind fun texts => .pure _
          refine renderAll_sameMeaning body fun name inside =>
            SameMeaning.push (fun apart => ?_) item
          exact same.2 name (List.mem_filter.2 ⟨inside, decide_eq_true apart⟩)
  | .branch arms, same => by
      rw [Instruction.render, Instruction.render]
      exact renderArms_sameMeaning arms same
  | .layout name body, same => by
      rw [Instruction.render, Instruction.render]
      exact renderAll_sameMeaning body same

/-- Instructions come to the same if all names that they mention mean the same. -/
theorem Instruction.renderAll_sameMeaning {locals otherLocals : Locals} :
    (is : List Instruction) →
    (∀ name ∈ namesAll is, SameMeaning R env locals other otherLocals name) →
    Relates R (renderAll env.evaluator locals is) (renderAll other.evaluator otherLocals is)
  | [], _ => by
      rw [renderAll, renderAll]
      exact .pure _
  | i :: rest, same => by
      rw [namesAll, List.forall_mem_append] at same
      rw [renderAll, renderAll]
      exact (render_sameMeaning i same.1).bind fun first =>
        (renderAll_sameMeaning rest same.2).bind fun more => .pure _

theorem Instruction.renderArms_sameMeaning {locals otherLocals : Locals} :
    (arms : List Arm) →
    (∀ name ∈ namesArms arms, SameMeaning R env locals other otherLocals name) →
    Relates R (renderArms env.evaluator locals arms) (renderArms other.evaluator otherLocals arms)
  | [], _ => by
      rw [renderArms, renderArms]
      exact .pure _
  | (none, body) :: rest, same => by
      rw [namesArms, List.forall_mem_append, List.forall_mem_append] at same
      unfold renderArms
      exact (Relates.pure true).bind fun taken =>
        .ite (renderAll_sameMeaning body same.2.1) (renderArms_sameMeaning rest same.2.2)
  | (some condition, body) :: rest, same => by
      rw [namesArms, List.forall_mem_append, List.forall_mem_append] at same
      unfold renderArms
      have test : Relates R (env.evaluator.test condition locals)
          (other.evaluator.test condition otherLocals) :=
        (Surroundings.evaluate_sameMeaning same.1).bind fun _ => .pure _
      exact test.bind fun taken =>
        .ite (renderAll_sameMeaning body same.2.1) (renderArms_sameMeaning rest same.2.2)

end

/-! ## Programs as a whole -/

theorem Instruction.renderAll_relates (relates : env.Relates other R) (locals : Locals)
    (is : List Instruction) :
    Relates R (renderAll env.evaluator locals is) (renderAll other.evaluator locals is) :=
  renderAll_sameMeaning is fun name _ => relates.sameMeaning locals name

end Meaning

section Predicate

variable {P : σ → Prop} {env other : Surroundings σ}

theorem Instruction.renderAll_agree (agree : env.Agree other P) (locals : Locals)
    (is : List Instruction) :
    Agree P (renderAll env.evaluator locals is) (renderAll other.evaluator locals is) :=
  .of_relates (renderAll_relates agree.relates locals is)

theorem Instruction.renderAll_keeps (keeps : env.Keeps P) (locals : Locals)
    (is : List Instruction) : Keeps P (renderAll env.evaluator locals is) :=
  (renderAll_agree keeps.agree locals is).keeps

end Predicate

end LivePages
