import LivePages.Program.Compile
import LivePages.Program.Render
import LivePages.Proofs.Expr.Naming

/-!
# What evaluation keeps

Evaluation changes a state only by way of its surroundings.  So a predicate on
states that looking up, calling and assigning keep is kept by expressions and
scripts, whether they succeed or fail; and compiling a page keeps what finding its
layouts keeps.  More than that, if lookups and calls cannot tell two related states
apart, neither can all this, so two surroundings that agree wherever the predicate holds
cannot be told apart.  An expression only needs that for the names that it mentions.
-/

namespace LivePages

variable {σ τ ε α β : Type} {P : σ → Prop}

theorem eq_ok_of_toOption {result : Except ε α} {a : α} (isOk : result.toOption = some a) :
    result = .ok a := by
  cases result with
  | error e => cases isOk
  | ok answer => exact congrArg Except.ok (Option.some.inj isOk)

theorem exists_of_bind_ok {first : Except ε α} {next : α → Except ε β} {b : β}
    (result : first >>= next = .ok b) :
    ∃ a, first = .ok a ∧ next a = .ok b := by
  cases first with
  | error e => cases result
  | ok a => exact ⟨a, rfl, result⟩

theorem exists_of_map {result : Except ε α} {f : α → β} {b : β}
    (done : result.map f = .ok b) : ∃ a, result = .ok a ∧ f a = b := by
  cases result with
  | error e => cases done
  | ok a => exact ⟨a, rfl, Except.ok.inj done⟩

/-- Steps behind which a predicate still holds, even if they fail. -/
def Keeps (P : σ → Prop) (steps : ExceptT ε (StateM σ) α) : Prop :=
  ∀ s, P s → P (steps s).2

namespace Keeps

theorem pure (a : α) : Keeps P (Pure.pure a : ExceptT ε (StateM σ) α) :=
  fun _ holds => holds

theorem throw (e : ε) : Keeps P (throw e : ExceptT ε (StateM σ) α) :=
  fun _ holds => holds

theorem bind_eq (first : ExceptT ε (StateM σ) α)
    (next : α → ExceptT ε (StateM σ) β) (s : σ) :
    (first >>= next) s =
      match first s with
      | (.ok a, s) => next a s
      | (.error e, s) => (.error e, s) := by
  change (match first s with | (result, s) => ExceptT.bindCont next result s) = _
  rcases first s with ⟨_ | _, _⟩ <;> rfl

theorem get_bind (next : σ → ExceptT ε (StateM σ) α) (s : σ) :
    (get >>= next) s = next s s :=
  rfl

theorem bind {first : ExceptT ε (StateM σ) α}
    {next : α → ExceptT ε (StateM σ) β} (head : Keeps P first)
    (tail : ∀ a, Keeps P (next a)) :
    Keeps P (first >>= next) := by
  intro s holds
  have middle := head s holds
  rw [bind_eq]
  rcases result : first s with ⟨e | a, t⟩
  · rw [result] at middle
    exact middle
  · rw [result] at middle
    exact tail a t middle

theorem bind_pure_state (first : ExceptT ε (StateM σ) α) (f : α → β) (s : σ) :
    ((first >>= fun a => Pure.pure (f a) : ExceptT ε (StateM σ) β) s).2 = (first s).2 := by
  rw [bind_eq]
  rcases first s with ⟨_ | _, _⟩ <;> rfl

end Keeps

theorem exists_of_bind {first : ExceptT ε (StateM σ) α}
    {next : α → ExceptT ε (StateM σ) β} {s t : σ} {b : β}
    (done : (first >>= next) s = (.ok b, t)) :
    ∃ a middle, first s = (.ok a, middle) ∧ next a middle = (.ok b, t) := by
  rw [Keeps.bind_eq] at done
  rcases result : first s with ⟨e | a, middle⟩
  · rw [result] at done
    cases done
  · rw [result] at done
    exact ⟨a, middle, rfl, done⟩

/-! ## Two runs -/

/-- Steps that come to the same from related states, and end in related states. -/
def Relates (R : σ → τ → Prop) (steps : ExceptT ε (StateM σ) α)
    (others : ExceptT ε (StateM τ) α) : Prop :=
  ∀ s t, R s t → (others t).1 = (steps s).1 ∧ R (steps s).2 (others t).2

namespace Relates

variable {R : σ → τ → Prop}

theorem pure (a : α) :
    Relates R (Pure.pure a : ExceptT ε (StateM σ) α) (Pure.pure a) :=
  fun _ _ related => ⟨rfl, related⟩

theorem throw (e : ε) :
    Relates R (MonadExcept.throw e : ExceptT ε (StateM σ) α) (MonadExcept.throw e) :=
  fun _ _ related => ⟨rfl, related⟩

theorem lift (result : Except ε α) :
    Relates R (liftM result : ExceptT ε (StateM σ) α) (liftM result) :=
  fun _ _ related => ⟨rfl, related⟩

theorem bind {first : ExceptT ε (StateM σ) α} {otherFirst : ExceptT ε (StateM τ) α}
    {next : α → ExceptT ε (StateM σ) β} {otherNext : α → ExceptT ε (StateM τ) β}
    (head : Relates R first otherFirst)
    (tail : ∀ a, Relates R (next a) (otherNext a)) :
    Relates R (first >>= next) (otherFirst >>= otherNext) := by
  intro s t related
  obtain ⟨same, middle⟩ := head s t related
  rw [Keeps.bind_eq, Keeps.bind_eq]
  generalize first s = outcome at same middle ⊢
  generalize otherFirst t = otherOutcome at same middle ⊢
  obtain ⟨result, s⟩ := outcome
  obtain ⟨otherResult, t⟩ := otherOutcome
  cases same
  cases result with
  | error e => exact ⟨rfl, middle⟩
  | ok a => exact tail a s t middle

theorem ite {taken : Prop} [Decidable taken] {yes no : ExceptT ε (StateM σ) α}
    {otherYes otherNo : ExceptT ε (StateM τ) α} (yesRelates : Relates R yes otherYes)
    (noRelates : Relates R no otherNo) :
    Relates R (if taken then yes else no) (if taken then otherYes else otherNo) := by
  by_cases holds : taken
  · rw [if_pos holds, if_pos holds]
    exact yesRelates
  · rw [if_neg holds, if_neg holds]
    exact noRelates

theorem mapM {step : α → ExceptT ε (StateM σ) β} {other : α → ExceptT ε (StateM τ) β}
    (as : List α) (each : ∀ a ∈ as, Relates R (step a) (other a)) :
    Relates R (as.mapM step) (as.mapM other) := by
  induction as with
  | nil => exact .pure []
  | cons a as inductionHypothesis =>
      rw [List.mapM_cons, List.mapM_cons]
      refine (each a List.mem_cons_self).bind fun b => ?_
      exact (inductionHypothesis fun c member => each c (List.mem_cons_of_mem a member)).bind
        fun bs => .pure (b :: bs)

theorem forM {step : α → ExceptT ε (StateM σ) PUnit}
    {other : α → ExceptT ε (StateM τ) PUnit} (as : List α)
    (each : ∀ a ∈ as, Relates R (step a) (other a)) :
    Relates R (as.forM step) (as.forM other) := by
  induction as with
  | nil => exact .pure _
  | cons a as inductionHypothesis =>
      exact (each a List.mem_cons_self).bind fun _ =>
        inductionHypothesis fun b member => each b (List.mem_cons_of_mem a member)

end Relates

/-! ## Two ways to the same end -/

/-- Two ways to take some steps that come to the same wherever a predicate holds,
and keep it. -/
def Agree (P : σ → Prop) (steps others : ExceptT ε (StateM σ) α) : Prop :=
  ∀ s, P s → others s = steps s ∧ P (steps s).2

/-- A state related to itself, as far as a predicate holds of it. -/
def Selfsame (P : σ → Prop) (s t : σ) : Prop := t = s ∧ P s

theorem Keeps.agree {steps : ExceptT ε (StateM σ) α} (keeps : Keeps P steps) :
    Agree P steps steps :=
  fun s holds => ⟨rfl, keeps s holds⟩

namespace Agree

theorem keeps {steps others : ExceptT ε (StateM σ) α} (agree : Agree P steps others) :
    Keeps P steps :=
  fun s holds => (agree s holds).2

theorem relates {steps others : ExceptT ε (StateM σ) α} (agree : Agree P steps others) :
    Relates (Selfsame P) steps others := by
  rintro s t ⟨rfl, holds⟩
  obtain ⟨same, kept⟩ := agree t holds
  exact ⟨congrArg Prod.fst same, congrArg Prod.snd same, kept⟩

theorem of_relates {steps others : ExceptT ε (StateM σ) α}
    (relates : Relates (Selfsame P) steps others) :
    Agree P steps others := by
  intro s holds
  obtain ⟨answer, state, kept⟩ := relates s s ⟨rfl, holds⟩
  exact ⟨Prod.ext answer state, kept⟩

theorem pure (a : α) :
    Agree P (Pure.pure a : ExceptT ε (StateM σ) α) (Pure.pure a) :=
  (Keeps.pure a).agree

theorem throw (e : ε) :
    Agree P (MonadExcept.throw e : ExceptT ε (StateM σ) α) (MonadExcept.throw e) :=
  (Keeps.throw e).agree

theorem bind {first otherFirst : ExceptT ε (StateM σ) α}
    {next otherNext : α → ExceptT ε (StateM σ) β} (head : Agree P first otherFirst)
    (tail : ∀ a, Agree P (next a) (otherNext a)) :
    Agree P (first >>= next) (otherFirst >>= otherNext) :=
  .of_relates (head.relates.bind fun a => (tail a).relates)

end Agree

/-! ## Expressions and scripts -/

/-- Surroundings whose functions and assignments keep a predicate. -/
structure Surroundings.Keeps (env : Surroundings σ) (P : σ → Prop) : Prop where
  call : ∀ name args s, P s → P (env.call name args s).2
  assign : ∀ name v s, P s → P (env.assign name v s).2

/-- Surroundings in which lookups and calls come to the same from related states. -/
structure Surroundings.Relates (env : Surroundings σ) (other : Surroundings τ)
    (R : σ → τ → Prop) : Prop where
  lookup : ∀ name s t, R s t → other.lookup name t = env.lookup name s
  call : ∀ name args, LivePages.Relates R (env.call name args) (other.call name args)

/-- Surroundings that come to the same as others wherever a predicate holds, and
keep it. -/
structure Surroundings.Agree (env other : Surroundings σ) (P : σ → Prop) : Prop where
  lookup : ∀ name s, P s → other.lookup name s = env.lookup name s
  call : ∀ name args, LivePages.Agree P (env.call name args) (other.call name args)
  assign : ∀ name v, LivePages.Agree P (env.assign name v) (other.assign name v)

theorem Surroundings.Keeps.agree {env : Surroundings σ} (keeps : env.Keeps P) :
    env.Agree env P where
  lookup _ _ _ := rfl
  call name args s holds := ⟨rfl, keeps.call name args s holds⟩
  assign name v s holds := ⟨rfl, keeps.assign name v s holds⟩

theorem Surroundings.Agree.relates {env other : Surroundings σ}
    (agree : env.Agree other P) : env.Relates other (Selfsame P) where
  lookup := by
    rintro name s t ⟨rfl, holds⟩
    exact agree.lookup name t holds
  call name args := (agree.call name args).relates

section Evaluation

variable {env : Surroundings σ} {other : Surroundings τ} {R : σ → τ → Prop}

theorem Expr.lookup_relates (relates : env.Relates other R) (locals : Locals)
    (name : String) :
    LivePages.Relates R (Expr.lookup env locals name) (Expr.lookup other locals name) := by
  intro s t related
  unfold Expr.lookup
  cases locals.lookup name with
  | none => exact ⟨relates.lookup name s t related, related⟩
  | some v => exact ⟨rfl, related⟩

/-- A call by name, which a loop variable does not answer. -/
def Expr.callName (env : Surroundings σ) (locals : Locals) (name : String)
    (args : List Value) : Evaluation σ Value :=
  if (locals.lookup name).isSome then throw (.notCallable name) else fun s => env.call name args s

/-- Whether a name means the same in two surroundings, where it is looked up and where it
is called. -/
structure SameMeaning (R : σ → τ → Prop) (env : Surroundings σ) (locals : Locals)
    (other : Surroundings τ) (otherLocals : Locals) (name : String) : Prop where
  lookup : Relates R (Expr.lookup env locals name) (Expr.lookup other otherLocals name)
  call : ∀ args, Relates R (Expr.callName env locals name args)
    (Expr.callName other otherLocals name args)

theorem Surroundings.Relates.sameMeaning (relates : env.Relates other R) (locals : Locals)
    (name : String) : SameMeaning R env locals other locals name where
  lookup := Expr.lookup_relates relates locals name
  call args := .ite (.throw _) (relates.call name args)

section Meaning

variable {locals otherLocals : Locals}

mutual

/-- An expression comes to the same if all names that it mentions mean the same. -/
theorem Expr.eval_sameMeaning : (e : Expr) →
    (∀ name ∈ e.names, SameMeaning R env locals other otherLocals name) →
    LivePages.Relates R (e.eval env locals) (e.eval other otherLocals)
  | .literal v, _ => by
      rw [Expr.eval, Expr.eval]
      exact .pure v
  | .name n, same => by
      rw [Expr.eval, Expr.eval]
      exact (same n List.mem_cons_self).lookup
  | .array es, same => by
      rw [Expr.eval, Expr.eval]
      exact (evalAll_sameMeaning es same).bind fun vs => .pure _
  | .member object property, same => by
      rw [Expr.eval, Expr.eval]
      exact (eval_sameMeaning object same).bind fun v => .lift _
  | .index object position, same => by
      rw [names, List.forall_mem_append] at same
      rw [Expr.eval, Expr.eval]
      exact (eval_sameMeaning object same.1).bind fun v =>
        (eval_sameMeaning position same.2).bind fun i => .lift _
  | .call callee args, same => by
      rw [names, List.forall_mem_append] at same
      have first := evalAll_sameMeaning args same.2
      cases callee with
      | name f =>
          rw [Expr.eval, Expr.eval]
          exact first.bind (same.1 f List.mem_cons_self).call
      | member object method =>
          rw [Expr.eval, Expr.eval]
          exact first.bind fun vs =>
            (eval_sameMeaning object same.1).bind fun v => .lift _
      | _ =>
          rw [Expr.eval, Expr.eval]
          · exact first.bind fun vs => .throw _
          all_goals simp
  | .unary op operand, same => by
      rw [Expr.eval, Expr.eval]
      exact (eval_sameMeaning operand same).bind fun v => .pure _
  | .binary op left right, same => by
      rw [names, List.forall_mem_append] at same
      rw [Expr.eval, Expr.eval]
      exact (eval_sameMeaning left same.1).bind fun a =>
        (eval_sameMeaning right same.2).bind fun b => .pure _
  | .logical op left right, same => by
      rw [names, List.forall_mem_append] at same
      rw [Expr.eval, Expr.eval]
      refine (eval_sameMeaning left same.1).bind fun a => ?_
      split
      · exact .pure _
      · exact .pure _
      · exact eval_sameMeaning right same.2
  | .conditional test consequent alternate, same => by
      rw [names, List.forall_mem_append, List.forall_mem_append] at same
      rw [Expr.eval, Expr.eval]
      exact (eval_sameMeaning test same.1).bind fun c =>
        .ite (eval_sameMeaning consequent same.2.1) (eval_sameMeaning alternate same.2.2)

theorem Expr.evalAll_sameMeaning : (es : List Expr) →
    (∀ name ∈ namesAll es, SameMeaning R env locals other otherLocals name) →
    LivePages.Relates R (Expr.evalAll env locals es) (Expr.evalAll other otherLocals es)
  | [], _ => by
      rw [Expr.evalAll, Expr.evalAll]
      exact .pure []
  | e :: es, same => by
      rw [namesAll, List.forall_mem_append] at same
      rw [Expr.evalAll, Expr.evalAll]
      exact (eval_sameMeaning e same.1).bind fun v =>
        (evalAll_sameMeaning es same.2).bind fun vs => .pure _

end

end Meaning

theorem Expr.eval_relates (relates : env.Relates other R) (locals : Locals) (e : Expr) :
    LivePages.Relates R (e.eval env locals) (e.eval other locals) :=
  e.eval_sameMeaning fun name _ => relates.sameMeaning locals name

/-- What a statement assigns to, if it is an assignment. -/
def Statement.target? : Statement → Option String
  | expr _ => none
  | assign target _ _ => some target

theorem Statement.run_relates (relates : env.Relates other R) (locals : Locals)
    (statement : Statement)
    (assigns : ∀ target, statement.target? = some target → ∀ v,
      LivePages.Relates R (env.assign target v) (other.assign target v)) :
    LivePages.Relates R (statement.run env locals) (statement.run other locals) := by
  cases statement with
  | expr e =>
      exact (e.eval_relates relates locals).bind fun _ => .pure _
  | assign target op e =>
      refine (e.eval_relates relates locals).bind fun v => ?_
      have old := Expr.lookup_relates relates locals target
      have new := assigns target rfl
      cases op with
      | set => exact (Relates.pure v).bind new
      | add => exact old.bind fun _ => (Relates.pure _).bind new
      | sub => exact old.bind fun _ => (Relates.pure _).bind new

end Evaluation

/-! ## Engines -/

/-- An engine whose evaluations keep a predicate. -/
structure Evaluator.Keeps (engine : Evaluator σ) (P : σ → Prop) : Prop where
  evaluate : ∀ source locals, LivePages.Keeps P (engine.evaluate source locals)
  iterate : ∀ source locals, LivePages.Keeps P (engine.iterate source locals)
  execute : ∀ source locals, LivePages.Keeps P (engine.execute source locals)

/-- Engines whose evaluations, other than of scripts, come to the same from related
states. -/
structure Evaluator.Relates (engine : Evaluator σ) (other : Evaluator τ)
    (R : σ → τ → Prop) : Prop where
  evaluate : ∀ source locals,
    LivePages.Relates R (engine.evaluate source locals) (other.evaluate source locals)
  iterate : ∀ source locals,
    LivePages.Relates R (engine.iterate source locals) (other.iterate source locals)

/-- An engine whose evaluations come to the same as another's wherever a predicate
holds, and keep it. -/
structure Evaluator.Agree (engine other : Evaluator σ) (P : σ → Prop) : Prop where
  evaluate : ∀ source locals,
    LivePages.Agree P (engine.evaluate source locals) (other.evaluate source locals)
  iterate : ∀ source locals,
    LivePages.Agree P (engine.iterate source locals) (other.iterate source locals)
  execute : ∀ source locals,
    LivePages.Agree P (engine.execute source locals) (other.execute source locals)

section Engine

variable {env : Surroundings σ} {other : Surroundings τ} {R : σ → τ → Prop}
  (relates : env.Relates other R)

include relates

theorem Surroundings.evaluator_relates :
    env.evaluator.Relates other.evaluator R where
  evaluate _ locals :=
    LivePages.Relates.bind (.lift _) fun e => e.eval_relates relates locals
  iterate _ locals :=
    LivePages.Relates.bind (.lift _) fun header =>
      (header.iterable.eval_relates relates locals).bind fun _ =>
        LivePages.Relates.bind (.lift _) fun _ => .pure _

/-- A script comes to the same if its assignments do. -/
theorem Surroundings.execute_relates (source : String) (locals : Locals)
    (assigns : ∀ script, Expr.parseScript source = .ok script →
      ∀ statement ∈ script, ∀ target, statement.target? = some target → ∀ v,
        LivePages.Relates R (env.assign target v) (other.assign target v)) :
    LivePages.Relates R (env.evaluator.execute source locals)
      (other.evaluator.execute source locals) := by
  unfold evaluator
  dsimp only
  cases parsed : Expr.parseScript source with
  | error e => exact .throw e
  | ok script =>
      exact LivePages.Relates.forM script fun statement member =>
        statement.run_relates relates locals (assigns script parsed statement member)

end Engine

theorem Surroundings.evaluator_agree {env other : Surroundings σ}
    (agree : env.Agree other P) : env.evaluator.Agree other.evaluator P where
  evaluate source locals :=
    .of_relates ((evaluator_relates agree.relates).evaluate source locals)
  iterate source locals :=
    .of_relates ((evaluator_relates agree.relates).iterate source locals)
  execute source locals :=
    .of_relates (execute_relates agree.relates source locals fun _ _ _ _ target _ v =>
      (agree.assign target v).relates)

theorem Surroundings.evaluator_keeps {env : Surroundings σ}
    (keeps : env.Keeps P) : env.evaluator.Keeps P where
  evaluate source locals :=
    ((evaluator_agree keeps.agree).evaluate source locals).keeps
  iterate source locals := ((evaluator_agree keeps.agree).iterate source locals).keeps
  execute source locals := ((evaluator_agree keeps.agree).execute source locals).keeps

/-! ## Compiling -/

/-- Sources that find the same layouts from related states. -/
structure LayoutSource.Relates (source : LayoutSource σ ε) (other : LayoutSource τ ε)
    (R : σ → τ → Prop) : Prop where
  resolve : ∀ name, LivePages.Relates R (source.resolve name) (other.resolve name)
  report : other.report = source.report

/-- Sources that find layouts in the same way wherever a predicate holds, and keep
it. -/
structure LayoutSource.Agree (source other : LayoutSource σ ε) (P : σ → Prop) : Prop where
  resolve : ∀ name, LivePages.Agree P (source.resolve name) (other.resolve name)
  report : other.report = source.report

section Compile

variable {source : LayoutSource σ ε} {other : LayoutSource τ ε} {R : σ → τ → Prop}

theorem LayoutSource.check_relates (same : other.report = source.report)
    (result : Except CompileError α) :
    LivePages.Relates R (source.check result) (other.check result) := by
  cases result with
  | ok a => exact .pure a
  | error e =>
      rw [check, check, same]
      exact .throw _

theorem LayoutSource.lowerWith_relates (same : other.report = source.report)
    {expand : String → List Markup.Node → ExceptT ε (StateM σ) (List Instruction)}
    {otherExpand : String → List Markup.Node → ExceptT ε (StateM τ) (List Instruction)}
    (relates : ∀ name content,
      LivePages.Relates R (expand name content) (otherExpand name content)) :
    (nodes : List Markup.Node) → (e : Emitter) →
      LivePages.Relates R (source.lowerWith expand nodes e)
        (other.lowerWith otherExpand nodes e)
  | [], e => by
      rw [lowerWith, lowerWith]
      exact .pure e
  | .text text :: rest, e => by
      rw [lowerWith, lowerWith]
      · exact lowerWith_relates same relates rest _
      all_goals simp
  | .comment text :: rest, e => by
      rw [lowerWith, lowerWith]
      · exact lowerWith_relates same relates rest _
      all_goals simp
  | .element tag attributes children :: rest, e => by
      have body : LivePages.Relates R (do
          let inner ← source.lowerWith expand children Emitter.empty
          source.check inner.finish) (do
          let inner ← other.lowerWith otherExpand children Emitter.empty
          other.check inner.finish) :=
        (lowerWith_relates same relates children _).bind fun inner =>
          check_relates same _
      rw [lowerWith, lowerWith]
      by_cases isDirective : tag = Directive.tag
      · rw [if_pos isDirective, if_pos isDirective]
        have goesOn := lowerWith_relates same relates rest
        cases Directive.ofAttributes attributes with
        | loop header => exact body.bind fun is => (check_relates same _).bind goesOn
        | conditional condition =>
            exact body.bind fun is => (check_relates same _).bind goesOn
        | elseIf condition => exact body.bind fun is => (check_relates same _).bind goesOn
        | otherwise =>
            exact body.bind fun is =>
              (check_relates same _).bind fun e => (LivePages.Relates.pure _).bind goesOn
        | layout name =>
            exact (relates name children).bind fun is => (check_relates same _).bind goesOn
        | passThrough => exact body.bind fun is => (check_relates same _).bind goesOn
        | malformed => exact (LivePages.Relates.pure e).bind goesOn
      · rw [if_neg isDirective, if_neg isDirective]
        exact lowerWith_relates same relates rest _

theorem LayoutSource.lower_relates (relates : source.Relates other R) (depth : Nat)
    (nodes : List Markup.Node) :
    LivePages.Relates R (source.lower depth nodes) (other.lower depth nodes) := by
  have same := relates.report
  induction depth generalizing nodes with
  | zero =>
      rw [lower, lower]
      refine (lowerWith_relates same (fun name content => ?_) nodes _).bind
        fun e => check_relates same _
      rw [same]
      exact .throw _
  | succ depth inductionHypothesis =>
      rw [lower, lower]
      refine (lowerWith_relates same (fun name content => ?_) nodes _).bind
        fun e => check_relates same _
      refine (relates.resolve name).bind fun found => ?_
      cases found with
      | none =>
          rw [same]
          exact .throw _
      | some layout => exact inductionHypothesis _

/-- Compiling a page with two sources that find the same layouts comes to the same. -/
theorem LayoutSource.compile_relates (relates : source.Relates other R)
    (markup : String) :
    LivePages.Relates R (source.compile markup) (other.compile markup) :=
  (check_relates relates.report _).bind fun nodes =>
    lower_relates relates maxLayoutDepth nodes

end Compile

section Compile

variable {source other : LayoutSource σ ε}

/-- Compiling a page with two sources that agree comes to the same. -/
theorem LayoutSource.compile_agree (agree : source.Agree other P) (markup : String) :
    LivePages.Agree P (source.compile markup) (other.compile markup) :=
  .of_relates (compile_relates ⟨fun name => (agree.resolve name).relates, agree.report⟩
    markup)

/-- Compiling a page keeps what finding its layouts keeps. -/
theorem LayoutSource.compile_keeps
    (resolve : ∀ name, Keeps P (source.resolve name)) (markup : String) :
    Keeps P (source.compile markup) :=
  (compile_agree ⟨fun name => (resolve name).agree, rfl⟩ markup).keeps

end Compile

end LivePages
