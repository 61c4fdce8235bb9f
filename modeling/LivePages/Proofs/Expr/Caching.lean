import LivePages.Expr.Cache
import LivePages.Expr.Routine
import LivePages.Proofs.Program.Keeping
import LivePages.Proofs.Table

/-!
# Caching cannot be seen

A cache that an engine starts with empty only ever holds what its parsers came to,
each kind of source by itself.  Such a cache answers for the parser.  So an engine
that keeps one comes to the same as one that parses each source whenever it meets
it, on whatever state the page is in: at one request, at a routine that uses the
engine in between, at evaluations inside each other, and at one request after the
other.
-/

namespace LivePages

variable {σ τ κ α : Type}

/-! ## What a cache holds -/

namespace ParseCache

/-- What is kept of a source is what parsing it comes to. -/
def Holds (parse : String → Except EvalError α) (kept : Table α) : Prop :=
  ∀ source a, kept.get? source = some a → parse source = .ok a

/-- A cache that keeps each parser's own results. -/
structure Faithful (cache : ParseCache) : Prop where
  expressions : Holds Expr.parseExpression cache.expressions
  scripts : Holds Expr.parseScript cache.scripts
  headers : Holds Expr.parseLoopHeader cache.headers

theorem empty_faithful : empty.Faithful where
  expressions _ _ found := nomatch found
  scripts _ _ found := nomatch found
  headers _ _ found := nomatch found

section Parsed

variable {parse : String → Except EvalError α} {kept : Table α}

theorem Holds.insert (holds : Holds parse kept) {source : String} {a : α}
    (parsed : parse source = .ok a) :
    Holds parse (Table.insert source a kept) := by
  intro other b found
  rw [Table.get?_insert] at found
  by_cases same : source = other
  · rw [if_pos same] at found
    cases found
    exact same ▸ parsed
  · rw [if_neg same] at found
    exact holds other b found

/-- Looking a source up comes to what parsing it does. -/
theorem Holds.parsed (holds : Holds parse kept) (source : String) :
    (parsed parse source kept).1 = parse source ∧
      Holds parse (parsed parse source kept).2 := by
  unfold ParseCache.parsed
  cases found : kept.get? source with
  | some a => exact ⟨(holds source a found).symm, holds⟩
  | none =>
      cases parsed : parse source with
      | error e => exact ⟨rfl, holds⟩
      | ok a => exact ⟨rfl, holds.insert parsed⟩

/-- A source that has been parsed is not parsed again. -/
theorem parsed_again {source : String} {a : α}
    (first : (parsed parse source kept).1 = .ok a)
    (other : String → Except EvalError α) :
    parsed other source (parsed parse source kept).2 =
      (.ok a, (parsed parse source kept).2) := by
  have known : (parsed parse source kept).2.get? source = some a := by
    revert first
    unfold ParseCache.parsed
    cases found : kept.get? source with
    | some b =>
        rintro ⟨⟩
        exact found
    | none =>
        cases parse source with
        | error e => rintro ⟨⟩
        | ok b =>
            rintro ⟨⟩
            exact (Table.get?_insert source a kept source).trans (if_pos rfl)
  rw [ParseCache.parsed, known]

end Parsed

end ParseCache

/-! ## An engine and one with a cache -/

/-- A state, and the same beside a cache that keeps the parsers' own results. -/
structure Shadows (plain : Unit × σ) (caching : ParseCache × σ) : Prop where
  state : caching.2 = plain.2
  faithful : caching.1.Faithful

namespace Surroundings

theorem keptExpression_relates (source : String) :
    LivePages.Relates Shadows (σ := Unit × σ) (liftM (Expr.parseExpression source))
      (keptExpression source) := by
  rintro plain ⟨cache, s⟩ ⟨state, faithful⟩
  obtain ⟨same, holds⟩ := faithful.expressions.parsed source
  exact ⟨same, state, { faithful with expressions := holds }⟩

theorem keptScript_relates (source : String) :
    LivePages.Relates Shadows (σ := Unit × σ) (liftM (Expr.parseScript source))
      (keptScript source) := by
  rintro plain ⟨cache, s⟩ ⟨state, faithful⟩
  obtain ⟨same, holds⟩ := faithful.scripts.parsed source
  exact ⟨same, state, { faithful with scripts := holds }⟩

theorem keptHeader_relates (source : String) :
    LivePages.Relates Shadows (σ := Unit × σ) (liftM (Expr.parseLoopHeader source))
      (keptHeader source) := by
  rintro plain ⟨cache, s⟩ ⟨state, faithful⟩
  obtain ⟨same, holds⟩ := faithful.headers.parsed source
  exact ⟨same, state, { faithful with headers := holds }⟩

end Surroundings

/-- Engines whose evaluations, scripts among them, come to the same from related
states. -/
structure Evaluator.Mirrors (engine : Evaluator σ) (other : Evaluator τ)
    (R : σ → τ → Prop) : Prop extends engine.Relates other R where
  execute : ∀ source locals,
    LivePages.Relates R (engine.execute source locals) (other.execute source locals)

/-- Parsing each source once comes to the same as parsing it whenever it is met, in
surroundings that come to the same. -/
theorem Surroundings.rememberingEvaluator_mirrors {env : Surroundings (Unit × σ)}
    {other : Surroundings (ParseCache × σ)} (relates : env.Relates other Shadows)
    (assigns : ∀ name v,
      LivePages.Relates Shadows (env.assign name v) (other.assign name v)) :
    env.evaluator.Mirrors other.rememberingEvaluator Shadows where
  evaluate source locals :=
    (keptExpression_relates source).bind fun e => e.eval_relates relates locals
  iterate source locals :=
    (keptHeader_relates source).bind fun header =>
      (header.iterable.eval_relates relates locals).bind fun _ =>
        LivePages.Relates.bind (.lift _) fun _ => .pure _
  execute source locals :=
    (keptScript_relates source).bind fun script =>
      LivePages.Relates.forM script fun statement _ =>
        statement.run_relates relates locals fun target _ v => assigns target v

/-! ## Requests and routines -/

theorem Evaluator.Mirrors.answer {engine : Evaluator σ} {other : Evaluator τ}
    {R : σ → τ → Prop} (mirrors : engine.Mirrors other R) (request : Request) :
    LivePages.Relates R (engine.answer request) (other.answer request) := by
  cases request with
  | evaluate source locals =>
      exact (mirrors.evaluate source locals).bind fun v => .pure _
  | test source locals =>
      exact ((mirrors.evaluate source locals).bind fun v => .pure _).bind
        fun holds => .pure _
  | iterate header locals =>
      exact (mirrors.iterate header locals).bind fun found => .pure _
  | execute source locals =>
      exact (mirrors.execute source locals).bind fun _ => .pure _

section Routine

variable {engine : Evaluator (Unit × σ)} {other : Evaluator (ParseCache × σ)}

/-- What one request comes to: the same answer, the same state and a cache that again
answers for the parsers. -/
theorem Evaluator.Mirrors.exists_outcome (mirrors : engine.Mirrors other Shadows)
    (request : Request) (s : σ) {cache : ParseCache} (faithful : cache.Faithful) :
    ∃ answer later t, engine.answer request ((), s) = (answer, (), t) ∧
      other.answer request (cache, s) = (answer, later, t) ∧ later.Faithful := by
  obtain ⟨same, state, goesOn⟩ :=
    mirrors.answer request ((), s) (cache, s) ⟨rfl, faithful⟩
  exact ⟨_, _, _, rfl, Prod.ext same (Prod.ext rfl state), goesOn⟩

/-- A routine comes to the same with engines that do.  It sees answers and states, but
no cache. -/
theorem Routine.run_relates (mirrors : engine.Mirrors other Shadows)
    (routine : Routine σ α) :
    LivePages.Relates Shadows (routine.run engine) (routine.run other) := by
  rintro ⟨⟨⟩, s⟩ ⟨cache, t⟩ ⟨state, faithful⟩
  cases state
  induction routine generalizing cache s with
  | finish result => exact ⟨rfl, rfl, faithful⟩
  | change step next inductionHypothesis =>
      exact inductionHypothesis s (step s) cache faithful
  | ask request next inductionHypothesis =>
      obtain ⟨answer, later, t, plain, caching, goesOn⟩ :=
        mirrors.exists_outcome request s faithful
      rw [run, run, plain, caching]
      exact inductionHypothesis answer t later goesOn

end Routine

/-- However deep the evaluations inside each other, the cache does not show. -/
theorem Meanings.engine_mirrors (names : Meanings σ) (depth : Nat) :
    (names.engine Surroundings.evaluator depth).Mirrors
      (names.engine Surroundings.rememberingEvaluator depth) Shadows := by
  induction depth with
  | zero =>
      exact ⟨⟨fun _ _ => .throw _, fun _ _ => .throw _⟩, fun _ _ => .throw _⟩
  | succ depth inductionHypothesis =>
      refine Surroundings.rememberingEvaluator_mirrors ⟨?_, fun name args => ?_⟩
        fun name v => ?_
      · rintro name plain caching ⟨state, -⟩
        exact congrArg (names.lookup name) state
      · exact Routine.run_relates inductionHypothesis (names.call name args)
      · exact Routine.run_relates inductionHypothesis (names.assign name v)

/-- With functions and assignments that do not use the engine, it is the one of their
surroundings. -/
theorem Surroundings.engine_meanings (env : Surroundings σ) (depth : Nat) :
    env.meanings.engine rememberingEvaluator (depth + 1) = env.cachingEvaluator :=
  rfl

/-! ## One request after the other -/

/-- A request, and what happens to the page before it. -/
structure Evaluator.Call (σ : Type) where
  before : σ → σ
  request : Request

/-- What becomes of some requests to one engine: the answer to each and the state it
leaves. -/
def Evaluator.session (engine : Evaluator (κ × σ)) :
    List (Evaluator.Call σ) → κ × σ → List (Except EvalError Answer × σ)
  | [], _ => []
  | call :: calls, (kept, s) =>
    let (answer, kept, s) := engine.answer call.request (kept, call.before s)
    (answer, s) :: engine.session calls (kept, s)

/-- What becomes of some requests if the engine has only `fresh` at each. -/
def Evaluator.freshSession (engine : Evaluator (κ × σ)) (fresh : κ) :
    List (Evaluator.Call σ) → σ → List (Except EvalError Answer × σ)
  | [], _ => []
  | call :: calls, s =>
    let (answer, _, s) := engine.answer call.request (fresh, call.before s)
    (answer, s) :: engine.freshSession fresh calls s

section Session

variable {engine : Evaluator (Unit × σ)} {other : Evaluator (ParseCache × σ)}

theorem Evaluator.Mirrors.session (mirrors : engine.Mirrors other Shadows)
    (calls : List (Evaluator.Call σ)) {cache : ParseCache}
    (faithful : cache.Faithful) (s : σ) :
    other.session calls (cache, s) = engine.session calls ((), s) := by
  induction calls generalizing cache s with
  | nil => rfl
  | cons call calls inductionHypothesis =>
      obtain ⟨answer, later, t, plain, caching, goesOn⟩ :=
        mirrors.exists_outcome call.request (call.before s) faithful
      rw [Evaluator.session, Evaluator.session, plain, caching]
      exact congrArg (List.cons (answer, t)) (inductionHypothesis goesOn t)

theorem Evaluator.Mirrors.freshSession (mirrors : engine.Mirrors other Shadows)
    (calls : List (Evaluator.Call σ)) {fresh : ParseCache}
    (faithful : fresh.Faithful) (s : σ) :
    other.freshSession fresh calls s = engine.session calls ((), s) := by
  induction calls generalizing s with
  | nil => rfl
  | cons call calls inductionHypothesis =>
      obtain ⟨answer, later, t, plain, caching, -⟩ :=
        mirrors.exists_outcome call.request (call.before s) faithful
      rw [Evaluator.freshSession, Evaluator.session, plain, caching]
      exact congrArg (List.cons (answer, t)) (inductionHypothesis t)

end Session

/-- Whatever its names mean and whatever happens to the page between requests, an engine
that keeps what it parsed answers each request and changes the state as if it had parsed
nothing before, and as if it kept nothing at all. -/
theorem caching_invisible (names : Meanings σ) (depth : Nat)
    (calls : List (Evaluator.Call σ)) (s : σ) :
    let caching := names.engine Surroundings.rememberingEvaluator depth
    caching.session calls (ParseCache.empty, s) =
        caching.freshSession ParseCache.empty calls s ∧
      caching.session calls (ParseCache.empty, s) =
        (names.engine Surroundings.evaluator depth).session calls ((), s) := by
  have mirrors := names.engine_mirrors depth
  have plain := mirrors.session calls ParseCache.empty_faithful s
  have fresh := mirrors.freshSession calls ParseCache.empty_faithful s
  exact ⟨plain.trans fresh.symm, plain⟩

end LivePages
