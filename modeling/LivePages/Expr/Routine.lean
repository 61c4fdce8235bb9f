import LivePages.Expr.Eval

/-! Functions and assignments that use the engine again. A function may evaluate other sources
before it returns, and so may a listener that hears of an assignment. -/

namespace LivePages

variable {σ κ α : Type}

/-- What an engine can be asked for. -/
inductive Request where
  | evaluate (source : String) (locals : Locals)
  | test (source : String) (locals : Locals)
  | iterate (header : String) (locals : Locals)
  | execute (source : String) (locals : Locals)

/-- What comes of a request that does not fail. -/
inductive Answer where
  | value (v : Value)
  | truth (holds : Bool)
  | items (binding : String) (values : List Value)
  | done

def Evaluator.answer (engine : Evaluator σ) : Request → Evaluation σ Answer
  | .evaluate source locals => do return .value (← engine.evaluate source locals)
  | .test source locals => do return .truth (← engine.test source locals)
  | .iterate header locals => do
    let (binding, values) ← engine.iterate header locals
    return .items binding values
  | .execute source locals => do
    engine.execute source locals
    return .done

/-- The engine that refuses all requests. It stands in for evaluations that are deeper inside each
other than one looks. -/
def Evaluator.refusing : Evaluator σ where
  evaluate _ _ := throw (.thrown "too many evaluations inside each other")
  iterate _ _ := throw (.thrown "too many evaluations inside each other")
  execute _ _ := throw (.thrown "too many evaluations inside each other")

/-- What a function or an assignment does, step by step. Each step but the last says how it goes
on. -/
inductive Routine (σ α : Type) where
  | finish (result : Except EvalError α)
  /-- Changes the state and goes on by what it was before. -/
  | change (step : σ → σ) (next : σ → Routine σ α)
  /-- Uses the engine and goes on by what comes of it, be it an error. -/
  | ask (request : Request) (next : Except EvalError Answer → Routine σ α)

/-- Carries out a routine with an engine that keeps a `κ` for itself. -/
def Routine.run (engine : Evaluator (κ × σ)) :
    Routine σ α → κ × σ → Except EvalError α × κ × σ
  | finish result, s => (result, s)
  | change step next, (kept, s) => (next s).run engine (kept, step s)
  | ask request next, s =>
    let (answer, s) := engine.answer request s
    (next answer).run engine s

/-- What the names of a page stand for: the value of each, and what calling it and assigning to it
do. -/
structure Meanings (σ : Type) where
  lookup : String → σ → Except EvalError Value
  call : String → List Value → Routine σ Value
  assign : String → Value → Routine σ Unit

/-- The surroundings in which the names have their meanings, with an engine for the routines. -/
def Meanings.surroundings (names : Meanings σ) (engine : Evaluator (κ × σ)) :
    Surroundings (κ × σ) where
  lookup name := fun (_, s) => names.lookup name s
  call name args := (names.call name args).run engine
  assign name v := (names.assign name v).run engine

/-- The engine whose routines use it again, up to `depth` evaluations inside each other. A run that
ends has some depth that is enough for it. -/
def Meanings.engine (make : Surroundings (κ × σ) → Evaluator (κ × σ)) (names : Meanings σ) :
    Nat → Evaluator (κ × σ)
  | 0 => .refusing
  | depth + 1 => make (names.surroundings (engine make names depth))

/-- Surroundings in which no function and no assignment uses the engine. -/
def Surroundings.meanings (env : Surroundings σ) : Meanings σ where
  lookup := env.lookup
  call name args := .change (fun s => (env.call name args s).2) fun s =>
    .finish (env.call name args s).1
  assign name v := .change (fun s => (env.assign name v s).2) fun s =>
    .finish (env.assign name v s).1

end LivePages
