import LivePages.Expr.Eval
import LivePages.Table

/-! An engine that parses each source once. It gives the same results as the plain one. -/

namespace LivePages

/-- The parsed forms of sources that have been met, for each kind of source by itself. Sources that
do not parse are not kept. -/
structure ParseCache where
  expressions : Table Expr
  scripts : Table (List Statement)
  headers : Table LoopHeader
deriving Inhabited

namespace ParseCache

def empty : ParseCache := ⟨[], [], []⟩

/-- Looks a source up, or parses it and keeps the result. -/
def parsed {α : Type} (parse : String → Except EvalError α) (source : String) (kept : Table α) :
    Except EvalError α × Table α :=
  match kept.get? source with
  | some a => (.ok a, kept)
  | none =>
    match parse source with
    | .ok a => (.ok a, Table.insert source a kept)
    | .error e => (.error e, kept)

end ParseCache

variable {σ : Type}

namespace Surroundings

def keptExpression (source : String) : Evaluation (ParseCache × σ) Expr := fun (cache, s) =>
  let (result, expressions) := ParseCache.parsed Expr.parseExpression source cache.expressions
  (result, { cache with expressions }, s)

def keptScript (source : String) : Evaluation (ParseCache × σ) (List Statement) :=
  fun (cache, s) =>
    let (result, scripts) := ParseCache.parsed Expr.parseScript source cache.scripts
    (result, { cache with scripts }, s)

def keptHeader (source : String) : Evaluation (ParseCache × σ) LoopHeader := fun (cache, s) =>
  let (result, headers) := ParseCache.parsed Expr.parseLoopHeader source cache.headers
  (result, { cache with headers }, s)

/-- The engine that parses each source once. Functions and assignments may use it again, so they
find the cache as it is then and may leave more in it. -/
def rememberingEvaluator (env : Surroundings (ParseCache × σ)) : Evaluator (ParseCache × σ) where
  evaluate source locals := do
    let e ← keptExpression source
    e.eval env locals
  iterate source locals := do
    let h ← keptHeader source
    let v ← h.iterable.eval env locals
    return (h.binding, ← Expr.iterate h.kind v)
  execute source locals := do
    let statements ← keptScript source
    statements.forM (Statement.run env locals)

/-- Surroundings that do not touch the cache. -/
def besideCache (env : Surroundings σ) : Surroundings (ParseCache × σ) where
  lookup name := fun (_, s) => env.lookup name s
  call name args := fun (cache, s) =>
    let (result, s) := env.call name args s
    (result, cache, s)
  assign name v := fun (cache, s) =>
    let (result, s) := env.assign name v s
    (result, cache, s)

/-- The engine that parses each source once, in surroundings that do not use it again. -/
def cachingEvaluator (env : Surroundings σ) : Evaluator (ParseCache × σ) :=
  env.besideCache.rememberingEvaluator

end Surroundings

end LivePages
