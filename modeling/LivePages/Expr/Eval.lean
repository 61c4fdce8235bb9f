import LivePages.Expr.Access
import LivePages.Expr.Parser

/-! Evaluation of expressions in surroundings that look names up, call functions and assign. The
surroundings may change at every call, so the order of evaluation shows. -/

namespace LivePages

/-- What an expression may ask of its surroundings, whose state is a `σ`: the value of a name, a
call of the function of that name, an assignment. -/
structure Surroundings (σ : Type) where
  lookup : String → σ → Except EvalError Value
  call : String → List Value → σ → Except EvalError Value × σ
  assign : String → Value → σ → Except EvalError Unit × σ

/-- An evaluation changes the state even when it fails. -/
abbrev Evaluation (σ α : Type) := ExceptT EvalError (StateM σ) α

/-- The variables of the enclosing loops, the innermost first. -/
abbrev Locals := List (String × Value)

namespace Expr

variable {σ : Type}

def lookup (env : Surroundings σ) (locals : Locals) (name : String) : Evaluation σ Value := fun s =>
  match locals.lookup name with
  | some v => (.ok v, s)
  | none => (env.lookup name s, s)

def applyUnary : UnaryOp → Value → Value
  | .not, v => .bool (!v.truthy)
  | .neg, v => Value.arithmetic (fun x _ => -x) v .null
  | .plus, v => Value.arithmetic (fun x _ => x) v .null

/-- Whether two values are in one of the given orders. -/
def ordered (accept : List Ordering) (a b : Value) : Value :=
  .bool ((a.compare? b).any accept.contains)

def applyBinary : BinaryOp → Value → Value → Value
  | .add, a, b => a.add b
  | .sub, a, b => Value.arithmetic (· - ·) a b
  | .mul, a, b => Value.arithmetic (· * ·) a b
  | .div, a, b => Value.arithmetic (· / ·) a b
  | .rem, a, b => Value.arithmetic Decimal.remainder a b
  | .lt, a, b => ordered [.lt] a b
  | .gt, a, b => ordered [.gt] a b
  | .le, a, b => ordered [.lt, .eq] a b
  | .ge, a, b => ordered [.gt, .eq] a b
  | .looseEq, a, b => .bool (a.looseEquals b)
  | .looseNe, a, b => .bool (!a.looseEquals b)
  | .strictEq, a, b => .bool (a.strictEquals b)
  | .strictNe, a, b => .bool (!a.strictEquals b)

/-- How the callee of a call is named when it is no function. -/
def describe : Expr → String
  | name n => n
  | literal v => v.display
  | _ => "expression"

mutual

/-- The value of an expression. The arguments of a call are evaluated before its callee; a name that
a loop has taken cannot be called. -/
def eval (env : Surroundings σ) (locals : Locals) : Expr → Evaluation σ Value
  | literal v => pure v
  | name n => lookup env locals n
  | array es => do return .arr (← evalAll env locals es)
  | member object property => do
    let v ← eval env locals object
    v.member property
  | index object position => do
    let v ← eval env locals object
    let i ← eval env locals position
    v.member i.display
  | call (name f) args => do
    let vs ← evalAll env locals args
    if (locals.lookup f).isSome then throw (.notCallable f) else fun s => env.call f vs s
  | call (member object method) args => do
    let vs ← evalAll env locals args
    let v ← eval env locals object
    v.callMethod method vs
  | call callee args => do
    let _ ← evalAll env locals args
    throw (.notCallable callee.describe)
  | unary op operand => do return applyUnary op (← eval env locals operand)
  | binary op left right => do
    let a ← eval env locals left
    let b ← eval env locals right
    return applyBinary op a b
  | logical op left right => do
    let a ← eval env locals left
    match op, a.truthy with
    | .and, false | .or, true => return a
    | _, _ => eval env locals right
  | conditional test consequent alternate => do
    let c ← eval env locals test
    if c.truthy then eval env locals consequent else eval env locals alternate

def evalAll (env : Surroundings σ) (locals : Locals) : List Expr → Evaluation σ (List Value)
  | [] => pure []
  | e :: es => do
    let v ← eval env locals e
    let vs ← evalAll env locals es
    return v :: vs

end

/-- The values a loop header runs over: items or keys of arrays and texts, keys of objects. -/
def iterate (kind : LoopKind) (iterable : Value) : Except EvalError (List Value) :=
  let positions := fun (n : Nat) => (List.range n).map fun (i : Nat) => Value.str (toString i)
  match kind, iterable with
  | .items, .arr items => .ok items
  | .items, .str s => .ok (Value.characters s)
  | .items, v => .error (.notIterable v.display)
  | .keys, .arr items => .ok (positions items.length)
  | .keys, .obj fields => .ok (fields.map fun (key, _) => .str key)
  | .keys, .str s => .ok (positions s.length)
  | .keys, _ => .ok []

end Expr

namespace Statement

variable {σ : Type}

/-- Runs a statement. An assignment that builds on the old value reads it after the new one is
evaluated, and always goes past the loop variables to the surroundings. -/
def run (env : Surroundings σ) (locals : Locals) : Statement → Evaluation σ Unit
  | expr e => do
    let _ ← e.eval env locals
  | assign target op e => do
    let v ← e.eval env locals
    let new ←
      match op with
      | .set => pure v
      | .add => pure ((← Expr.lookup env locals target).add v)
      | .sub => pure (Value.arithmetic (· - ·) (← Expr.lookup env locals target) v)
    fun s => env.assign target new s

end Statement

/-- An engine for the expression sources of a page. -/
structure Evaluator (σ : Type) where
  evaluate : String → Locals → Evaluation σ Value
  /-- The loop variable and its values. -/
  iterate : String → Locals → Evaluation σ (String × List Value)
  execute : String → Locals → Evaluation σ Unit

/-- Whether a condition holds. -/
def Evaluator.test {σ : Type} (engine : Evaluator σ) (source : String) (locals : Locals) :
    Evaluation σ Bool := do
  return (← engine.evaluate source locals).truthy

/-- The engine that parses each source when it meets it. -/
def Surroundings.evaluator {σ : Type} (env : Surroundings σ) : Evaluator σ where
  evaluate source locals := do
    let e ← Expr.parseExpression source
    e.eval env locals
  iterate source locals := do
    let header ← Expr.parseLoopHeader source
    let v ← header.iterable.eval env locals
    return (header.binding, ← Expr.iterate header.kind v)
  execute source locals := do
    let script ← Expr.parseScript source
    script.forM (Statement.run env locals)

end LivePages
