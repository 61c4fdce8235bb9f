import LivePages.Expr.Basic
import LivePages.Expr.Lexer
import LivePages.Value.Coercion

/-! Tokens as expressions, statements and loop headers. The operators stand on six levels, each of
which groups to the left; brackets and branches start again from the loosest. -/

namespace LivePages.Expr

/-- Where parsing stopped: the cause, and the tokens from the offending one on. -/
structure Failure where
  cause : Malformation
  rest : List Located

/-- A parser yields its result and the tokens that follow it. -/
abbrev Parser (α : Type) := List Located → Except Failure (α × List Located)

def startsWith (m : Mark) : List Located → Bool
  | ⟨.mark n, _⟩ :: _ => n = m
  | _ => false

/-- The mark `m`. -/
def expectMark (m : Mark) : Parser Unit := fun ts =>
  if startsWith m ts then .ok ((), ts.tail) else .error ⟨.missingMark m, ts⟩

/-- Expressions separated by commas up to `close`, at least one of them. The fuel bounds their
number. -/
def items (expr : Parser Expr) (close : Mark) : Nat → Parser (List Expr)
  | 0, ts => .error ⟨.missingMark close, ts⟩
  | fuel + 1, ts => do
    let (first, rest) ← expr ts
    if startsWith close rest then return ([first], rest.tail)
    let (_, rest) ← expectMark .comma rest
    let (more, rest) ← items expr close fuel rest
    return (first :: more, rest)

/-- The rest of a list after its opening mark. -/
def list (expr : Parser Expr) (close : Mark) : Parser (List Expr) := fun ts =>
  if startsWith close ts then .ok ([], ts.tail) else items expr close (ts.length + 1) ts

/-- A name as an expression; some names stand for values. -/
def nameOrLiteral (name : String) : Expr :=
  match name with
  | "true" => .literal (.bool true)
  | "false" => .literal (.bool false)
  | "null" | "undefined" => .literal .null
  | _ => .name name

/-- Literals, names, arrays and parentheses. -/
def primary (expr : Parser Expr) : Parser Expr := fun ts =>
  match ts with
  | ⟨.number f, _⟩ :: rest => .ok (.literal (Value.ofFloat f), rest)
  | ⟨.text s, _⟩ :: rest => .ok (.literal (.str s), rest)
  | ⟨.name n, _⟩ :: rest => .ok (nameOrLiteral n, rest)
  | ⟨.mark .openParen, _⟩ :: rest => do
    let (e, rest) ← expr rest
    let (_, rest) ← expectMark .closeParen rest
    return (e, rest)
  | ⟨.mark .openBracket, _⟩ :: rest => do
    let (es, rest) ← list expr .closeBracket rest
    return (.array es, rest)
  | _ => .error ⟨.missingExpression, ts⟩

/-- Members, indexes and calls that follow `object`. The fuel bounds their number. -/
def trailers (expr : Parser Expr) : Nat → Expr → Parser Expr
  | 0, object, ts => .ok (object, ts)
  | fuel + 1, object, ts =>
    match ts with
    | ⟨.mark .dot, _⟩ :: ⟨.name property, _⟩ :: rest =>
      trailers expr fuel (.member object property) rest
    | ⟨.mark .dot, _⟩ :: rest => .error ⟨.missingProperty, rest.tail⟩
    | ⟨.mark .openBracket, _⟩ :: rest => do
      let (position, rest) ← expr rest
      let (_, rest) ← expectMark .closeBracket rest
      trailers expr fuel (.index object position) rest
    | ⟨.mark .openParen, _⟩ :: rest => do
      let (args, rest) ← list expr .closeParen rest
      trailers expr fuel (.call object args) rest
    | _ => .ok (object, ts)

def postfixed (expr : Parser Expr) : Parser Expr := fun ts => do
  let (object, rest) ← primary expr ts
  trailers expr rest.length object rest

def unaryOp? : Mark → Option UnaryOp
  | .not => some .not
  | .minus => some .neg
  | .plus => some .plus
  | _ => none

/-- Any number of signs and negations before an operand. -/
def signed (expr : Parser Expr) : Parser Expr
  | ⟨.mark m, offset⟩ :: rest =>
    match unaryOp? m with
    | some op => do
      let (operand, rest) ← signed expr rest
      return (.unary op operand, rest)
    | none => postfixed expr (⟨.mark m, offset⟩ :: rest)
  | ts => postfixed expr ts

/-- A level of operators that group to the left: how a mark combines two operands, if it belongs to
the level. -/
abbrev Level := Mark → Option (Expr → Expr → Expr)

def multiplicative : Level
  | .star => some (.binary .mul)
  | .slash => some (.binary .div)
  | .percent => some (.binary .rem)
  | _ => none

def additive : Level
  | .plus => some (.binary .add)
  | .minus => some (.binary .sub)
  | _ => none

def comparison : Level
  | .le => some (.binary .le)
  | .ge => some (.binary .ge)
  | .lt => some (.binary .lt)
  | .gt => some (.binary .gt)
  | _ => none

def equality : Level
  | .strictEq => some (.binary .strictEq)
  | .strictNe => some (.binary .strictNe)
  | .looseEq => some (.binary .looseEq)
  | .looseNe => some (.binary .looseNe)
  | _ => none

def conjunction : Level
  | .and => some (.logical .and)
  | _ => none

def disjunction : Level
  | .or => some (.logical .or)
  | _ => none

/-- The levels from the tightest to the loosest. -/
def levels : List Level :=
  [multiplicative, additive, comparison, equality, conjunction, disjunction]

/-- Further operands of a level after `left`. The fuel bounds their number. -/
def operands (level : Level) (operand : Parser Expr) : Nat → Expr → Parser Expr
  | 0, left, ts => .ok (left, ts)
  | fuel + 1, left, ts =>
    match ts with
    | ⟨.mark m, _⟩ :: rest =>
      match level m with
      | some combine => do
        let (right, rest) ← operand rest
        operands level operand fuel (combine left right) rest
      | none => .ok (left, ts)
    | _ => .ok (left, ts)

/-- Operands joined by the operators of a level. -/
def leftGrouped (operand : Parser Expr) (level : Level) : Parser Expr := fun ts => do
  let (left, rest) ← operand ts
  operands level operand rest.length left rest

/-- An expression with all operators but `? :` at its top. -/
def grouped (expr : Parser Expr) : Parser Expr := levels.foldl leftGrouped (signed expr)

/-- Expressions whose brackets and branches nest less than `depth` deep. -/
def expression : Nat → Parser Expr
  | 0, ts => .error ⟨.missingExpression, ts⟩
  | depth + 1, ts => do
    let (test, rest) ← grouped (expression depth) ts
    if startsWith .question rest then
      let (consequent, rest) ← expression depth rest.tail
      let (_, rest) ← expectMark .colon rest
      let (alternate, rest) ← expression depth rest
      return (.conditional test consequent alternate, rest)
    else return (test, rest)

/-- Any expression: each level of nesting takes at least one token. -/
def anyExpression : Parser Expr := fun ts => expression (ts.length + 1) ts

/-- The end of the tokens. -/
def expectEnd : Parser Unit := fun ts =>
  if ts.isEmpty then .ok ((), ts) else .error ⟨.trailingInput, ts⟩

/-- The assignment a mark stands for. -/
def assignOp? : Mark → Option AssignOp
  | .assign => some .set
  | .plusAssign => some .add
  | .minusAssign => some .sub
  | _ => none

def statement : Parser Statement := fun ts =>
  let plain := do
    let (e, rest) ← anyExpression ts
    return (.expr e, rest)
  match ts with
  | ⟨.name target, _⟩ :: ⟨.mark m, _⟩ :: rest =>
    match assignOp? m with
    | some op => do
      let (e, rest) ← anyExpression rest
      return (.assign target op e, rest)
    | none => plain
  | _ => plain

/-- Statements separated by semicolons, any of which may be missing between them. -/
def statements : Nat → Parser (List Statement)
  | 0, ts => .ok ([], ts)
  | fuel + 1, ts =>
    if ts.isEmpty then .ok ([], ts)
    else if startsWith .semicolon ts then statements fuel ts.tail
    else do
      let (first, rest) ← statement ts
      if rest.isEmpty then return ([first], rest)
      let (_, rest) ← expectMark .semicolon rest
      let (more, rest) ← statements fuel rest
      return (first :: more, rest)

/-- Whether the parenthesis that opens a list of tokens closes only at its end. -/
def closesLast : Nat → List Located → Bool
  | _, [] => true
  | depth, ⟨.mark .openParen, _⟩ :: rest => closesLast (depth + 1) rest
  | depth, ⟨.mark .closeParen, _⟩ :: rest =>
    (depth - 1 ≠ 0 || rest.isEmpty) && closesLast (depth - 1) rest
  | depth, _ :: rest => closesLast depth rest

/-- Drops a pair of parentheses around all tokens. -/
def stripParens (ts : List Located) : List Located :=
  let closed :=
    match ts.getLast? with
    | some ⟨.mark .closeParen, _⟩ => true
    | _ => false
  if startsWith .openParen ts && closed && closesLast 0 ts then ts.tail.dropLast else ts

/-- Drops a word that may introduce the variable of a loop. -/
def dropKeyword : List Located → List Located
  | ⟨.name "const", _⟩ :: rest => rest
  | ⟨.name "let", _⟩ :: rest => rest
  | ⟨.name "var", _⟩ :: rest => rest
  | ts => ts

def loopHeader : Parser LoopHeader := fun ts =>
  match dropKeyword ts with
  | ⟨.name binding, _⟩ :: rest =>
    let header := fun kind rest => do
      let (iterable, rest) ← anyExpression rest
      return (⟨binding, kind, iterable⟩, rest)
    match rest with
    | ⟨.name "of", _⟩ :: rest => header .items rest
    | ⟨.name "in", _⟩ :: rest => header .keys rest
    | _ => .error ⟨.missingLoopWord, rest.tail⟩
  | rest => .error ⟨.missingVariable, rest.tail⟩

/-- Runs a parser over all tokens of `input`. Where it stops is reported as a byte offset. -/
def parseAll {α : Type} (input : String) (parser : Parser α) (ts : List Located) :
    Except EvalError α :=
  let result := do
    let (a, rest) ← parser ts
    let _ ← expectEnd rest
    return a
  result.mapError fun failure =>
    let offset := (failure.rest.head?.map Located.offset).getD input.utf8ByteSize
    .malformed input offset failure.cause

def parseExpression (input : String) : Except EvalError Expr := do
  parseAll input anyExpression (← tokenize input)

def parseScript (input : String) : Except EvalError (List Statement) := do
  let ts ← tokenize input
  parseAll input (statements (ts.length + 1)) ts

def parseLoopHeader (input : String) : Except EvalError LoopHeader := do
  parseAll input loopHeader (stripParens (← tokenize input))

end LivePages.Expr
