import LivePages.Value.Basic

namespace LivePages

inductive UnaryOp where
  | not | neg | plus
deriving DecidableEq, Inhabited

inductive BinaryOp where
  | add | sub | mul | div | rem
  | lt | gt | le | ge
  | looseEq | looseNe | strictEq | strictNe
deriving DecidableEq, Inhabited

inductive LogicalOp where
  | and | or
deriving DecidableEq, Inhabited

/-- Expressions, as they stand in interpolations, conditions, loop headers and scripts. -/
inductive Expr where
  | literal (value : Value)
  | name (name : String)
  | array (items : List Expr)
  | member (object : Expr) (property : String)
  | index (object index : Expr)
  | call (callee : Expr) (args : List Expr)
  | unary (op : UnaryOp) (operand : Expr)
  | binary (op : BinaryOp) (left right : Expr)
  | logical (op : LogicalOp) (left right : Expr)
  | conditional (test consequent alternate : Expr)
deriving Inhabited

inductive AssignOp where
  | set | add | sub
deriving DecidableEq, Inhabited

/-- A statement of an event script. -/
inductive Statement where
  | expr (value : Expr)
  | assign (target : String) (op : AssignOp) (value : Expr)
deriving Inhabited

/-- Whether a loop runs over the items of its iterable or over their keys. -/
inductive LoopKind where
  | items | keys
deriving DecidableEq, Inhabited

/-- The header of a loop: `binding of iterable` for the items, `binding in iterable` for the
keys. -/
structure LoopHeader where
  binding : String
  kind : LoopKind
  iterable : Expr
deriving Inhabited

end LivePages
