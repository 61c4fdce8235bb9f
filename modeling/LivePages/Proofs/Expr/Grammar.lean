import LivePages.Expr.Parser

/-!
# The grammar of expressions and scripts

Which token sequences spell which expression, said without a parser.  The
grades stand for the levels of the grammar.  An expression of one grade is also
one of the next, and only parentheses lead back to the tightest grade.
-/

namespace LivePages.Grammar

/-- The levels of the grammar, the tightest first. -/
inductive Grade where
  | primary | postfixed | prefixed
  | product | sum | comparison | equality | conjunction | disjunction
  | conditional
deriving DecidableEq

namespace Grade

def rank : Grade → Nat
  | primary => 0
  | postfixed => 1
  | prefixed => 2
  | product => 3
  | sum => 4
  | comparison => 5
  | equality => 6
  | conjunction => 7
  | disjunction => 8
  | conditional => 9

/-- The next tighter grade. -/
def tighter? : Grade → Option Grade
  | primary => none
  | postfixed => some primary
  | prefixed => some postfixed
  | product => some prefixed
  | sum => some product
  | comparison => some sum
  | equality => some comparison
  | conjunction => some equality
  | disjunction => some conjunction
  | conditional => some disjunction

theorem rank_of_tighter? {g h : Grade} (tighter : g.tighter? = some h) :
    g.rank = h.rank + 1 := by
  cases g with
  | primary => cases tighter
  | _ =>
      cases tighter
      rfl

theorem rank_le (g : Grade) : g.rank ≤ conditional.rank := by
  cases g <;> decide

theorem eq_of_rank_eq {g h : Grade} (same : g.rank = h.rank) : g = h := by
  cases g <;> cases h <;> first | rfl | cases same

/-- Below the loosest grade there is always a looser one. -/
theorem exists_looser {h : Grade} (tight : h.rank < conditional.rank) :
    ∃ g : Grade, g.tighter? = some h := by
  cases h with
  | primary => exact ⟨postfixed, rfl⟩
  | postfixed => exact ⟨prefixed, rfl⟩
  | prefixed => exact ⟨product, rfl⟩
  | product => exact ⟨sum, rfl⟩
  | sum => exact ⟨comparison, rfl⟩
  | comparison => exact ⟨equality, rfl⟩
  | equality => exact ⟨conjunction, rfl⟩
  | conjunction => exact ⟨disjunction, rfl⟩
  | disjunction => exact ⟨conditional, rfl⟩
  | conditional => exact absurd tight (Nat.lt_irrefl _)

end Grade

/-- The tokens that stand for values. -/
inductive Stands : Token → Value → Prop
  | number (f : Float) : Stands (.number f) (Value.ofFloat f)
  | text (s : String) : Stands (.text s) (.str s)
  | isTrue : Stands (.name "true") (.bool true)
  | isFalse : Stands (.name "false") (.bool false)
  | isNull : Stands (.name "null") .null
  | isUndefined : Stands (.name "undefined") .null

/-- The names that stand for values. -/
def valueNames : List String := ["true", "false", "null", "undefined"]

/-- The marks in front of an operand. -/
inductive Signs : Mark → UnaryOp → Prop
  | not : Signs .not .not
  | neg : Signs .minus .neg
  | plus : Signs .plus .plus

/-- The marks between two operands, each with the grade of the whole. -/
inductive Joins : Grade → Mark → (Expr → Expr → Expr) → Prop
  | mul : Joins .product .star (.binary .mul)
  | div : Joins .product .slash (.binary .div)
  | rem : Joins .product .percent (.binary .rem)
  | add : Joins .sum .plus (.binary .add)
  | sub : Joins .sum .minus (.binary .sub)
  | lt : Joins .comparison .lt (.binary .lt)
  | gt : Joins .comparison .gt (.binary .gt)
  | le : Joins .comparison .le (.binary .le)
  | ge : Joins .comparison .ge (.binary .ge)
  | looseEq : Joins .equality .looseEq (.binary .looseEq)
  | looseNe : Joins .equality .looseNe (.binary .looseNe)
  | strictEq : Joins .equality .strictEq (.binary .strictEq)
  | strictNe : Joins .equality .strictNe (.binary .strictNe)
  | and : Joins .conjunction .and (.logical .and)
  | or : Joins .disjunction .or (.logical .or)

/-- The marks of assignments. -/
inductive Assigns : Mark → AssignOp → Prop
  | set : Assigns .assign .set
  | add : Assigns .plusAssign .add
  | sub : Assigns .minusAssign .sub

/-- What the grammar has rules for. -/
inductive Phrase where
  | expr (grade : Grade) (e : Expr)
  /-- Expressions separated by commas. -/
  | items (es : List Expr)
  | statement (s : Statement)
  | script (ss : List Statement)

open Grade Phrase in
/-- The rules of the grammar: the token sequences that spell a phrase. -/
inductive Derives : Phrase → List Token → Prop
  | literal {t : Token} {v : Value} :
      Stands t v → Derives (expr primary (.literal v)) [t]
  | name {n : String} :
      n ∉ valueNames → Derives (expr primary (.name n)) [.name n]
  | array {es : List Expr} {ts : List Token} :
      Derives (items es) ts →
      Derives (expr primary (.array es))
        (.mark .openBracket :: ts ++ [.mark .closeBracket])
  | parens {e : Expr} {ts : List Token} :
      Derives (expr conditional e) ts →
      Derives (expr primary e) (.mark .openParen :: ts ++ [.mark .closeParen])
  | member {e : Expr} {ts : List Token} {property : String} :
      Derives (expr postfixed e) ts →
      Derives (expr postfixed (.member e property))
        (ts ++ [.mark .dot, .name property])
  | index {e i : Expr} {ts us : List Token} :
      Derives (expr postfixed e) ts → Derives (expr conditional i) us →
      Derives (expr postfixed (.index e i))
        (ts ++ .mark .openBracket :: us ++ [.mark .closeBracket])
  | call {e : Expr} {es : List Expr} {ts us : List Token} :
      Derives (expr postfixed e) ts → Derives (items es) us →
      Derives (expr postfixed (.call e es))
        (ts ++ .mark .openParen :: us ++ [.mark .closeParen])
  | sign {m : Mark} {op : UnaryOp} {e : Expr} {ts : List Token} :
      Signs m op → Derives (expr prefixed e) ts →
      Derives (expr prefixed (.unary op e)) (.mark m :: ts)
  | join {g h : Grade} {m : Mark} {combine : Expr → Expr → Expr} {l r : Expr}
      {ts us : List Token} :
      Joins g m combine → g.tighter? = some h →
      Derives (expr g l) ts → Derives (expr h r) us →
      Derives (expr g (combine l r)) (ts ++ .mark m :: us)
  | branch {test yes no : Expr} {ts us vs : List Token} :
      Derives (expr disjunction test) ts → Derives (expr conditional yes) us →
      Derives (expr conditional no) vs →
      Derives (expr conditional (.conditional test yes no))
        (ts ++ .mark .question :: us ++ .mark .colon :: vs)
  | loosen {g h : Grade} {e : Expr} {ts : List Token} :
      g.tighter? = some h → Derives (expr h e) ts → Derives (expr g e) ts
  | noItems : Derives (items []) []
  | item {e : Expr} {ts : List Token} :
      Derives (expr conditional e) ts → Derives (items [e]) ts
  | moreItems {e f : Expr} {es : List Expr} {ts us : List Token} :
      Derives (expr conditional e) ts → Derives (items (f :: es)) us →
      Derives (items (e :: f :: es)) (ts ++ .mark .comma :: us)
  | evaluation {e : Expr} {ts : List Token} :
      Derives (expr conditional e) ts → Derives (statement (.expr e)) ts
  | assignment {m : Mark} {op : AssignOp} {target : String} {e : Expr}
      {ts : List Token} :
      Assigns m op → Derives (expr conditional e) ts →
      Derives (statement (.assign target op e)) (.name target :: .mark m :: ts)
  | noStatements : Derives (script []) []
  | gap {ss : List Statement} {ts : List Token} :
      Derives (script ss) ts → Derives (script ss) (.mark .semicolon :: ts)
  | lastStatement {s : Statement} {ts : List Token} :
      Derives (statement s) ts → Derives (script [s]) ts
  | moreStatements {s : Statement} {ss : List Statement} {ts us : List Token} :
      Derives (statement s) ts → Derives (script ss) us →
      Derives (script (s :: ss)) (ts ++ .mark .semicolon :: us)

/-- An expression of one grade is one of every looser grade. -/
theorem Derives.loosenTo {g h : Grade} {e : Expr} {ts : List Token}
    (derived : Derives (.expr h e) ts) (looser : h.rank ≤ g.rank) :
    Derives (.expr g e) ts := by
  induction gap : g.rank - h.rank generalizing h with
  | zero =>
      have same : h.rank = g.rank := by omega
      exact Grade.eq_of_rank_eq same ▸ derived
  | succ n inductionHypothesis =>
      have tight : h.rank < Grade.conditional.rank := by
        have bound := g.rank_le
        omega
      obtain ⟨k, next⟩ := Grade.exists_looser tight
      have step := Grade.rank_of_tighter? next
      apply inductionHypothesis (derived.loosen next)
      · omega
      · omega

end LivePages.Grammar
