import LivePages.Proofs.Expr.Grammar
import LivePages.Proofs.Program.Keeping

/-!
# What the parser reads is spelled by the grammar

Each parser, if it succeeds, has taken off the front of the tokens a sequence
that spells its result.
-/

namespace LivePages.Expr

open Grammar (Derives Grade Signs Joins Assigns valueNames)

/-- A parser that takes off what spells its result. -/
def Sound {α : Type} (p : Parser α) (spells : α → List Token → Prop) : Prop :=
  ∀ ts a rest, p ts = .ok (a, rest) →
    ∃ us, ts = us ++ rest ∧ spells a (us.map Located.token)

/-- The token sequences of expressions of a grade. -/
abbrev Spells (g : Grade) (e : Expr) : List Token → Prop := Derives (.expr g e)

theorem eq_cons_of_startsWith {m : Mark} {ts : List Located}
    (starts : startsWith m ts = true) :
    ∃ offset, ts = ⟨.mark m, offset⟩ :: ts.tail := by
  unfold startsWith at starts
  split at starts
  · have same := of_decide_eq_true starts
    subst same
    exact ⟨_, rfl⟩
  · cases starts

theorem eq_cons_of_expectMark {m : Mark} {ts rest : List Located} {u : Unit}
    (expected : expectMark m ts = .ok (u, rest)) :
    ∃ offset, ts = ⟨.mark m, offset⟩ :: rest := by
  unfold expectMark at expected
  by_cases starts : startsWith m ts = true
  · rw [if_pos starts] at expected
    cases expected
    exact eq_cons_of_startsWith starts
  · rw [if_neg starts] at expected
    cases expected

section Nesting

variable {expr : Parser Expr} (sound : Sound expr (Spells .conditional))

include sound

theorem items_sound {close : Mark} {fuel : Nat} {ts rest : List Located}
    {es : List Expr} (read : items expr close fuel ts = .ok (es, rest)) :
    ∃ us offset, ts = us ++ ⟨.mark close, offset⟩ :: rest ∧
      Derives (.items es) (us.map Located.token) ∧ es ≠ [] := by
  induction fuel generalizing ts es with
  | zero => cases read
  | succ fuel inductionHypothesis =>
      obtain ⟨⟨first, afterFirst⟩, readFirst, goesOn⟩ := exists_of_bind_ok read
      obtain ⟨us, rfl, spelled⟩ := sound _ _ _ readFirst
      dsimp only at goesOn
      by_cases closed : startsWith close afterFirst = true
      · rw [if_pos closed] at goesOn
        cases goesOn
        obtain ⟨offset, shape⟩ := eq_cons_of_startsWith closed
        refine ⟨us, offset, ?_, .item spelled, by simp⟩
        rw [← shape]
      · rw [if_neg closed] at goesOn
        obtain ⟨⟨_, afterComma⟩, comma, goesOn⟩ := exists_of_bind_ok goesOn
        obtain ⟨⟨more, afterMore⟩, readMore, done⟩ := exists_of_bind_ok goesOn
        cases done
        obtain ⟨commaOffset, rfl⟩ := eq_cons_of_expectMark comma
        obtain ⟨vs, offset, rfl, spelledMore, some⟩ := inductionHypothesis readMore
        refine ⟨us ++ ⟨.mark .comma, commaOffset⟩ :: vs, offset, by simp, ?_, by simp⟩
        rw [List.map_append, List.map_cons]
        cases more with
        | nil => exact absurd rfl some
        | cons next more => exact .moreItems spelled spelledMore

theorem list_sound {close : Mark} {ts rest : List Located} {es : List Expr}
    (read : list expr close ts = .ok (es, rest)) :
    ∃ us offset, ts = us ++ ⟨.mark close, offset⟩ :: rest ∧
      Derives (.items es) (us.map Located.token) := by
  unfold list at read
  by_cases closed : startsWith close ts = true
  · rw [if_pos closed] at read
    cases read
    obtain ⟨offset, shape⟩ := eq_cons_of_startsWith closed
    exact ⟨[], offset, shape, .noItems⟩
  · rw [if_neg closed] at read
    obtain ⟨us, offset, shape, spelled, -⟩ := items_sound sound read
    exact ⟨us, offset, shape, spelled⟩

omit sound in
theorem spells_nameOrLiteral (n : String) :
    Spells .primary (nameOrLiteral n) [.name n] := by
  unfold nameOrLiteral
  split
  · exact .literal .isTrue
  · exact .literal .isFalse
  · exact .literal .isNull
  · exact .literal .isUndefined
  · exact .name (by simp_all [valueNames])

theorem primary_sound : Sound (primary expr) (Spells .primary) := by
  intro ts e rest read
  unfold primary at read
  split at read
  · cases read
    exact ⟨[_], rfl, .literal (.number _)⟩
  · cases read
    exact ⟨[_], rfl, .literal (.text _)⟩
  · cases read
    exact ⟨[_], rfl, spells_nameOrLiteral _⟩
  · rename_i offset inner
    obtain ⟨⟨inside, afterInside⟩, readInside, goesOn⟩ := exists_of_bind_ok read
    obtain ⟨⟨_, afterClose⟩, closed, done⟩ := exists_of_bind_ok goesOn
    cases done
    obtain ⟨us, rfl, spelled⟩ := sound _ _ _ readInside
    obtain ⟨closeOffset, rfl⟩ := eq_cons_of_expectMark closed
    refine ⟨⟨.mark .openParen, offset⟩ :: us ++ [⟨.mark .closeParen, closeOffset⟩],
      by simp, ?_⟩
    rw [List.map_append, List.map_cons]
    exact .parens spelled
  · rename_i offset inner
    obtain ⟨⟨es, afterItems⟩, readItems, done⟩ := exists_of_bind_ok read
    cases done
    obtain ⟨us, closeOffset, rfl, spelled⟩ := list_sound sound readItems
    refine ⟨⟨.mark .openBracket, offset⟩ :: us ++ [⟨.mark .closeBracket, closeOffset⟩],
      by simp, ?_⟩
    rw [List.map_append, List.map_cons]
    exact .array spelled
  · cases read

theorem trailers_sound {fuel : Nat} {object e : Expr} {ts rest : List Located}
    {front : List Token} (spelled : Spells .postfixed object front)
    (read : trailers expr fuel object ts = .ok (e, rest)) :
    ∃ us, ts = us ++ rest ∧
      Spells .postfixed e (front ++ us.map Located.token) := by
  induction fuel generalizing object front ts with
  | zero =>
      cases read
      exact ⟨[], rfl, by simpa using spelled⟩
  | succ fuel inductionHypothesis =>
      unfold trailers at read
      split at read
      · rename_i dotOffset property nameOffset inner
        obtain ⟨us, rfl, spelledAll⟩ :=
          inductionHypothesis (.member spelled) read
        refine ⟨⟨.mark .dot, dotOffset⟩ :: ⟨.name property, nameOffset⟩ :: us, rfl, ?_⟩
        simpa using spelledAll
      · cases read
      · rename_i offset inner
        obtain ⟨⟨i, afterIndex⟩, readIndex, goesOn⟩ := exists_of_bind_ok read
        obtain ⟨⟨_, afterClose⟩, closed, lastly⟩ := exists_of_bind_ok goesOn
        obtain ⟨vs, rfl, spelledIndex⟩ := sound _ _ _ readIndex
        obtain ⟨closeOffset, rfl⟩ := eq_cons_of_expectMark closed
        obtain ⟨us, rfl, spelledAll⟩ :=
          inductionHypothesis (.index spelled spelledIndex) lastly
        refine ⟨⟨.mark .openBracket, offset⟩ :: vs ++
          ⟨.mark .closeBracket, closeOffset⟩ :: us, by simp, ?_⟩
        simpa using spelledAll
      · rename_i offset inner
        obtain ⟨⟨es, afterArgs⟩, readArgs, lastly⟩ := exists_of_bind_ok read
        obtain ⟨vs, closeOffset, rfl, spelledArgs⟩ := list_sound sound readArgs
        obtain ⟨us, rfl, spelledAll⟩ :=
          inductionHypothesis (.call spelled spelledArgs) lastly
        refine ⟨⟨.mark .openParen, offset⟩ :: vs ++
          ⟨.mark .closeParen, closeOffset⟩ :: us, by simp, ?_⟩
        simpa using spelledAll
      · cases read
        exact ⟨[], rfl, by simpa using spelled⟩

theorem postfixed_sound : Sound (postfixed expr) (Spells .postfixed) := by
  intro ts e rest read
  obtain ⟨⟨object, afterObject⟩, readObject, goesOn⟩ := exists_of_bind_ok read
  obtain ⟨us, rfl, spelled⟩ := primary_sound sound _ _ _ readObject
  obtain ⟨vs, rfl, spelledAll⟩ := trailers_sound sound (spelled.loosen rfl) goesOn
  refine ⟨us ++ vs, by simp, ?_⟩
  rw [List.map_append]
  exact spelledAll

omit sound in
theorem signs_of_unaryOp? {m : Mark} {op : UnaryOp} (isSign : unaryOp? m = some op) :
    Signs m op := by
  unfold unaryOp? at isSign
  split at isSign
  · cases isSign
    exact .not
  · cases isSign
    exact .neg
  · cases isSign
    exact .plus
  · cases isSign

theorem signed_sound : Sound (signed expr) (Spells .prefixed) := by
  have unsigned : ∀ ts e rest, postfixed expr ts = .ok (e, rest) →
      ∃ us, ts = us ++ rest ∧ Spells .prefixed e (us.map Located.token) := by
    intro ts e rest read
    obtain ⟨us, shape, spelled⟩ := postfixed_sound sound _ _ _ read
    exact ⟨us, shape, spelled.loosen rfl⟩
  -- Signs are read without fuel: each takes a token.
  intro ts
  induction ts with
  | nil => exact unsigned []
  | cons t ts inductionHypothesis =>
      obtain ⟨t, offset⟩ := t
      intro e rest read
      cases t with
      | mark m =>
          rw [signed] at read
          split at read
          · rename_i op isSign
            obtain ⟨⟨operand, after⟩, readOperand, done⟩ := exists_of_bind_ok read
            cases done
            obtain ⟨us, rfl, spelled⟩ := inductionHypothesis _ _ readOperand
            exact ⟨⟨.mark m, offset⟩ :: us, rfl,
              .sign (signs_of_unaryOp? isSign) spelled⟩
          · exact unsigned _ _ _ read
      | number f => exact unsigned _ _ _ read
      | text s => exact unsigned _ _ _ read
      | name n => exact unsigned _ _ _ read

end Nesting

/-! ## Operators -/

/-- The operators of a grade. -/
def levelOf : Grade → Level
  | .product => multiplicative
  | .sum => additive
  | .comparison => comparison
  | .equality => equality
  | .conjunction => conjunction
  | .disjunction => disjunction
  | _ => fun _ => none

theorem levelOf_eq_some_iff {g : Grade} {m : Mark} {combine : Expr → Expr → Expr} :
    levelOf g m = some combine ↔ Joins g m combine := by
  constructor
  · intro isOperator
    cases g <;> cases m <;> cases isOperator <;> constructor
  · intro joins
    cases joins <;> rfl

theorem operands_sound {operand : Parser Expr} {g h : Grade}
    (next : g.tighter? = some h) (sound : Sound operand (Spells h))
    {fuel : Nat} {left e : Expr} {ts rest : List Located} {front : List Token}
    (spelled : Spells g left front)
    (read : operands (levelOf g) operand fuel left ts = .ok (e, rest)) :
    ∃ us, ts = us ++ rest ∧ Spells g e (front ++ us.map Located.token) := by
  induction fuel generalizing left front ts with
  | zero =>
      cases read
      exact ⟨[], rfl, by simpa using spelled⟩
  | succ fuel inductionHypothesis =>
      unfold operands at read
      split at read
      · rename_i m offset inner
        split at read
        · rename_i combine isOperator
          obtain ⟨⟨right, afterRight⟩, readRight, goesOn⟩ := exists_of_bind_ok read
          obtain ⟨vs, rfl, spelledRight⟩ := sound _ _ _ readRight
          have whole := Derives.join (levelOf_eq_some_iff.mp isOperator) next spelled
            spelledRight
          obtain ⟨us, rfl, spelledAll⟩ := inductionHypothesis whole goesOn
          refine ⟨⟨.mark m, offset⟩ :: vs ++ us, by simp, ?_⟩
          simpa using spelledAll
        · cases read
          exact ⟨[], rfl, by simpa using spelled⟩
      · cases read
        exact ⟨[], rfl, by simpa using spelled⟩

theorem leftGrouped_sound {operand : Parser Expr} {g h : Grade}
    (next : g.tighter? = some h) (sound : Sound operand (Spells h)) :
    Sound (leftGrouped operand (levelOf g)) (Spells g) := by
  intro ts e rest read
  obtain ⟨⟨left, afterLeft⟩, readLeft, goesOn⟩ := exists_of_bind_ok read
  obtain ⟨us, rfl, spelled⟩ := sound _ _ _ readLeft
  obtain ⟨vs, rfl, spelledAll⟩ :=
    operands_sound next sound (spelled.loosen next) goesOn
  refine ⟨us ++ vs, by simp, ?_⟩
  rw [List.map_append]
  exact spelledAll

theorem grouped_sound {expr : Parser Expr} (sound : Sound expr (Spells .conditional)) :
    Sound (grouped expr) (Spells .disjunction) := by
  have product := leftGrouped_sound (g := .product) rfl (signed_sound sound)
  have sum := leftGrouped_sound (g := .sum) rfl product
  have comparison := leftGrouped_sound (g := .comparison) rfl sum
  have equality := leftGrouped_sound (g := .equality) rfl comparison
  have conjunction := leftGrouped_sound (g := .conjunction) rfl equality
  exact leftGrouped_sound (g := .disjunction) rfl conjunction

theorem expression_sound (depth : Nat) :
    Sound (expression depth) (Spells .conditional) := by
  induction depth with
  | zero =>
      intro ts e rest read
      cases read
  | succ depth inductionHypothesis =>
      intro ts e rest read
      obtain ⟨⟨test, afterTest⟩, readTest, goesOn⟩ := exists_of_bind_ok read
      obtain ⟨us, rfl, spelled⟩ := grouped_sound inductionHypothesis _ _ _ readTest
      dsimp only at goesOn
      by_cases branches : startsWith .question afterTest = true
      · rw [if_pos branches] at goesOn
        obtain ⟨⟨yes, afterYes⟩, readYes, goesOn⟩ := exists_of_bind_ok goesOn
        obtain ⟨⟨_, afterColon⟩, colon, goesOn⟩ := exists_of_bind_ok goesOn
        obtain ⟨⟨no, afterNo⟩, readNo, done⟩ := exists_of_bind_ok goesOn
        cases done
        obtain ⟨questionOffset, shape⟩ := eq_cons_of_startsWith branches
        obtain ⟨vs, isYes, spelledYes⟩ := inductionHypothesis _ _ _ readYes
        obtain ⟨colonOffset, rfl⟩ := eq_cons_of_expectMark colon
        obtain ⟨ws, rfl, spelledNo⟩ := inductionHypothesis _ _ _ readNo
        refine ⟨us ++ ⟨.mark .question, questionOffset⟩ :: vs ++
          ⟨.mark .colon, colonOffset⟩ :: ws, ?_, ?_⟩
        · rw [shape, isYes]
          simp
        · simpa using Derives.branch spelled spelledYes spelledNo
      · rw [if_neg branches] at goesOn
        cases goesOn
        exact ⟨us, rfl, spelled.loosen rfl⟩

theorem anyExpression_sound : Sound anyExpression (Spells .conditional) :=
  fun ts e rest read => expression_sound (ts.length + 1) ts e rest read

/-! ## Scripts -/

theorem assigns_of_assignOp? {m : Mark} {op : AssignOp}
    (isAssignment : assignOp? m = some op) : Assigns m op := by
  unfold assignOp? at isAssignment
  split at isAssignment <;> cases isAssignment <;> constructor

/-- A statement that makes no assignment. -/
def evaluation : Parser Statement := fun ts => do
  let (e, rest) ← anyExpression ts
  return (.expr e, rest)

theorem evaluation_sound : Sound evaluation fun s => Derives (.statement s) := by
  intro ts s rest read
  obtain ⟨⟨e, after⟩, readExpr, done⟩ := exists_of_bind_ok read
  cases done
  obtain ⟨us, shape, spelled⟩ := anyExpression_sound _ _ _ readExpr
  exact ⟨us, shape, .evaluation spelled⟩

theorem statement_sound : Sound statement fun s => Derives (.statement s) := by
  intro ts s rest read
  unfold statement at read
  dsimp only at read
  split at read
  · rename_i target nameOffset m markOffset inner
    split at read
    · rename_i op isAssignment
      obtain ⟨⟨e, after⟩, readExpr, done⟩ := exists_of_bind_ok read
      cases done
      obtain ⟨us, rfl, spelled⟩ := anyExpression_sound _ _ _ readExpr
      exact ⟨⟨.name target, nameOffset⟩ :: ⟨.mark m, markOffset⟩ :: us, rfl,
        .assignment (assigns_of_assignOp? isAssignment) spelled⟩
    · exact evaluation_sound _ _ _ read
  · exact evaluation_sound _ _ _ read

/-- With fuel to spare a script is read to its end. -/
theorem statements_sound {fuel : Nat} {ts : List Located} {ss : List Statement}
    {rest : List Located} (enough : ts.length < fuel)
    (read : statements fuel ts = .ok (ss, rest)) :
    rest = [] ∧ Derives (.script ss) (ts.map Located.token) := by
  induction fuel generalizing ts ss with
  | zero => omega
  | succ fuel inductionHypothesis =>
      unfold statements at read
      by_cases done : ts.isEmpty = true
      · rw [if_pos done] at read
        cases read
        rw [List.isEmpty_iff] at done
        subst done
        exact ⟨rfl, .noStatements⟩
      · rw [if_neg done] at read
        by_cases empty : startsWith .semicolon ts = true
        · rw [if_pos empty] at read
          obtain ⟨offset, shape⟩ := eq_cons_of_startsWith empty
          have shorter : ts.tail.length < fuel := by
            have length := congrArg List.length shape
            rw [List.length_cons] at length
            omega
          obtain ⟨isEnd, spelled⟩ := inductionHypothesis shorter read
          refine ⟨isEnd, ?_⟩
          rw [shape]
          exact .gap spelled
        · rw [if_neg empty] at read
          obtain ⟨⟨first, afterFirst⟩, readFirst, goesOn⟩ := exists_of_bind_ok read
          obtain ⟨us, rfl, spelled⟩ := statement_sound _ _ _ readFirst
          dsimp only at goesOn
          by_cases last : afterFirst.isEmpty = true
          · rw [if_pos last] at goesOn
            cases goesOn
            rw [List.isEmpty_iff] at last
            subst last
            rw [List.append_nil]
            exact ⟨rfl, .lastStatement spelled⟩
          · rw [if_neg last] at goesOn
            obtain ⟨⟨_, afterMark⟩, separated, goesOn⟩ := exists_of_bind_ok goesOn
            obtain ⟨⟨more, afterMore⟩, readMore, done⟩ := exists_of_bind_ok goesOn
            cases done
            obtain ⟨offset, rfl⟩ := eq_cons_of_expectMark separated
            have shorter : afterMark.length < fuel := by
              rw [List.length_append, List.length_cons] at enough
              omega
            obtain ⟨isEnd, spelledMore⟩ := inductionHypothesis shorter readMore
            refine ⟨isEnd, ?_⟩
            rw [List.map_append, List.map_cons]
            exact .moreStatements spelled spelledMore

end LivePages.Expr
