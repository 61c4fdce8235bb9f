import LivePages.Proofs.Expr.Soundness

/-!
# Expressions are read up to their end

The loops of the parser take every operand they can.  They are never wrong in
this: a mark that goes on with an expression of some grade never follows one in
a phrase of a tighter grade.
-/

namespace LivePages.Expr

open Grammar (Derives Phrase Grade Signs Joins Stands valueNames)

/-! ## What may follow an expression -/

/-- The rank of the expressions that a mark after an operand goes on with, beyond
all ranks if it goes on with none. -/
def reach : Mark → Nat
  | .dot | .openBracket | .openParen => 1
  | .star | .slash | .percent => 3
  | .plus | .minus => 4
  | .lt | .gt | .le | .ge => 5
  | .looseEq | .looseNe | .strictEq | .strictNe => 6
  | .and => 7
  | .or => 8
  | .question => 9
  | _ => 10

/-- No expression of the rank goes on with these tokens. -/
def Stops (rank : Nat) : List Located → Prop
  | ⟨.mark m, _⟩ :: _ => rank < reach m
  | _ => True

theorem Stops.mono {n rank : Nat} {ts : List Located} (stops : Stops rank ts)
    (tighter : n ≤ rank) : Stops n ts := by
  unfold Stops at stops ⊢
  split
  · exact Nat.lt_of_le_of_lt tighter stops
  · trivial

theorem reach_of_joins {g : Grade} {m : Mark} {combine : Expr → Expr → Expr}
    (joins : Joins g m combine) : reach m = g.rank := by
  cases joins <;> rfl

theorem startsWith_self (m : Mark) (offset : Nat) (ts : List Located) :
    startsWith m (⟨.mark m, offset⟩ :: ts) = true := decide_eq_true rfl

theorem expectMark_self (m : Mark) (offset : Nat) (ts : List Located) :
    expectMark m (⟨.mark m, offset⟩ :: ts) = .ok ((), ts) :=
  if_pos (startsWith_self m offset ts)

theorem bind_of_ok {ε α β : Type} {x : Except ε α} {a : α} (read : x = .ok a)
    (f : α → Except ε β) : (x >>= f) = f a := by
  rw [read]
  rfl

/-! ## How a phrase begins -/

/-- The tokens that expressions begin with. -/
def begins : Token → Bool
  | .mark m => m = .openParen || m = .openBracket || (unaryOp? m).isSome
  | _ => true

/-- The tokens that operands without signs begin with. -/
def beginsOperand : Token → Bool
  | .mark m => m = .openParen || m = .openBracket
  | _ => true

/-- How tokens begin that spell a phrase. -/
def Begins : Phrase → List Token → Prop
  | .expr g _, ts => ∃ t us, ts = t :: us ∧ begins t = true ∧
      (g.rank ≤ 1 → beginsOperand t = true)
  | .items es, ts => es ≠ [] → ∃ t us, ts = t :: us ∧ begins t = true
  | .statement _, ts => ∃ t us, ts = t :: us ∧ begins t = true
  | .script _, _ => True

theorem Begins.append {g g' : Grade} {e e' : Expr} {ts : List Token}
    (begun : Begins (.expr g e) ts) (ranks : g'.rank ≤ 1 → g.rank ≤ 1)
    (us : List Token) : Begins (.expr g' e') (ts ++ us) := by
  obtain ⟨t, vs, rfl, first, operand⟩ := begun
  exact ⟨t, vs ++ us, rfl, first, fun tight => operand (ranks tight)⟩

theorem begins_of_derives {phrase : Phrase} {ts : List Token}
    (derived : Derives phrase ts) : Begins phrase ts := by
  induction derived with
  | literal stands =>
      cases stands <;> exact ⟨_, [], rfl, rfl, fun _ => rfl⟩
  | name _ => exact ⟨_, [], rfl, rfl, fun _ => rfl⟩
  | array _ _ => exact ⟨_, _, rfl, rfl, fun _ => rfl⟩
  | parens _ _ => exact ⟨_, _, rfl, rfl, fun _ => rfl⟩
  | member _ begun => exact begun.append id _
  | index _ _ begun _ =>
      rw [List.append_assoc]
      exact begun.append id _
  | call _ _ begun _ =>
      rw [List.append_assoc]
      exact begun.append id _
  | sign signs _ _ =>
      refine ⟨_, _, rfl, ?_, ?_⟩
      · cases signs <;> rfl
      · intro tight
        simp [Grade.rank] at tight
  | join joins _ _ _ begun _ => exact begun.append id _
  | branch _ _ _ begun _ _ =>
      rw [List.append_assoc]
      exact begun.append (by simp [Grade.rank]) _
  | loosen next _ begun =>
      have ranks := Grade.rank_of_tighter? next
      obtain ⟨t, us, rfl, first, operand⟩ := begun
      exact ⟨t, us, rfl, first, fun tight => operand (by omega)⟩
  | noItems => exact fun some => absurd rfl some
  | item _ begun =>
      obtain ⟨t, us, rfl, first, -⟩ := begun
      exact fun _ => ⟨t, us, rfl, first⟩
  | moreItems _ _ begun _ =>
      obtain ⟨t, us, rfl, first, -⟩ := begun
      exact fun _ => ⟨t, _, rfl, first⟩
  | evaluation _ begun =>
      obtain ⟨t, us, rfl, first, -⟩ := begun
      exact ⟨t, us, rfl, first⟩
  | assignment _ _ _ => exact ⟨_, _, rfl, rfl⟩
  | noStatements => trivial
  | gap _ _ => trivial
  | lastStatement _ _ => trivial
  | moreStatements _ _ _ _ => trivial

/-- Tokens that begin an expression do not begin with a mark of another kind. -/
theorem not_startsWith {m : Mark} {us rest : List Located} {t : Token}
    {ts : List Token} (spelled : us.map Located.token = t :: ts)
    (first : begins t = true) (other : begins (.mark m) = false) :
    startsWith m (us ++ rest) = false := by
  obtain ⟨u, vs, rfl, rfl, -⟩ := List.map_eq_cons_iff.mp spelled
  obtain ⟨token, offset⟩ := u
  cases token with
  | mark n =>
      apply decide_eq_false
      rintro rfl
      rw [first] at other
      cases other
  | number f => rfl
  | text s => rfl
  | name n => rfl

/-! ## The parser of each grade -/

/-- The parser of a grade, for brackets and branches that nest less than `depth`
deep inside. -/
def parserAt (depth : Nat) : Grade → Parser Expr
  | .primary => primary (expression depth)
  | .postfixed => postfixed (expression depth)
  | .conditional => expression (depth + 1)
  | g => (levels.take (g.rank - 2)).foldl leftGrouped (signed (expression depth))

/-- How the parser of a grade goes on behind a first operand. -/
def goOn (depth : Nat) : Grade → Nat → Expr → Parser Expr
  | .postfixed => trailers (expression depth)
  | g => operands (levelOf g) (parserAt depth (g.tighter?.getD .primary))

/-- The rank that what follows a first operand has to stop.  Branches have no
operand of their own grade in front. -/
def holds : Grade → Nat
  | .conditional => 9
  | g => g.rank - 1

/-- The parser of a grade takes tokens for an expression and goes on with it as
its first operand. -/
def Reads (g : Grade) (e : Expr) (us : List Located) : Prop :=
  ∀ depth, us.length ≤ depth → ∀ rest, Stops (holds g) rest →
    ∃ fuel, rest.length ≤ fuel ∧
      parserAt depth g (us ++ rest) = goOn depth g fuel e rest

theorem trailers_stops {expr : Parser Expr} {fuel : Nat} {e : Expr}
    {rest : List Located} (stops : Stops 1 rest) :
    trailers expr fuel e rest = .ok (e, rest) := by
  cases fuel with
  | zero => rfl
  | succ fuel =>
      unfold trailers
      split
      · exact absurd stops (Nat.lt_irrefl 1)
      · exact absurd stops (Nat.lt_irrefl 1)
      · exact absurd stops (Nat.lt_irrefl 1)
      · exact absurd stops (Nat.lt_irrefl 1)
      · rfl

theorem operands_stops {g : Grade} {operand : Parser Expr} {fuel : Nat} {e : Expr}
    {rest : List Located} (stops : Stops g.rank rest) :
    operands (levelOf g) operand fuel e rest = .ok (e, rest) := by
  cases fuel with
  | zero => rfl
  | succ fuel =>
      unfold operands
      split
      · split
        · rename_i isOperator
          have rank := reach_of_joins (levelOf_eq_some_iff.mp isOperator)
          exact absurd stops (by simp [Stops, rank])
        · rfl
      · rfl

theorem goOn_stops {depth fuel : Nat} {g : Grade} {e : Expr} {rest : List Located}
    (stops : Stops g.rank rest) : goOn depth g fuel e rest = .ok (e, rest) := by
  unfold goOn
  split
  · exact trailers_stops stops
  · exact operands_stops stops

theorem holds_le (g : Grade) : holds g ≤ g.rank := by
  cases g <;> decide

theorem Reads.stops {depth : Nat} {g : Grade} {e : Expr} {us rest : List Located}
    (reads : Reads g e us) (deep : us.length ≤ depth) (stops : Stops g.rank rest) :
    parserAt depth g (us ++ rest) = .ok (e, rest) := by
  obtain ⟨fuel, -, read⟩ := reads depth deep rest (stops.mono (holds_le g))
  rw [read]
  exact goOn_stops stops

theorem Reads.nested {depth : Nat} {e : Expr} {us rest : List Located}
    (reads : Reads .conditional e us) (deep : us.length < depth)
    (stops : Stops 9 rest) : expression depth (us ++ rest) = .ok (e, rest) := by
  obtain ⟨depth, rfl⟩ : ∃ n, depth = n + 1 := ⟨depth - 1, by omega⟩
  exact reads.stops (Nat.le_of_lt_succ deep) stops

/-- The grades that have no loop. -/
def Single (g : Grade) : Prop := g = .primary ∨ g = .prefixed ∨ g = .conditional

theorem goOn_single {g : Grade} (single : Single g) (depth fuel : Nat) (e : Expr)
    (rest : List Located) : goOn depth g fuel e rest = .ok (e, rest) := by
  have noOperator : ∀ operand : Parser Expr,
      operands (fun _ => none) operand fuel e rest = .ok (e, rest) := by
    intro operand
    cases fuel with
    | zero => rfl
    | succ fuel =>
        unfold operands
        split <;> rfl
  rcases single with rfl | rfl | rfl
  · exact noOperator _
  · exact noOperator _
  · exact noOperator _

theorem Reads.of_single {g : Grade} {e : Expr} {us : List Located} (single : Single g)
    (read : ∀ depth, us.length ≤ depth → ∀ rest, Stops (holds g) rest →
      parserAt depth g (us ++ rest) = .ok (e, rest)) : Reads g e us := by
  intro depth deep rest stops
  refine ⟨rest.length, Nat.le_refl _, ?_⟩
  rw [read depth deep rest stops, goOn_single single]

/-! ## One rule at a time -/

theorem reads_literal {t : Token} {v : Value} (stands : Stands t v) (offset : Nat) :
    Reads .primary (.literal v) [⟨t, offset⟩] := by
  apply Reads.of_single (.inl rfl)
  intro depth _ rest _
  cases stands with
  | number f => rfl
  | text s => rfl
  | isTrue => rfl
  | isFalse => rfl
  | isNull => rfl
  | isUndefined => rfl

theorem nameOrLiteral_eq {n : String} (plain : n ∉ valueNames) :
    nameOrLiteral n = .name n := by
  unfold nameOrLiteral
  split
  all_goals first | rfl | exact absurd (by decide) plain

theorem reads_name {n : String} (plain : n ∉ valueNames) (offset : Nat) :
    Reads .primary (.name n) [⟨.name n, offset⟩] := by
  apply Reads.of_single (.inl rfl)
  intro depth _ rest _
  exact congrArg (fun e => Except.ok (e, rest)) (nameOrLiteral_eq plain)

theorem reads_parens {e : Expr} {us : List Located} (inside : Reads .conditional e us)
    (offset closeOffset : Nat) :
    Reads .primary e
      (⟨.mark .openParen, offset⟩ :: us ++ [⟨.mark .closeParen, closeOffset⟩]) := by
  apply Reads.of_single (.inl rfl)
  intro depth deep rest _
  have shorter : us.length < depth := by
    rw [List.length_append, List.length_cons] at deep
    omega
  have stops : Stops 9 (⟨.mark .closeParen, closeOffset⟩ :: rest) := by
    exact (by decide : 9 < 10)
  rw [List.append_assoc]
  apply (bind_of_ok (inside.nested shorter stops) _).trans
  exact bind_of_ok (expectMark_self _ _ _) _

/-- The marks at the end of lists. -/
def Closes (close : Mark) : Prop := close = .closeParen ∨ close = .closeBracket

theorem Closes.stops {close : Mark} (closes : Closes close) (offset : Nat)
    (rest : List Located) : Stops 9 (⟨.mark close, offset⟩ :: rest) := by
  rcases closes with rfl | rfl
  · exact (by decide : 9 < 10)
  · exact (by decide : 9 < 10)

theorem Closes.not_begins {close : Mark} (closes : Closes close) :
    begins (.mark close) = false := by
  rcases closes with rfl | rfl
  · rfl
  · rfl

/-- A list with an expression in it is read up to its end. -/
def ReadsItems (es : List Expr) (us : List Located) : Prop :=
  ∀ depth, us.length < depth → ∀ close, Closes close → ∀ offset rest fuel,
    us.length < fuel →
    items (expression depth) close fuel (us ++ ⟨.mark close, offset⟩ :: rest) =
      .ok (es, rest)

theorem readsItems_one {e : Expr} {us : List Located} (first : Reads .conditional e us) :
    ReadsItems [e] us := by
  intro depth deep close closes offset rest fuel enough
  obtain ⟨fuel, rfl⟩ : ∃ n, fuel = n + 1 := ⟨fuel - 1, by omega⟩
  apply (bind_of_ok (first.nested deep (closes.stops offset rest)) _).trans
  exact if_pos (startsWith_self _ _ _)

theorem readsItems_more {e : Expr} {es : List Expr} {us vs : List Located}
    (first : Reads .conditional e us) (others : ReadsItems es vs) (commaOffset : Nat) :
    ReadsItems (e :: es) (us ++ ⟨.mark .comma, commaOffset⟩ :: vs) := by
  intro depth deep close closes offset rest fuel enough
  rw [List.length_append, List.length_cons] at deep enough
  obtain ⟨fuel, rfl⟩ : ∃ n, fuel = n + 1 := ⟨fuel - 1, by omega⟩
  let behind := vs ++ ⟨.mark close, offset⟩ :: rest
  have stops : Stops 9 (⟨.mark .comma, commaOffset⟩ :: behind) := by
    exact (by decide : 9 < 10)
  have goesOn : ¬ startsWith close (⟨.mark .comma, commaOffset⟩ :: behind) = true := by
    rcases closes with rfl | rfl
    · exact Bool.false_ne_true
    · exact Bool.false_ne_true
  have shallow : us.length < depth := by omega
  have readFirst := first.nested shallow stops
  have readMore : items (expression depth) close fuel behind = .ok (es, rest) :=
    others depth (by omega) close closes offset rest fuel (by omega)
  rw [List.append_assoc]
  apply (bind_of_ok readFirst _).trans
  apply (if_neg goesOn).trans
  apply (bind_of_ok (expectMark_self _ _ _) _).trans
  exact bind_of_ok readMore _

/-- The rest of a list is read, with or without expressions in it. -/
def ReadsList (es : List Expr) (us : List Located) : Prop :=
  ∀ depth, us.length < depth → ∀ close, Closes close → ∀ offset rest,
    list (expression depth) close (us ++ ⟨.mark close, offset⟩ :: rest) = .ok (es, rest)

theorem readsList_nil : ReadsList [] [] := by
  intro depth _ close _ offset rest
  exact if_pos (startsWith_self _ _ _)

theorem readsList_of_items {es : List Expr} {us : List Located} {t : Token}
    {ts : List Token} (spelled : us.map Located.token = t :: ts)
    (first : begins t = true) (read : ReadsItems es us) : ReadsList es us := by
  intro depth deep close closes offset rest
  have goesOn : startsWith close (us ++ ⟨.mark close, offset⟩ :: rest) = false :=
    not_startsWith spelled first closes.not_begins
  apply (if_neg (by simp [goesOn])).trans
  apply read depth deep close closes offset rest
  rw [List.length_append]
  omega

theorem reads_array {es : List Expr} {us : List Located} (inside : ReadsList es us)
    (offset closeOffset : Nat) :
    Reads .primary (.array es)
      (⟨.mark .openBracket, offset⟩ :: us ++ [⟨.mark .closeBracket, closeOffset⟩]) := by
  apply Reads.of_single (.inl rfl)
  intro depth deep rest _
  have shorter : us.length < depth := by
    rw [List.length_append, List.length_cons] at deep
    omega
  rw [List.append_assoc]
  exact bind_of_ok (inside depth shorter .closeBracket (.inr rfl) closeOffset rest) _

section Trailers

variable {e : Expr} {us vs : List Located} (object : Reads .postfixed e us)

include object

/-- An object is read up to a mark that starts a trailer. -/
theorem Reads.trailer {depth : Nat} (deep : us.length ≤ depth) {m : Mark}
    (trails : reach m = 1) (offset : Nat) (rest : List Located) :
    ∃ fuel, rest.length ≤ fuel ∧
      postfixed (expression depth) (us ++ ⟨.mark m, offset⟩ :: rest) =
        trailers (expression depth) (fuel + 1) e (⟨.mark m, offset⟩ :: rest) := by
  have stops : Stops 0 (⟨.mark m, offset⟩ :: rest) := by
    rw [Stops, trails]
    exact Nat.zero_lt_one
  obtain ⟨fuel, enough, read⟩ := object depth deep _ stops
  rw [List.length_cons] at enough
  obtain ⟨fuel, rfl⟩ : ∃ n, fuel = n + 1 := ⟨fuel - 1, by omega⟩
  exact ⟨fuel, by omega, read⟩

theorem reads_member (property : String) (offset nameOffset : Nat) :
    Reads .postfixed (.member e property)
      (us ++ [⟨.mark .dot, offset⟩, ⟨.name property, nameOffset⟩]) := by
  intro depth deep rest _
  rw [List.length_append] at deep
  have shallow : us.length ≤ depth := by omega
  obtain ⟨fuel, enough, read⟩ :=
    object.trailer shallow (m := .dot) rfl offset (⟨.name property, nameOffset⟩ :: rest)
  rw [List.length_cons] at enough
  refine ⟨fuel, by omega, ?_⟩
  rw [List.append_assoc]
  exact read

theorem reads_index {i : Expr} (position : Reads .conditional i vs)
    (offset closeOffset : Nat) :
    Reads .postfixed (.index e i)
      (us ++ ⟨.mark .openBracket, offset⟩ :: vs ++
        [⟨.mark .closeBracket, closeOffset⟩]) := by
  intro depth deep rest _
  simp only [List.length_append, List.length_cons] at deep
  have shallow : us.length ≤ depth := by omega
  have shallowInside : vs.length < depth := by omega
  obtain ⟨fuel, enough, read⟩ := object.trailer shallow (m := .openBracket) rfl offset
    (vs ++ ⟨.mark .closeBracket, closeOffset⟩ :: rest)
  rw [List.length_append, List.length_cons] at enough
  have stops : Stops 9 (⟨.mark .closeBracket, closeOffset⟩ :: rest) :=
    Closes.stops (.inr rfl) closeOffset rest
  have readIndex := position.nested shallowInside stops
  refine ⟨fuel, by omega, ?_⟩
  rw [List.append_assoc, List.append_assoc]
  apply read.trans
  apply (bind_of_ok readIndex _).trans
  exact bind_of_ok (expectMark_self _ _ _) _

theorem reads_call {es : List Expr} (args : ReadsList es vs)
    (offset closeOffset : Nat) :
    Reads .postfixed (.call e es)
      (us ++ ⟨.mark .openParen, offset⟩ :: vs ++
        [⟨.mark .closeParen, closeOffset⟩]) := by
  intro depth deep rest _
  simp only [List.length_append, List.length_cons] at deep
  have shallow : us.length ≤ depth := by omega
  have shallowInside : vs.length < depth := by omega
  obtain ⟨fuel, enough, read⟩ := object.trailer shallow (m := .openParen) rfl offset
    (vs ++ ⟨.mark .closeParen, closeOffset⟩ :: rest)
  rw [List.length_append, List.length_cons] at enough
  have readArgs := args depth shallowInside .closeParen (.inl rfl) closeOffset rest
  refine ⟨fuel, by omega, ?_⟩
  rw [List.append_assoc, List.append_assoc]
  apply read.trans
  exact bind_of_ok readArgs _

end Trailers

theorem unaryOp?_of_signs {m : Mark} {op : UnaryOp} (signs : Signs m op) :
    unaryOp? m = some op := by
  cases signs <;> rfl

theorem reads_sign {m : Mark} {op : UnaryOp} {e : Expr} {us : List Located}
    (signs : Signs m op) (operand : Reads .prefixed e us) (offset : Nat) :
    Reads .prefixed (.unary op e) (⟨.mark m, offset⟩ :: us) := by
  apply Reads.of_single (.inr (.inl rfl))
  intro depth deep rest stops
  rw [List.length_cons] at deep
  have read : signed (expression depth) (us ++ rest) = .ok (e, rest) := by
    obtain ⟨fuel, -, read⟩ := operand depth (by omega) rest stops
    rw [goOn_single (.inr (.inl rfl))] at read
    exact read
  show signed (expression depth) (⟨.mark m, offset⟩ :: (us ++ rest)) = _
  rw [signed, unaryOp?_of_signs signs]
  exact bind_of_ok read _

theorem parserAt_eq_leftGrouped {g h : Grade} {m : Mark}
    {combine : Expr → Expr → Expr} (joins : Joins g m combine)
    (next : g.tighter? = some h) (depth : Nat) :
    parserAt depth g = leftGrouped (parserAt depth h) (levelOf g) ∧
      goOn depth g = operands (levelOf g) (parserAt depth h) := by
  cases joins <;> cases next <;> exact ⟨rfl, rfl⟩

theorem reads_join {g h : Grade} {m : Mark} {combine : Expr → Expr → Expr}
    {l r : Expr} {us vs : List Located} (joins : Joins g m combine)
    (next : g.tighter? = some h) (left : Reads g l us) (right : Reads h r vs)
    (offset : Nat) : Reads g (combine l r) (us ++ ⟨.mark m, offset⟩ :: vs) := by
  intro depth deep rest stops
  rw [List.length_append, List.length_cons] at deep
  have holdsLeft : holds g + 1 = g.rank := by
    cases joins <;> rfl
  have ranks := Grade.rank_of_tighter? next
  have leftStops : Stops (holds g) (⟨.mark m, offset⟩ :: (vs ++ rest)) := by
    rw [Stops, reach_of_joins joins]
    omega
  -- What stops the whole stops its right operand, which is of the tighter grade.
  have rightStops : Stops h.rank rest := stops.mono (by omega)
  obtain ⟨fuel, enough, read⟩ := left depth (by omega) _ leftStops
  have shallowRight : vs.length ≤ depth := by omega
  have readRight := right.stops shallowRight rightStops
  rw [List.length_cons, List.length_append] at enough
  obtain ⟨fuel, rfl⟩ : ∃ n, fuel = n + 1 := ⟨fuel - 1, by omega⟩
  refine ⟨fuel, by omega, ?_⟩
  rw [List.append_assoc]
  apply read.trans
  rw [(parserAt_eq_leftGrouped joins next depth).2]
  simp only [operands, levelOf_eq_some_iff.mpr joins]
  exact bind_of_ok readRight _

theorem reads_branch {test yes no : Expr} {us vs ws : List Located}
    (first : Reads .disjunction test us) (second : Reads .conditional yes vs)
    (third : Reads .conditional no ws) (offset colonOffset : Nat) :
    Reads .conditional (.conditional test yes no)
      (us ++ ⟨.mark .question, offset⟩ :: vs ++ ⟨.mark .colon, colonOffset⟩ :: ws) := by
  apply Reads.of_single (.inr (.inr rfl))
  intro depth deep rest stops
  simp only [List.length_append, List.length_cons] at deep
  let behindColon := ws ++ rest
  let behindQuestion := vs ++ ⟨.mark .colon, colonOffset⟩ :: behindColon
  have testStops : Stops 8 (⟨.mark .question, offset⟩ :: behindQuestion) := by
    exact (by decide : 8 < 9)
  have yesStops : Stops 9 (⟨.mark .colon, colonOffset⟩ :: behindColon) := by
    exact (by decide : 9 < 10)
  have shallowTest : us.length ≤ depth := by omega
  have shallowYes : vs.length < depth := by omega
  have shallowNo : ws.length < depth := by omega
  have readTest : grouped (expression depth)
      (us ++ ⟨.mark .question, offset⟩ :: behindQuestion) = .ok (test, _) :=
    first.stops shallowTest testStops
  have readYes := second.nested shallowYes yesStops
  have readNo := third.nested shallowNo stops
  rw [List.append_assoc, List.append_assoc]
  apply (bind_of_ok readTest _).trans
  apply (if_pos (startsWith_self _ _ _)).trans
  apply (bind_of_ok readYes _).trans
  apply (bind_of_ok (expectMark_self _ _ _) _).trans
  exact bind_of_ok readNo _

theorem startsWith_question_of_stops {rest : List Located} (stops : Stops 9 rest) :
    ¬ startsWith .question rest = true := by
  intro starts
  obtain ⟨offset, shape⟩ := eq_cons_of_startsWith starts
  rw [shape] at stops
  exact absurd stops (by decide : ¬ 9 < 9)

theorem signed_of_beginsOperand {expr : Parser Expr} {ts : List Located} {t : Token}
    {us : List Token} (spelled : ts.map Located.token = t :: us)
    (begun : beginsOperand t = true) (rest : List Located) :
    signed expr (ts ++ rest) = postfixed expr (ts ++ rest) := by
  obtain ⟨⟨token, offset⟩, vs, rfl, rfl, -⟩ := List.map_eq_cons_iff.mp spelled
  cases token with
  | mark m =>
      have unsigned : unaryOp? m = none := by
        cases m with
        | openParen => rfl
        | openBracket => rfl
        | _ => cases begun
      rw [List.cons_append, signed, unsigned]
  | number f => rfl
  | text s => rfl
  | name n => rfl

theorem reads_loosen {g h : Grade} {e : Expr} {us : List Located}
    (next : g.tighter? = some h) (tight : Reads h e us)
    {t : Token} {ts : List Token} (spelled : us.map Located.token = t :: ts)
    (begun : h.rank ≤ 1 → beginsOperand t = true) : Reads g e us := by
  -- The grades with operators differ by their tables only.
  have ofLevel : holds g = h.rank →
      (∀ depth, parserAt depth g = leftGrouped (parserAt depth h) (levelOf g) ∧
        goOn depth g = operands (levelOf g) (parserAt depth h)) → Reads g e us := by
    intro ranks forms depth deep rest stops
    rw [ranks] at stops
    refine ⟨rest.length, Nat.le_refl _, ?_⟩
    rw [(forms depth).1, (forms depth).2]
    exact bind_of_ok (tight.stops deep stops) _
  cases g with
  | primary => cases next
  | postfixed =>
      cases next
      intro depth deep rest stops
      exact ⟨rest.length, Nat.le_refl _, bind_of_ok (tight.stops deep stops) _⟩
  | prefixed =>
      cases next
      apply Reads.of_single (.inr (.inl rfl))
      intro depth deep rest stops
      apply (signed_of_beginsOperand spelled (begun (Nat.le_refl 1)) rest).trans
      exact tight.stops deep stops
  | conditional =>
      cases next
      apply Reads.of_single (.inr (.inr rfl))
      intro depth deep rest stops
      have read : grouped (expression depth) (us ++ rest) = .ok (e, rest) :=
        tight.stops deep (stops.mono (by decide))
      apply (bind_of_ok read _).trans
      exact if_neg (startsWith_question_of_stops stops)
  | _ =>
      cases next
      exact ofLevel rfl fun depth => ⟨rfl, rfl⟩

end LivePages.Expr
