import LivePages.Proofs.Expr.Reading

/-!
# What the grammar spells is parsed

Scripts are read statement by statement, and the look ahead for an assignment is
never misled by an expression.  With the rules for expressions this gives the
parsers of whole inputs.
-/

namespace LivePages.Expr

open Grammar (Derives Phrase Grade Signs Joins Assigns)

/-! ## Scripts -/

def isAssignment : Token → Bool
  | .mark m => (assignOp? m).isSome
  | _ => false

/-- No token of an expression makes an assignment. -/
def Assignless : Phrase → List Token → Prop
  | .expr _ _, ts | .items _, ts => ts.all (fun t => ! isAssignment t) = true
  | .statement _, _ | .script _, _ => True

theorem not_isAssignment_of_joins {g : Grade} {m : Mark}
    {combine : Expr → Expr → Expr} (joins : Joins g m combine) :
    isAssignment (.mark m) = false := by
  cases joins <;> rfl

theorem assignless_of_derives {phrase : Phrase} {ts : List Token}
    (derived : Derives phrase ts) : Assignless phrase ts := by
  have openParen : isAssignment (.mark .openParen) = false := rfl
  have closeParen : isAssignment (.mark .closeParen) = false := rfl
  have openBracket : isAssignment (.mark .openBracket) = false := rfl
  have closeBracket : isAssignment (.mark .closeBracket) = false := rfl
  induction derived with
  | literal stands => cases stands <;> rfl
  | name _ => rfl
  | array _ inside => simp_all [Assignless]
  | parens _ inside => simp_all [Assignless]
  | member _ object =>
      have dot : isAssignment (.mark .dot) = false := rfl
      have named : ∀ n, isAssignment (.name n) = false := fun _ => rfl
      simp_all [Assignless]
  | index _ _ object inside => simp_all [Assignless]
  | call _ _ object inside => simp_all [Assignless]
  | sign signs _ operand =>
      have sign : ∀ m op, Signs m op → isAssignment (.mark m) = false := by
        intro m op isSign
        cases isSign <;> rfl
      simp_all [Assignless, sign _ _ signs]
  | join joins _ _ _ left right =>
      simp_all [Assignless, not_isAssignment_of_joins joins]
  | branch _ _ _ first second third =>
      have question : isAssignment (.mark .question) = false := rfl
      have colon : isAssignment (.mark .colon) = false := rfl
      simp_all [Assignless]
  | loosen _ _ tight => exact tight
  | noItems => rfl
  | item _ single => exact single
  | moreItems _ _ first others =>
      have comma : isAssignment (.mark .comma) = false := rfl
      simp_all [Assignless]
  | evaluation _ _ => trivial
  | assignment _ _ _ => trivial
  | noStatements => trivial
  | gap _ _ => trivial
  | lastStatement _ _ => trivial
  | moreStatements _ _ _ _ => trivial

/-- What ends a statement. -/
def EndsStatement : List Located → Prop
  | [] => True
  | ⟨t, _⟩ :: _ => ∃ m, t = .mark m ∧ m = .semicolon

theorem EndsStatement.stops {rest : List Located} (ends : EndsStatement rest) :
    Stops 9 rest := by
  cases rest with
  | nil => trivial
  | cons t rest =>
      obtain ⟨m, same, rfl⟩ := ends
      obtain ⟨token, offset⟩ := t
      cases same
      exact (by decide : 9 < 10)

/-- A statement is read up to its end. -/
def ReadsStatement (s : Statement) (us : List Located) : Prop :=
  ∀ rest, EndsStatement rest → statement (us ++ rest) = .ok (s, rest)

theorem Reads.any {e : Expr} {us rest : List Located} (reads : Reads .conditional e us)
    (stops : Stops 9 rest) : anyExpression (us ++ rest) = .ok (e, rest) := by
  apply reads.nested _ stops
  rw [List.length_append]
  omega

theorem readsStatement_expr {e : Expr} {us : List Located}
    (reads : Reads .conditional e us) {t : Token} {ts : List Token}
    (begun : us.map Located.token = t :: ts)
    (assignless : Assignless (.expr .conditional e) (us.map Located.token)) :
    ReadsStatement (.expr e) us := by
  intro rest ends
  have plain : evaluation (us ++ rest) = .ok (.expr e, rest) :=
    bind_of_ok (reads.any ends.stops) _
  -- the mark behind a leading name is one of the expression or the end of the statement
  have noAssignment : ∀ target nameOffset m markOffset more,
      us ++ rest = ⟨.name target, nameOffset⟩ :: ⟨.mark m, markOffset⟩ :: more →
      assignOp? m = none := by
    intro target nameOffset m markOffset more shape
    obtain ⟨u, vs, rfl, -, -⟩ := List.map_eq_cons_iff.mp begun
    rw [List.cons_append, List.cons.injEq] at shape
    cases vs with
    | nil =>
        obtain ⟨-, shape⟩ := shape
        rw [List.nil_append] at shape
        rw [shape] at ends
        obtain ⟨n, same, rfl⟩ := ends
        cases same
        rfl
    | cons v vs =>
        rw [List.cons_append, List.cons.injEq] at shape
        obtain ⟨-, rfl, -⟩ := shape
        have here := List.all_eq_true.mp assignless (.mark m) (by simp)
        simpa [isAssignment] using here
  unfold statement
  split
  · rename_i target nameOffset m markOffset more shape
    rw [noAssignment _ _ _ _ _ shape]
    exact plain
  · exact plain

theorem assignOp?_of_assigns {m : Mark} {op : AssignOp} (assigns : Assigns m op) :
    assignOp? m = some op := by
  cases assigns <;> rfl

theorem readsStatement_assign {m : Mark} {op : AssignOp} {target : String} {e : Expr}
    {us : List Located} (assigns : Assigns m op) (reads : Reads .conditional e us)
    (nameOffset offset : Nat) :
    ReadsStatement (.assign target op e)
      (⟨.name target, nameOffset⟩ :: ⟨.mark m, offset⟩ :: us) := by
  intro rest ends
  unfold statement
  simp only [List.cons_append, assignOp?_of_assigns assigns]
  exact bind_of_ok (reads.any ends.stops) _

/-- A script is read to its end. -/
def ReadsScript (ss : List Statement) (us : List Located) : Prop :=
  ∀ fuel, us.length < fuel → statements fuel us = .ok (ss, [])

theorem readsScript_nil : ReadsScript [] [] := by
  intro fuel enough
  cases fuel with
  | zero => cases enough
  | succ fuel => rfl

theorem readsScript_gap {ss : List Statement} {us : List Located}
    (reads : ReadsScript ss us) (offset : Nat) :
    ReadsScript ss (⟨.mark .semicolon, offset⟩ :: us) := by
  intro fuel enough
  cases fuel with
  | zero => cases enough
  | succ fuel => exact reads fuel (Nat.lt_of_succ_lt_succ enough)

section FirstStatement

variable {s : Statement} {us : List Located} (reads : ReadsStatement s us)
  {t : Token} {ts : List Token} (begun : us.map Located.token = t :: ts)
  (first : begins t = true)

include reads begun first

/-- A script with tokens that begin a statement starts with that statement. -/
theorem statements_first {fuel : Nat} {rest : List Located}
    (ends : EndsStatement rest) :
    statements (fuel + 1) (us ++ rest) =
      if rest.isEmpty then .ok ([s], rest)
      else do
        let (_, rest) ← expectMark .semicolon rest
        let (more, rest) ← statements fuel rest
        return (s :: more, rest) := by
  have some : ¬ (us ++ rest).isEmpty = true := by
    cases us with
    | nil => cases begun
    | cons u us => exact Bool.false_ne_true
  have noGap : ¬ startsWith .semicolon (us ++ rest) = true := by
    rw [not_startsWith begun first rfl]
    exact Bool.false_ne_true
  apply (if_neg some).trans
  apply (if_neg noGap).trans
  exact bind_of_ok (reads rest ends) _

theorem readsScript_last : ReadsScript [s] us := by
  intro fuel enough
  cases fuel with
  | zero => cases enough
  | succ fuel =>
      have read : statements (fuel + 1) (us ++ []) = .ok ([s], []) :=
        statements_first reads begun first trivial
      rw [List.append_nil] at read
      exact read

theorem readsScript_more {ss : List Statement} {vs : List Located}
    (others : ReadsScript ss vs) (offset : Nat) :
    ReadsScript (s :: ss) (us ++ ⟨.mark .semicolon, offset⟩ :: vs) := by
  intro fuel enough
  rw [List.length_append, List.length_cons] at enough
  obtain ⟨fuel, rfl⟩ : ∃ n, fuel = n + 1 := ⟨fuel - 1, by omega⟩
  have ends : EndsStatement (⟨.mark .semicolon, offset⟩ :: vs) := ⟨_, rfl, rfl⟩
  apply (statements_first reads begun first ends).trans
  apply (bind_of_ok (expectMark_self _ _ _) _).trans
  exact bind_of_ok (others fuel (by omega)) _

end FirstStatement

/-! ## All rules together -/

theorem located_cons {us : List Located} {t : Token} {ts : List Token}
    (spelled : us.map Located.token = t :: ts) :
    ∃ offset vs, us = ⟨t, offset⟩ :: vs ∧ vs.map Located.token = ts := by
  obtain ⟨u, vs, rfl, rfl, rfl⟩ := List.map_eq_cons_iff.mp spelled
  exact ⟨u.offset, vs, rfl, rfl⟩

theorem located_append_cons {us : List Located} {t : Token} {ts ts' : List Token}
    (spelled : us.map Located.token = ts ++ t :: ts') :
    ∃ vs offset ws, us = vs ++ ⟨t, offset⟩ :: ws ∧
      vs.map Located.token = ts ∧ ws.map Located.token = ts' := by
  obtain ⟨vs, behind, rfl, front, rest⟩ := List.map_eq_append_iff.mp spelled
  obtain ⟨offset, ws, rfl, last⟩ := located_cons rest
  exact ⟨vs, offset, ws, rfl, front, last⟩

theorem located_append_singleton {us : List Located} {t : Token} {ts : List Token}
    (spelled : us.map Located.token = ts ++ [t]) :
    ∃ vs offset, us = vs ++ [⟨t, offset⟩] ∧ vs.map Located.token = ts := by
  obtain ⟨vs, offset, ws, rfl, front, last⟩ := located_append_cons spelled
  obtain rfl := List.map_eq_nil_iff.mp last
  exact ⟨vs, offset, rfl, front⟩

/-- The parsers read what the grammar spells. -/
def Completes : Phrase → List Located → Prop
  | .expr g e, us => Reads g e us
  | .items es, us => ReadsList es us ∧ (es ≠ [] → ReadsItems es us)
  | .statement s, us => ReadsStatement s us
  | .script ss, us => ReadsScript ss us

theorem completes_of_derives {phrase : Phrase} {ts : List Token}
    (derived : Derives phrase ts) :
    ∀ us, us.map Located.token = ts → Completes phrase us := by
  induction derived with
  | literal stands =>
      intro us spelled
      obtain ⟨u, rfl, rfl⟩ := List.map_eq_singleton_iff.mp spelled
      exact reads_literal stands u.offset
  | name plain =>
      intro us spelled
      obtain ⟨⟨t, offset⟩, rfl, same⟩ := List.map_eq_singleton_iff.mp spelled
      cases same
      exact reads_name plain offset
  | array _ inside =>
      intro us spelled
      obtain ⟨offset, vs, rfl, behind⟩ := located_cons spelled
      obtain ⟨vs, closeOffset, rfl, spelledInside⟩ := located_append_singleton behind
      exact reads_array (inside vs spelledInside).1 offset closeOffset
  | parens _ inside =>
      intro us spelled
      obtain ⟨offset, vs, rfl, behind⟩ := located_cons spelled
      obtain ⟨vs, closeOffset, rfl, spelledInside⟩ := located_append_singleton behind
      exact reads_parens (inside vs spelledInside) offset closeOffset
  | member _ object =>
      intro us spelled
      obtain ⟨us, offset, vs, rfl, front, behind⟩ := located_append_cons spelled
      obtain ⟨nameOffset, ws, rfl, last⟩ := located_cons behind
      obtain rfl := List.map_eq_nil_iff.mp last
      exact reads_member (object us front) _ offset nameOffset
  | index _ _ object position =>
      intro us spelled
      obtain ⟨us, closeOffset, rfl, front⟩ := located_append_singleton spelled
      obtain ⟨us, offset, vs, rfl, first, inside⟩ := located_append_cons front
      exact reads_index (object us first) (position vs inside) offset closeOffset
  | call _ _ callee args =>
      intro us spelled
      obtain ⟨us, closeOffset, rfl, front⟩ := located_append_singleton spelled
      obtain ⟨us, offset, vs, rfl, first, inside⟩ := located_append_cons front
      exact reads_call (callee us first) (args vs inside).1 offset closeOffset
  | sign signs _ operand =>
      intro us spelled
      obtain ⟨offset, vs, rfl, behind⟩ := located_cons spelled
      exact reads_sign signs (operand vs behind) offset
  | join joins next _ _ left right =>
      intro us spelled
      obtain ⟨us, offset, vs, rfl, front, behind⟩ := located_append_cons spelled
      exact reads_join joins next (left us front) (right vs behind) offset
  | branch _ _ _ test yes no =>
      intro us spelled
      obtain ⟨us, colonOffset, ws, rfl, front, third⟩ := located_append_cons spelled
      obtain ⟨us, offset, vs, rfl, first, second⟩ := located_append_cons front
      exact reads_branch (test us first) (yes vs second) (no ws third) offset colonOffset
  | loosen next tight reads =>
      intro us spelled
      obtain ⟨t, ts, rfl, -, begun⟩ := begins_of_derives tight
      exact reads_loosen next (reads us spelled) spelled begun
  | noItems =>
      intro us spelled
      obtain rfl := List.map_eq_nil_iff.mp spelled
      exact ⟨readsList_nil, fun some => absurd rfl some⟩
  | item single reads =>
      intro us spelled
      obtain ⟨t, ts, rfl, first, -⟩ := begins_of_derives single
      have read := readsItems_one (reads us spelled)
      exact ⟨readsList_of_items spelled first read, fun _ => read⟩
  | moreItems single _ reads others =>
      intro us spelled
      obtain ⟨t, ts, rfl, first, -⟩ := begins_of_derives single
      have begun := spelled
      obtain ⟨us, offset, vs, rfl, front, behind⟩ := located_append_cons spelled
      have read := readsItems_more (reads us front) ((others vs behind).2 (by simp)) offset
      exact ⟨readsList_of_items begun first read, fun _ => read⟩
  | evaluation derived reads =>
      intro us spelled
      obtain ⟨t, ts, rfl, -⟩ := begins_of_derives derived
      have assignless := assignless_of_derives derived
      rw [← spelled] at assignless
      exact readsStatement_expr (reads us spelled) spelled assignless
  | assignment assigns _ reads =>
      intro us spelled
      obtain ⟨nameOffset, vs, rfl, behind⟩ := located_cons spelled
      obtain ⟨offset, vs, rfl, value⟩ := located_cons behind
      exact readsStatement_assign assigns (reads vs value) nameOffset offset
  | noStatements =>
      intro us spelled
      obtain rfl := List.map_eq_nil_iff.mp spelled
      exact readsScript_nil
  | gap _ reads =>
      intro us spelled
      obtain ⟨offset, vs, rfl, behind⟩ := located_cons spelled
      exact readsScript_gap (reads vs behind) offset
  | lastStatement derived reads =>
      intro us spelled
      obtain ⟨t, ts, rfl, first⟩ := begins_of_derives derived
      exact readsScript_last (reads us spelled) spelled first
  | moreStatements derived _ reads others =>
      intro us spelled
      obtain ⟨t, ts, rfl, first⟩ := begins_of_derives derived
      obtain ⟨us, offset, vs, rfl, front, behind⟩ := located_append_cons spelled
      exact readsScript_more (reads us front) front first (others vs behind) offset

/-! ## Whole inputs -/

theorem parseAll_eq_ok_iff {α : Type} {input : String} {parser : Parser α}
    {ts : List Located} {a : α} :
    parseAll input parser ts = .ok a ↔ parser ts = .ok (a, []) := by
  constructor
  · intro parsed
    unfold parseAll at parsed
    cases read : parser ts with
    | error failure =>
        rw [read] at parsed
        cases parsed
    | ok result =>
        obtain ⟨b, rest⟩ := result
        rw [read] at parsed
        cases rest with
        | nil =>
            cases parsed
            rfl
        | cons t rest => cases parsed
  · intro read
    unfold parseAll
    rw [read]
    rfl

/-- An expression is read exactly from the tokens that spell it. -/
theorem parseAll_anyExpression_iff {input : String} {ts : List Located} {e : Expr} :
    parseAll input anyExpression ts = .ok e ↔
      Derives (.expr .conditional e) (ts.map Located.token) := by
  rw [parseAll_eq_ok_iff]
  constructor
  · intro read
    obtain ⟨us, rfl, spelled⟩ := anyExpression_sound _ _ _ read
    rw [List.append_nil]
    exact spelled
  · intro derived
    have reads : Reads .conditional e ts := completes_of_derives derived ts rfl
    have read : anyExpression (ts ++ []) = .ok (e, []) := reads.any trivial
    rw [List.append_nil] at read
    exact read

/-- A script is read exactly from the tokens that spell it. -/
theorem parseAll_statements_iff {input : String} {ts : List Located}
    {ss : List Statement} :
    parseAll input (statements (ts.length + 1)) ts = .ok ss ↔
      Derives (.script ss) (ts.map Located.token) := by
  rw [parseAll_eq_ok_iff]
  constructor
  · intro read
    exact (statements_sound (Nat.lt_succ_self _) read).2
  · intro derived
    have reads : ReadsScript ss ts := completes_of_derives derived ts rfl
    exact reads _ (Nat.lt_succ_self _)

end LivePages.Expr
