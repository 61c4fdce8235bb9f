import LivePages.Proofs.Expr.Completeness
import LivePages.Proofs.Expr.Lexeme

/-!
# Trees as sources

A tree is printed with parentheses around an operand exactly where the operand
is of a looser grade than its place.  What is printed spells the tree again, and
nothing that spells the tree is shorter.
-/

namespace LivePages

open Grammar (Derives Phrase Grade Signs Joins Assigns Stands valueNames)

/-! ## The printer -/

def UnaryOp.mark : UnaryOp → Mark
  | not => .not
  | neg => .minus
  | plus => .plus

def BinaryOp.mark : BinaryOp → Mark
  | add => .plus
  | sub => .minus
  | mul => .star
  | div => .slash
  | rem => .percent
  | lt => .lt
  | gt => .gt
  | le => .le
  | ge => .ge
  | looseEq => .looseEq
  | looseNe => .looseNe
  | strictEq => .strictEq
  | strictNe => .strictNe

def LogicalOp.mark : LogicalOp → Mark
  | and => .and
  | or => .or

def AssignOp.mark : AssignOp → Mark
  | set => .assign
  | add => .plusAssign
  | sub => .minusAssign

def BinaryOp.grade : BinaryOp → Grade
  | add | sub => .sum
  | mul | div | rem => .product
  | lt | gt | le | ge => .comparison
  | looseEq | looseNe | strictEq | strictNe => .equality

def LogicalOp.grade : LogicalOp → Grade
  | and => .conjunction
  | or => .disjunction

/-- The tightest grade of an expression that is spelled without parentheses. -/
def Expr.grade : Expr → Grade
  | literal _ | name _ | array _ => .primary
  | member _ _ | index _ _ | call _ _ => .postfixed
  | unary _ _ => .prefixed
  | binary op _ _ => op.grade
  | logical op _ _ => op.grade
  | conditional _ _ _ => .conditional

/-- The digits stand for the number. -/
def IsNumeral (n : Number) (digits : List Char) : Prop :=
  (Lexeme.numeral digits).Legible ∧ Stands (Lexeme.numeral digits).token (.num n)

/-- A way to write numbers: whatever number some digits stand for is written with
digits that stand for it. -/
structure Numerals where
  write : Number → List Char
  isNumeral : ∀ n digits, IsNumeral n digits → IsNumeral n (write n)

open Classical in
noncomputable instance : Inhabited Numerals where
  default :=
    { write := fun n => if h : ∃ digits, IsNumeral n digits then h.choose else []
      isNumeral := by
        intro n digits numeral
        have some : ∃ digits, IsNumeral n digits := ⟨digits, numeral⟩
        rw [dif_pos some]
        exact some.choose_spec }

namespace Numerals

variable (numerals : Numerals)

def literal : Value → Lexeme
  | .null => .name "null"
  | .bool true => .name "true"
  | .bool false => .name "false"
  | .num n => .numeral (numerals.write n)
  | .str s => .text s
  | .arr _ | .obj _ => .text ""

/-- The lexemes of an expression at a place for expressions of the grade `g`, if
`ls` are its own. -/
def place (g : Grade) (e : Expr) (ls : List Lexeme) : List Lexeme :=
  if e.grade.rank ≤ g.rank then ls
  else .mark .openParen :: ls ++ [.mark .closeParen]

mutual

/-- The lexemes of an expression without parentheses around all of it. -/
def print : Expr → List Lexeme
  | .literal v => [numerals.literal v]
  | .name n => [.name n]
  | .array es => .mark .openBracket :: printItems es ++ [.mark .closeBracket]
  | .member e property =>
    place .postfixed e (print e) ++ [.mark .dot, .name property]
  | .index e i =>
    place .postfixed e (print e) ++ .mark .openBracket :: print i ++
      [.mark .closeBracket]
  | .call e es =>
    place .postfixed e (print e) ++ .mark .openParen :: printItems es ++
      [.mark .closeParen]
  | .unary op e => .mark op.mark :: place .prefixed e (print e)
  | .binary op l r =>
    place op.grade l (print l) ++ .mark op.mark ::
      place (op.grade.tighter?.getD .primary) r (print r)
  | .logical op l r =>
    place op.grade l (print l) ++ .mark op.mark ::
      place (op.grade.tighter?.getD .primary) r (print r)
  | .conditional test yes no =>
    place .disjunction test (print test) ++ .mark .question :: print yes ++
      .mark .colon :: print no

def printItems : List Expr → List Lexeme
  | [] => []
  | [e] => print e
  | e :: f :: es => print e ++ .mark .comma :: printItems (f :: es)

end

def printStatement : Statement → List Lexeme
  | .expr e => numerals.print e
  | .assign target op e => .name target :: .mark op.mark :: numerals.print e

def printScript : List Statement → List Lexeme
  | [] => []
  | [s] => numerals.printStatement s
  | s :: t :: ss => numerals.printStatement s ++ .mark .semicolon :: printScript (t :: ss)

/-! ## What is printed spells the tree -/

/-- Tokens that can be written. -/
def Lexed (ts : List Token) : Prop :=
  ∀ t ∈ ts, ∃ l : Lexeme, l.token = t ∧ l.Legible

theorem lexed_append {ts us : List Token} : Lexed (ts ++ us) ↔ Lexed ts ∧ Lexed us :=
  List.forall_mem_append

theorem lexed_cons {t : Token} {ts : List Token} :
    Lexed (t :: ts) ↔ (∃ l : Lexeme, l.token = t ∧ l.Legible) ∧ Lexed ts :=
  List.forall_mem_cons

/-- A name that is a token somewhere can be written. -/
theorem legible_name_of_lexed {n : String} {ts : List Token}
    (lexed : Lexed (.name n :: ts)) : (Lexeme.name n).Legible := by
  obtain ⟨l, isName, legible⟩ := (lexed_cons.mp lexed).1
  cases l with
  | name m =>
      cases isName
      exact legible
  | _ => cases isName

def AllLegible (ls : List Lexeme) : Prop := ∀ l ∈ ls, l.Legible

theorem allLegible_cons {l : Lexeme} {ls : List Lexeme} :
    AllLegible (l :: ls) ↔ l.Legible ∧ AllLegible ls :=
  List.forall_mem_cons

theorem allLegible_append {ls ms : List Lexeme} :
    AllLegible (ls ++ ms) ↔ AllLegible ls ∧ AllLegible ms :=
  List.forall_mem_append

theorem AllLegible.behind {ls ms : List Lexeme} (front : AllLegible ls) (m : Mark)
    (rest : AllLegible ms) : AllLegible (ls ++ .mark m :: ms) :=
  allLegible_append.mpr ⟨front, allLegible_cons.mpr ⟨Lexeme.legible_mark m, rest⟩⟩

theorem AllLegible.closed {ls : List Lexeme} (front : AllLegible ls) (m : Mark) :
    AllLegible (ls ++ [.mark m]) :=
  front.behind m (List.forall_mem_nil _)

theorem AllLegible.opened {ls : List Lexeme} (rest : AllLegible ls) (m : Mark) :
    AllLegible (.mark m :: ls) :=
  allLegible_cons.mpr ⟨Lexeme.legible_mark m, rest⟩

/-- The lexemes can be written and spell the phrase. -/
structure Spell (phrase : Phrase) (ls : List Lexeme) : Prop where
  derives : Derives phrase (ls.map Lexeme.token)
  legible : AllLegible ls

theorem Spell.place {e : Expr} {ls : List Lexeme} (spelled : Spell (.expr e.grade e) ls)
    (g : Grade) : Spell (.expr g e) (place g e ls) := by
  unfold Numerals.place
  by_cases fits : e.grade.rank ≤ g.rank
  · rw [if_pos fits]
    exact ⟨spelled.derives.loosenTo fits, spelled.legible⟩
  · rw [if_neg fits]
    have inside : Derives (.expr .conditional e) (ls.map Lexeme.token) :=
      spelled.derives.loosenTo e.grade.rank_le
    refine ⟨?_, (spelled.legible.opened _).closed _⟩
    rw [List.map_append, List.map_cons]
    exact inside.parens.loosenTo (Nat.zero_le _)

theorem Spell.loosest {e : Expr} {ls : List Lexeme}
    (spelled : Spell (.expr e.grade e) ls) : Spell (.expr .conditional e) ls :=
  ⟨spelled.derives.loosenTo e.grade.rank_le, spelled.legible⟩

theorem ofFloat_cases (f : Float) :
    Value.ofFloat f = .null ∨ ∃ n, Value.ofFloat f = .num n := by
  unfold Value.ofFloat
  split
  · exact .inl rfl
  · dsimp only
    split
    · exact .inr ⟨_, rfl⟩
    · exact .inr ⟨_, rfl⟩

theorem legible_null : (Lexeme.name "null").Legible :=
  ⟨'n', ['u', 'l', 'l'], rfl, by decide, fun _ => rfl⟩

theorem print_literal {t : Token} {v : Value} (stands : Stands t v) (lexed : Lexed [t]) :
    Spell (.expr .primary (.literal v)) [numerals.literal v] := by
  have single : ∀ l : Lexeme, l.Legible → AllLegible [l] := fun l legible =>
    allLegible_cons.mpr ⟨legible, List.forall_mem_nil _⟩
  cases stands with
  | number f =>
      rcases ofFloat_cases f with isNull | ⟨n, isNumber⟩
      · rw [isNull]
        exact ⟨.literal .isNull, single _ legible_null⟩
      · have numeral : ∃ digits, IsNumeral n digits := by
          obtain ⟨l, isToken, legible⟩ := lexed _ List.mem_cons_self
          cases l with
          | numeral digits =>
              refine ⟨digits, legible, ?_⟩
              rw [isToken, ← isNumber]
              exact .number f
          | _ => cases isToken
        obtain ⟨digits, isNumeral⟩ := numeral
        have written := numerals.isNumeral n digits isNumeral
        rw [isNumber]
        exact ⟨.literal written.2, single _ written.1⟩
  | text s => exact ⟨.literal (.text s), single _ (Lexeme.legible_text s)⟩
  | isTrue => exact ⟨.literal .isTrue, single _ (legible_name_of_lexed lexed)⟩
  | isFalse => exact ⟨.literal .isFalse, single _ (legible_name_of_lexed lexed)⟩
  | isNull => exact ⟨.literal .isNull, single _ legible_null⟩
  | isUndefined => exact ⟨.literal .isNull, single _ legible_null⟩

theorem print_join {g h : Grade} {m : Mark} {combine : Expr → Expr → Expr}
    (joins : Joins g m combine) (next : g.tighter? = some h) (l r : Expr) :
    (combine l r).grade = g ∧
      numerals.print (combine l r) =
        place g l (numerals.print l) ++ .mark m :: place h r (numerals.print r) := by
  cases joins <;> cases next <;> exact ⟨rfl, by rw [print]; rfl⟩

theorem mark_of_signs {m : Mark} {op : UnaryOp} (signs : Signs m op) : op.mark = m := by
  cases signs <;> rfl

theorem mark_of_assigns {m : Mark} {op : AssignOp} (assigns : Assigns m op) :
    op.mark = m := by
  cases assigns <;> rfl

theorem Spell.more {numerals : Numerals} {s : Statement} {ss : List Statement}
    (first : Spell (.statement s) (numerals.printStatement s))
    (others : Spell (.script ss) (numerals.printScript ss)) :
    Spell (.script (s :: ss)) (numerals.printScript (s :: ss)) := by
  cases ss with
  | nil => exact ⟨.lastStatement first.derives, first.legible⟩
  | cons t ss =>
      rw [printScript]
      refine ⟨?_, first.legible.behind _ others.legible⟩
      rw [List.map_append, List.map_cons]
      exact .moreStatements first.derives others.derives

/-- A phrase is spelled by what is printed for it. -/
def Printed : Phrase → Prop
  | .expr _ e => Spell (.expr e.grade e) (numerals.print e)
  | .items es => Spell (.items es) (numerals.printItems es)
  | .statement s => Spell (.statement s) (numerals.printStatement s)
  | .script ss => Spell (.script ss) (numerals.printScript ss)

theorem printed {phrase : Phrase} {ts : List Token} (derived : Derives phrase ts)
    (lexed : Lexed ts) : numerals.Printed phrase := by
  induction derived with
  | literal stands =>
      rw [Printed, print]
      exact numerals.print_literal stands lexed
  | name plain =>
      rw [Printed, print]
      have legible := legible_name_of_lexed lexed
      exact ⟨.name plain, allLegible_cons.mpr ⟨legible, List.forall_mem_nil _⟩⟩
  | array _ inside =>
      obtain ⟨derives, legible⟩ := inside (lexed_append.mp (lexed_cons.mp lexed).2).1
      rw [Printed, print]
      refine ⟨?_, (legible.opened _).closed _⟩
      rw [List.map_append, List.map_cons]
      exact .array derives
  -- Parentheses leave no trace in the tree; where it stands decides about them anew.
  | parens _ inside => exact inside (lexed_append.mp (lexed_cons.mp lexed).2).1
  | member _ object =>
      obtain ⟨front, behind⟩ := lexed_append.mp lexed
      obtain ⟨derives, legible⟩ := (object front).place .postfixed
      have named := legible_name_of_lexed (lexed_cons.mp behind).2
      rw [Printed, print]
      refine ⟨?_, legible.behind _ (allLegible_cons.mpr ⟨named, List.forall_mem_nil _⟩)⟩
      rw [List.map_append]
      exact .member derives
  | index _ _ object position =>
      obtain ⟨front, -⟩ := lexed_append.mp lexed
      obtain ⟨first, second⟩ := lexed_append.mp front
      obtain ⟨derives, legible⟩ := (object first).place .postfixed
      obtain ⟨derivesInside, legibleInside⟩ :=
        (position (lexed_cons.mp second).2).loosest
      rw [Printed, print]
      refine ⟨?_, (legible.behind _ legibleInside).closed _⟩
      rw [List.map_append, List.map_append, List.map_cons]
      exact .index derives derivesInside
  | call _ _ callee args =>
      obtain ⟨front, -⟩ := lexed_append.mp lexed
      obtain ⟨first, second⟩ := lexed_append.mp front
      obtain ⟨derives, legible⟩ := (callee first).place .postfixed
      obtain ⟨derivesInside, legibleInside⟩ := args (lexed_cons.mp second).2
      rw [Printed, print]
      refine ⟨?_, (legible.behind _ legibleInside).closed _⟩
      rw [List.map_append, List.map_append, List.map_cons]
      exact .call derives derivesInside
  | sign signs _ operand =>
      obtain ⟨derives, legible⟩ := (operand (lexed_cons.mp lexed).2).place .prefixed
      rw [Printed, print, mark_of_signs signs]
      exact ⟨.sign signs derives, legible.opened _⟩
  | @join g h m combine l r ts us joins next _ _ left right =>
      obtain ⟨first, second⟩ := lexed_append.mp lexed
      have spelledLeft := (left first).place g
      have spelledRight := (right (lexed_cons.mp second).2).place h
      obtain ⟨grade, printed⟩ := numerals.print_join joins next l r
      rw [Printed, grade, printed]
      refine ⟨?_, spelledLeft.legible.behind _ spelledRight.legible⟩
      rw [List.map_append, List.map_cons]
      exact .join joins next spelledLeft.derives spelledRight.derives
  | branch _ _ _ test yes no =>
      obtain ⟨front, third⟩ := lexed_append.mp lexed
      obtain ⟨first, second⟩ := lexed_append.mp front
      have spelledTest := (test first).place .disjunction
      have spelledYes := (yes (lexed_cons.mp second).2).loosest
      have spelledNo := (no (lexed_cons.mp third).2).loosest
      rw [Printed, print]
      refine ⟨?_, (spelledTest.legible.behind _ spelledYes.legible).behind _
        spelledNo.legible⟩
      rw [List.map_append, List.map_append, List.map_cons, List.map_cons]
      exact .branch spelledTest.derives spelledYes.derives spelledNo.derives
  | loosen _ _ tight => exact tight lexed
  | noItems =>
      rw [Printed, printItems]
      exact ⟨.noItems, List.forall_mem_nil _⟩
  | item _ single =>
      obtain ⟨derives, legible⟩ := (single lexed).loosest
      rw [Printed, printItems]
      exact ⟨.item derives, legible⟩
  | moreItems _ _ first others =>
      obtain ⟨front, behind⟩ := lexed_append.mp lexed
      obtain ⟨derives, legible⟩ := (first front).loosest
      obtain ⟨derivesOthers, legibleOthers⟩ := others (lexed_cons.mp behind).2
      rw [Printed, printItems]
      refine ⟨?_, legible.behind _ legibleOthers⟩
      rw [List.map_append, List.map_cons]
      exact .moreItems derives derivesOthers
  | evaluation _ value =>
      obtain ⟨derives, legible⟩ := (value lexed).loosest
      exact ⟨.evaluation derives, legible⟩
  | assignment assigns _ value =>
      have named := legible_name_of_lexed lexed
      obtain ⟨derives, legible⟩ :=
        (value (lexed_cons.mp (lexed_cons.mp lexed).2).2).loosest
      rw [Printed, printStatement, mark_of_assigns assigns]
      exact ⟨.assignment assigns derives, allLegible_cons.mpr ⟨named, legible.opened _⟩⟩
  | noStatements => exact ⟨.noStatements, List.forall_mem_nil _⟩
  | gap _ script => exact script (lexed_cons.mp lexed).2
  | lastStatement _ statement =>
      obtain ⟨derives, legible⟩ := statement lexed
      exact ⟨.lastStatement derives, legible⟩
  | moreStatements _ _ statement script =>
      obtain ⟨front, behind⟩ := lexed_append.mp lexed
      exact (statement front).more (script (lexed_cons.mp behind).2)

/-! ## Nothing shorter spells the tree -/

theorem place_of_le {g : Grade} {e : Expr} (fits : e.grade.rank ≤ g.rank)
    (ls : List Lexeme) : place g e ls = ls :=
  if_pos fits

theorem place_conditional (e : Expr) (ls : List Lexeme) :
    place .conditional e ls = ls :=
  place_of_le e.grade.rank_le ls

theorem length_place_le (g : Grade) (e : Expr) (ls : List Lexeme) :
    (place g e ls).length ≤ ls.length + 2 := by
  unfold place
  split
  · omega
  · simp

/-- A looser place takes no more parentheses. -/
theorem length_place_mono {g h : Grade} (looser : h.rank ≤ g.rank) (e : Expr)
    (ls : List Lexeme) : (place g e ls).length ≤ (place h e ls).length := by
  by_cases fits : e.grade.rank ≤ h.rank
  · rw [place_of_le fits, place_of_le (Nat.le_trans fits looser)]
  · have outer := length_place_le g e ls
    have around : (place h e ls).length = ls.length + 2 := by
      rw [place, if_neg fits]
      simp
    omega

/-- What is printed for a phrase. -/
def printPhrase : Phrase → List Lexeme
  | .expr g e => place g e (numerals.print e)
  | .items es => numerals.printItems es
  | .statement s => numerals.printStatement s
  | .script ss => numerals.printScript ss

theorem shortest {phrase : Phrase} {ts : List Token} (derived : Derives phrase ts) :
    (numerals.printPhrase phrase).length ≤ ts.length := by
  induction derived with
  | @literal t v stands =>
      show (numerals.print (.literal v)).length ≤ 1
      rw [print]
      exact Nat.le_refl 1
  | @name n plain =>
      show (numerals.print (.name n)).length ≤ 1
      rw [print]
      exact Nat.le_refl 1
  | @array es ts _ inside =>
      show (numerals.print (.array es)).length ≤ _
      simp only [printPhrase] at inside
      simp only [print, List.length_append, List.length_cons]
      omega
  | @parens e ts _ inside =>
      simp only [printPhrase, place_conditional] at inside
      have around := length_place_le .primary e (numerals.print e)
      simp only [printPhrase, List.length_append, List.length_cons]
      omega
  | @member e ts property _ object =>
      show (numerals.print (.member e property)).length ≤ _
      simp only [printPhrase] at object
      simp only [print, List.length_append, List.length_cons]
      omega
  | @index e i ts us _ _ object position =>
      show (numerals.print (.index e i)).length ≤ _
      simp only [printPhrase, place_conditional] at object position
      simp only [print, List.length_append, List.length_cons]
      omega
  | @call e es ts us _ _ callee args =>
      show (numerals.print (.call e es)).length ≤ _
      simp only [printPhrase] at callee args
      simp only [print, List.length_append, List.length_cons]
      omega
  | @sign m op e ts _ _ operand =>
      show (numerals.print (.unary op e)).length ≤ _
      simp only [printPhrase] at operand
      simp only [print, List.length_cons]
      omega
  | @join g h m combine l r ts us joins next _ _ left right =>
      obtain ⟨grade, printed⟩ := numerals.print_join joins next l r
      have fits : (combine l r).grade.rank ≤ g.rank :=
        Nat.le_of_eq (congrArg Grade.rank grade)
      simp only [printPhrase] at left right
      simp only [printPhrase, place_of_le fits, printed, List.length_append,
        List.length_cons]
      omega
  | branch _ _ _ test yes no =>
      simp only [printPhrase, place_conditional] at test yes no
      simp only [printPhrase, place_conditional, print, List.length_append,
        List.length_cons]
      omega
  | @loosen g h e ts next _ tight =>
      have ranks := Grade.rank_of_tighter? next
      have looser : h.rank ≤ g.rank := by omega
      exact Nat.le_trans (length_place_mono looser e _) tight
  | noItems => exact Nat.le_refl _
  | item _ single =>
      simp only [printPhrase, place_conditional] at single
      simp only [printPhrase, printItems]
      exact single
  | moreItems _ _ first others =>
      simp only [printPhrase, place_conditional] at first others
      simp only [printPhrase, printItems, List.length_append, List.length_cons]
      omega
  | evaluation _ value =>
      simp only [printPhrase, place_conditional] at value
      exact value
  | assignment _ _ value =>
      simp only [printPhrase, place_conditional] at value
      simp only [printPhrase, printStatement, List.length_cons]
      omega
  | noStatements => exact Nat.le_refl _
  | gap _ script => exact Nat.le_succ_of_le script
  | lastStatement _ statement => exact statement
  | @moreStatements s ss ts us _ _ statement script =>
      simp only [printPhrase] at statement script
      cases ss with
      | nil =>
          simp only [printPhrase, printScript, List.length_append]
          omega
      | cons t ss =>
          simp only [printPhrase, printScript, List.length_append, List.length_cons]
          omega

end Numerals

end LivePages
