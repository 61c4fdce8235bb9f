import LivePages.Proofs.Expr.Parsing
import LivePages.Proofs.Expr.Tiling

/-!
# Loop headers in parentheses

Parentheses stand in pairs in whatever the grammar spells.  So those around a loop header
are told from others by counting, and a header is read in parentheses as it is without
them.
-/

namespace LivePages

namespace Grammar

/-! ## Pairs of parentheses -/

/-- Whether a token is that mark. -/
def isMark (m : Mark) : Token → Bool
  | .mark n => n = m
  | _ => false

def opened (ts : List Token) : Nat := ts.countP (isMark .openParen)

def closed (ts : List Token) : Nat := ts.countP (isMark .closeParen)

/-- Each parenthesis that closes something closes one that is open, and none stays open.
This is so between two parentheses that match each other. -/
structure Paired (ts : List Token) : Prop where
  even : opened ts = closed ts
  covered : ∀ us, us <+: ts → closed us ≤ opened us

/-- Whether a token is no parenthesis. -/
def IsNeutral (t : Token) : Prop := isMark .openParen t = false ∧ isMark .closeParen t = false

section Paired

variable {t : Token} {ts us : List Token}

theorem opened_append (ts us : List Token) : opened (ts ++ us) = opened ts + opened us :=
  List.countP_append

theorem closed_append (ts us : List Token) : closed (ts ++ us) = closed ts + closed us :=
  List.countP_append

@[simp]
theorem opened_cons_open (ts : List Token) : opened (.mark .openParen :: ts) = opened ts + 1 := by
  simp [opened, isMark]

@[simp]
theorem closed_cons_open (ts : List Token) : closed (.mark .openParen :: ts) = closed ts := by
  simp [closed, isMark]

@[simp]
theorem opened_cons_close (ts : List Token) : opened (.mark .closeParen :: ts) = opened ts := by
  simp [opened, isMark]

@[simp]
theorem closed_cons_close (ts : List Token) : closed (.mark .closeParen :: ts) = closed ts + 1 := by
  simp [closed, isMark]

theorem IsNeutral.opened_cons (neutral : IsNeutral t) (ts : List Token) :
    opened (t :: ts) = opened ts := by
  simp [opened, neutral.1]

theorem IsNeutral.closed_cons (neutral : IsNeutral t) (ts : List Token) :
    closed (t :: ts) = closed ts := by
  simp [closed, neutral.2]

theorem Paired.nil : Paired [] := by
  refine ⟨rfl, fun us isFront => ?_⟩
  rw [List.prefix_nil.1 isFront]
  exact Nat.le_refl _

theorem Paired.append (first : Paired ts) (second : Paired us) : Paired (ts ++ us) := by
  refine ⟨?_, fun vs isFront => ?_⟩
  · rw [opened_append, closed_append, first.even, second.even]
  · rcases List.prefix_or_prefix_of_prefix isFront (List.prefix_append ts us) with
      before | ⟨ws, rfl⟩
    · exact first.covered vs before
    · have later := second.covered ws ((List.prefix_append_right_inj ts).1 isFront)
      have even := first.even
      rw [opened_append, closed_append]
      omega

theorem Paired.cons (neutral : IsNeutral t) (later : Paired ts) : Paired (t :: ts) := by
  refine ⟨?_, fun us isFront => ?_⟩
  · rw [neutral.opened_cons, neutral.closed_cons, later.even]
  · rcases us with - | ⟨u, us⟩
    · exact Nat.le_refl _
    · obtain ⟨rfl, within⟩ := List.cons_prefix_cons.1 isFront
      rw [neutral.opened_cons, neutral.closed_cons]
      exact later.covered us within

theorem Paired.single (neutral : IsNeutral t) : Paired [t] := .cons neutral .nil

theorem Paired.parens (inside : Paired ts) :
    Paired (.mark .openParen :: ts ++ [.mark .closeParen]) := by
  have even := inside.even
  have ends : opened [.mark .closeParen] = 0 ∧ closed [.mark .closeParen] = 1 := ⟨rfl, rfl⟩
  refine ⟨?_, fun us isFront => ?_⟩
  · rw [List.cons_append, opened_cons_open, closed_cons_open, opened_append, closed_append]
    omega
  · rcases us with - | ⟨u, us⟩
    · exact Nat.le_refl _
    · rw [List.cons_append] at isFront
      obtain ⟨rfl, behind⟩ := List.cons_prefix_cons.1 isFront
      rw [opened_cons_open, closed_cons_open]
      rcases List.prefix_concat_iff.1 behind with rfl | within
      · rw [opened_append, closed_append]
        omega
      · have covered := inside.covered us within
        omega

end Paired

/-- Parentheses stand in pairs in whatever the grammar spells. -/
theorem paired_of_derives {phrase : Phrase} {ts : List Token} (derived : Derives phrase ts) :
    Paired ts := by
  induction derived with
  | literal stands => cases stands <;> exact .single ⟨rfl, rfl⟩
  | name _ => exact .single ⟨rfl, rfl⟩
  | array _ inside => exact (inside.cons ⟨rfl, rfl⟩).append (.single ⟨rfl, rfl⟩)
  | parens _ inside => exact inside.parens
  | member _ object => exact object.append (.cons ⟨rfl, rfl⟩ (.single ⟨rfl, rfl⟩))
  | index _ _ object position =>
      exact (object.append (position.cons ⟨rfl, rfl⟩)).append (.single ⟨rfl, rfl⟩)
  | call _ _ callee args =>
      rw [List.append_assoc]
      exact callee.append args.parens
  | sign signs _ operand =>
      refine operand.cons ?_
      cases signs <;> exact ⟨rfl, rfl⟩
  | join joins _ _ _ left right =>
      refine left.append (right.cons ?_)
      cases joins <;> exact ⟨rfl, rfl⟩
  | branch _ _ _ test yes no =>
      exact (test.append (yes.cons ⟨rfl, rfl⟩)).append (no.cons ⟨rfl, rfl⟩)
  | loosen _ _ tight => exact tight
  | noItems => exact .nil
  | item _ single => exact single
  | moreItems _ _ first others => exact first.append (others.cons ⟨rfl, rfl⟩)
  | evaluation _ value => exact value
  | assignment assigns _ value =>
      refine (value.cons ?_).cons ⟨rfl, rfl⟩
      cases assigns <;> exact ⟨rfl, rfl⟩
  | noStatements => exact .nil
  | gap _ script => exact script.cons ⟨rfl, rfl⟩
  | lastStatement _ statement => exact statement
  | moreStatements _ _ statement script => exact statement.append (script.cons ⟨rfl, rfl⟩)

/-! ## Headers -/

/-- The words that may introduce the variable of a loop. -/
def keywords : List String := ["const", "let", "var"]

/-- The word between the variable and the iterable. -/
def loopWord : LoopKind → String
  | .items => "of"
  | .keys => "in"

/-- The token sequences of loop headers. -/
inductive Heads : LoopHeader → List Token → Prop where
  | plain {binding : String} (kind : LoopKind) {e : Expr} {ts : List Token}
    (noKeyword : binding ∉ keywords) (spelled : Derives (.expr .conditional e) ts) :
    Heads ⟨binding, kind, e⟩ (.name binding :: .name (loopWord kind) :: ts)
  | introduced {keyword : String} (binding : String) (kind : LoopKind) {e : Expr}
    {ts : List Token} (isKeyword : keyword ∈ keywords)
    (spelled : Derives (.expr .conditional e) ts) :
    Heads ⟨binding, kind, e⟩
      (.name keyword :: .name binding :: .name (loopWord kind) :: ts)

theorem paired_of_heads {header : LoopHeader} {ts : List Token} (heads : Heads header ts) :
    Paired ts := by
  cases heads with
  | plain _ _ spelled =>
      exact ((paired_of_derives spelled).cons ⟨rfl, rfl⟩).cons ⟨rfl, rfl⟩
  | introduced _ _ _ spelled =>
      exact (((paired_of_derives spelled).cons ⟨rfl, rfl⟩).cons ⟨rfl, rfl⟩).cons ⟨rfl, rfl⟩

end Grammar

namespace Expr

open Grammar (Derives Heads Paired closed opened isMark keywords loopWord)

theorem dropKeyword_of_keyword {keyword : String} (isKeyword : keyword ∈ keywords)
    (offset : Nat) (ts : List Located) : dropKeyword (⟨.name keyword, offset⟩ :: ts) = ts := by
  simp only [keywords, List.mem_cons, List.not_mem_nil, or_false] at isKeyword
  rcases isKeyword with rfl | rfl | rfl
  · rfl
  · rfl
  · rfl

/-- A keyword is dropped, and nothing else. -/
theorem dropKeyword_cases (ts : List Located) :
    (∃ keyword ∈ keywords, ∃ offset, ts = ⟨.name keyword, offset⟩ :: dropKeyword ts) ∨
      dropKeyword ts = ts ∧ ∀ name ∈ keywords, ∀ offset us, ts ≠ ⟨.name name, offset⟩ :: us := by
  unfold dropKeyword
  split
  · exact .inl ⟨"const", by decide, _, rfl⟩
  · exact .inl ⟨"let", by decide, _, rfl⟩
  · exact .inl ⟨"var", by decide, _, rfl⟩
  · rename_i noConst noLet noVar
    refine .inr ⟨rfl, fun name isKeyword offset us shape => ?_⟩
    simp only [keywords, List.mem_cons, List.not_mem_nil, or_false] at isKeyword
    rcases isKeyword with rfl | rfl | rfl
    · exact noConst _ _ shape
    · exact noLet _ _ shape
    · exact noVar _ _ shape

theorem dropKeyword_of_other {name : String} (noKeyword : name ∉ keywords) (offset : Nat)
    (ts : List Located) :
    dropKeyword (⟨.name name, offset⟩ :: ts) = ⟨.name name, offset⟩ :: ts := by
  rcases dropKeyword_cases (⟨.name name, offset⟩ :: ts) with
    ⟨keyword, isKeyword, o, shape⟩ | ⟨same, -⟩
  · cases (List.cons.inj shape).1
    exact absurd isKeyword noKeyword
  · exact same

/-- Behind its keyword a header is a name, a word and an expression. -/
theorem exists_of_loopHeader {header : LoopHeader} {ts rest : List Located}
    (read : loopHeader ts = .ok (header, rest)) :
    ∃ o p us, dropKeyword ts =
        ⟨.name header.binding, o⟩ :: ⟨.name (loopWord header.kind), p⟩ :: us ∧
      anyExpression us = .ok (header.iterable, rest) := by
  unfold loopHeader at read
  split at read
  · rename_i binding o behind dropped
    rw [dropped]
    dsimp only at read
    split at read
    · obtain ⟨⟨e, after⟩, readExpr, done⟩ := exists_of_bind_ok read
      cases done
      exact ⟨_, _, _, rfl, readExpr⟩
    · obtain ⟨⟨e, after⟩, readExpr, done⟩ := exists_of_bind_ok read
      cases done
      exact ⟨_, _, _, rfl, readExpr⟩
    · cases read
  · cases read

theorem loopHeader_of_dropKeyword {binding : String} {kind : LoopKind} {o p : Nat}
    {ts us rest : List Located} {e : Expr}
    (dropped : dropKeyword ts = ⟨.name binding, o⟩ :: ⟨.name (loopWord kind), p⟩ :: us)
    (read : anyExpression us = .ok (e, rest)) :
    loopHeader ts = .ok (⟨binding, kind, e⟩, rest) := by
  unfold loopHeader
  rw [dropped]
  cases kind with
  | items => exact bind_of_ok read _
  | keys => exact bind_of_ok read _

theorem anyExpression_eq_ok_iff {us : List Located} {e : Expr} :
    anyExpression us = .ok (e, []) ↔ Derives (.expr .conditional e) (us.map Located.token) := by
  have whole : parseAll "" anyExpression us = .ok e ↔ anyExpression us = .ok (e, []) :=
    parseAll_eq_ok_iff
  rw [← whole, parseAll_anyExpression_iff]

/-- A loop header is read exactly from the tokens that spell it. -/
theorem parseAll_loopHeader_iff {input : String} {ts : List Located} {header : LoopHeader} :
    parseAll input loopHeader ts = .ok header ↔ Heads header (ts.map Located.token) := by
  rw [parseAll_eq_ok_iff]
  constructor
  · intro read
    obtain ⟨o, p, us, dropped, readExpr⟩ := exists_of_loopHeader read
    have spelled := anyExpression_eq_ok_iff.1 readExpr
    rcases dropKeyword_cases ts with ⟨keyword, isKeyword, offset, shape⟩ | ⟨same, noKeyword⟩
    · rw [shape, dropped]
      exact .introduced _ _ isKeyword spelled
    · rw [same] at dropped
      rw [dropped]
      refine .plain _ (fun isKeyword => ?_) spelled
      exact noKeyword _ isKeyword _ _ dropped
  · generalize spelling : ts.map Located.token = tokens
    intro heads
    cases heads with
    | plain kind noKeyword spelled =>
        obtain ⟨o, vs, rfl, behind⟩ := located_cons spelling
        obtain ⟨p, us, rfl, rfl⟩ := located_cons behind
        have dropped := dropKeyword_of_other noKeyword o (⟨.name (loopWord kind), p⟩ :: us)
        exact loopHeader_of_dropKeyword dropped (anyExpression_eq_ok_iff.2 spelled)
    | introduced binding kind isKeyword spelled =>
        obtain ⟨offset, ws, rfl, behind⟩ := located_cons spelling
        obtain ⟨o, vs, rfl, further⟩ := located_cons behind
        obtain ⟨p, us, rfl, rfl⟩ := located_cons further
        have dropped := dropKeyword_of_keyword isKeyword offset
          (⟨.name binding, o⟩ :: ⟨.name (loopWord kind), p⟩ :: us)
        exact loopHeader_of_dropKeyword dropped (anyExpression_eq_ok_iff.2 spelled)

/-! ## Stripping -/

/-- As long as one stays open, parentheses are counted and nothing else. -/
theorem closesLast_append {us : List Located} (rest : List Located) {depth : Nat}
    (stays : ∀ vs, vs <+: us →
      closed (vs.map Located.token) < depth + opened (vs.map Located.token)) :
    closesLast depth (us ++ rest) =
      closesLast (depth + opened (us.map Located.token) - closed (us.map Located.token)) rest := by
  induction us generalizing depth with
  | nil => rfl
  | cons u us inductionHypothesis =>
      obtain ⟨t, offset⟩ := u
      have later : ∀ vs, vs <+: us →
          closed (t :: vs.map Located.token) < depth + opened (t :: vs.map Located.token) :=
        fun vs within => stays (⟨t, offset⟩ :: vs) (List.cons_prefix_cons.2 ⟨rfl, within⟩)
      have neutral (isNeutral : Grammar.IsNeutral t)
          (step : closesLast depth (⟨t, offset⟩ :: (us ++ rest)) =
            closesLast depth (us ++ rest)) :
          closesLast depth (⟨t, offset⟩ :: us ++ rest) =
            closesLast (depth + opened ((⟨t, offset⟩ :: us).map Located.token) -
              closed ((⟨t, offset⟩ :: us).map Located.token)) rest := by
        simp only [isNeutral.opened_cons, isNeutral.closed_cons] at later
        rw [List.cons_append, step, inductionHypothesis later, List.map_cons,
          isNeutral.opened_cons, isNeutral.closed_cons]
      cases t with
      | mark m =>
          cases m with
          | openParen =>
              simp only [Grammar.opened_cons_open, Grammar.closed_cons_open] at later
              have deeper : ∀ vs, vs <+: us → closed (vs.map Located.token) <
                  depth + 1 + opened (vs.map Located.token) := fun vs within => by
                have bound := later vs within
                omega
              rw [List.cons_append, closesLast, inductionHypothesis deeper, List.map_cons,
                Grammar.opened_cons_open, Grammar.closed_cons_open, Nat.add_right_comm,
                Nat.add_assoc]
          | closeParen =>
              simp only [Grammar.opened_cons_close, Grammar.closed_cons_close] at later
              have notLast : 1 < depth := later [] List.nil_prefix
              have shallower : ∀ vs, vs <+: us → closed (vs.map Located.token) <
                  depth - 1 + opened (vs.map Located.token) := fun vs within => by
                have bound := later vs within
                omega
              have staysOpen : decide (depth - 1 ≠ 0) = true := by
                rw [decide_eq_true_eq]
                omega
              rw [List.cons_append, closesLast, staysOpen, Bool.true_or, Bool.true_and,
                inductionHypothesis shallower, List.map_cons, Grammar.opened_cons_close,
                Grammar.closed_cons_close]
              congr 1
              omega
          | _ => exact neutral ⟨rfl, rfl⟩ rfl
      | _ => exact neutral ⟨rfl, rfl⟩ rfl

/-- Parentheses are dropped at both ends, or none are. -/
theorem stripParens_cases (ts : List Located) :
    stripParens ts = ts ∨
      ∃ o c, ts = ⟨.mark .openParen, o⟩ :: stripParens ts ++ [⟨.mark .closeParen, c⟩] := by
  unfold stripParens
  dsimp only
  split_ifs with enclosed
  · simp only [Bool.and_eq_true] at enclosed
    obtain ⟨⟨opens, closes⟩, -⟩ := enclosed
    unfold startsWith at opens
    split at opens
    · rename_i m o behind
      obtain rfl := of_decide_eq_true opens
      rcases List.eq_nil_or_concat behind with rfl | ⟨inside, last, rfl⟩
      · cases closes
      · rw [List.concat_eq_append, List.getLast?_cons, List.getLast?_concat] at closes
        split at closes
        · rename_i c found
          cases found
          exact .inr ⟨o, c, by simp⟩
        · cases closes
    · cases opens
  · exact .inl rfl

/-- Parentheses that match each other are dropped. -/
theorem stripParens_of_paired {us : List Located} (paired : Paired (us.map Located.token))
    (o c : Nat) : stripParens (⟨.mark .openParen, o⟩ :: us ++ [⟨.mark .closeParen, c⟩]) = us := by
  have stays : ∀ vs, vs <+: us →
      closed (vs.map Located.token) < 1 + opened (vs.map Located.token) := fun vs within => by
    have covered := paired.covered _ (within.map Located.token)
    omega
  have matched : closesLast 1 (us ++ [⟨.mark .closeParen, c⟩]) = true := by
    rw [closesLast_append _ stays, paired.even, Nat.add_sub_cancel]
    rfl
  have ends : ((⟨.mark .openParen, o⟩ :: us ++ [⟨.mark .closeParen, c⟩] : List Located)).getLast? =
      some ⟨.mark .closeParen, c⟩ := List.getLast?_concat
  unfold stripParens
  rw [ends, List.cons_append, closesLast, matched]
  simp [startsWith]

/-! ## Spans in parentheses -/

theorem StartsNumber.of_append_close {cs : List Char} (starts : StartsNumber (cs ++ [')'])) :
    StartsNumber cs := by
  rcases cs with - | ⟨c, - | ⟨d, more⟩⟩
  · simp [StartsNumber] at starts
  · rcases starts with digit | ⟨-, d, second, digit⟩
    · exact .inl digit
    · cases second
      cases digit
  · exact starts

theorem IsRun.append_close {p : Char → Bool} {run rest : List Char} (isRun : IsRun p run rest)
    (ends : p ')' = false) : IsRun p run (rest ++ [')']) := by
  refine ⟨isRun.inside, fun c first => ?_⟩
  cases rest with
  | nil =>
      cases first
      exact ends
  | cons d rest => exact isRun.ends c first

/-- Only one mark ends in a parenthesis that closes. -/
theorem eq_nil_of_mark {m : Mark} {cs : List Char} (spelled : m.text = cs ++ [')']) : cs = [] := by
  have ends : ∀ m ∈ Mark.all, m.text.getLast? = some ')' → m.text.length = 1 := by decide
  have short := ends m (Mark.mem_all m) (by simp [spelled])
  rw [spelled, List.length_append, List.length_singleton] at short
  exact List.length_eq_zero_iff.1 (by omega)

/-- A span is one with a parenthesis at the end of the text, too. -/
theorem Spans.append_close {t : Token} {span rest : List Char} (spans : Spans t span rest) :
    Spans t span (rest ++ [')']) := by
  cases spans with
  | number starts run read =>
      exact .number ((starts.of_run run).append _) (run.append_close rfl) read
  | text _ isQuote quoted => exact .text _ isQuote quoted
  | name starts run => exact .name starts (run.append_close (by decide +kernel))
  | @mark m _ noNumber longest =>
      refine .mark ?_ fun n isFront => ?_
      · rw [← List.append_assoc]
        exact fun starts => noNumber starts.of_append_close
      · rw [← List.append_assoc] at isFront
        rcases List.prefix_concat_iff.1 isFront with spelled | within
        · obtain ⟨c, more, solid, -⟩ := exists_cons_of_mark m
          have short := eq_nil_of_mark spelled
          rw [solid] at short
          cases short
        · exact longest n within

/-- Tokens keep their spans in another place and with a parenthesis at the end. -/
theorem Tiles.exists_append_close {before cs rest : List Char} {ts : List Located}
    (tiles : Tiles before cs rest ts) (other : List Char) :
    ∃ us, Tiles other cs (rest ++ [')']) us ∧ us.map Located.token = ts.map Located.token := by
  induction tiles generalizing other with
  | nil _ rest => exact ⟨[], .nil other _, rfl⟩
  | @blank _ _ _ c _ isBlank _ inductionHypothesis =>
      obtain ⟨us, tiles, same⟩ := inductionHypothesis (other ++ [c])
      exact ⟨us, .blank isBlank tiles, same⟩
  | @token _ span _ _ t _ spans _ inductionHypothesis =>
      obtain ⟨us, tiles, same⟩ := inductionHypothesis (other ++ span)
      have spansToo := spans.append_close
      rw [List.append_assoc] at spansToo
      exact ⟨_, .token spansToo tiles, by rw [List.map_cons, List.map_cons, same]⟩

theorem Tiles.append {before cs ds rest : List Char} {ts us : List Located}
    (first : Tiles before cs (ds ++ rest) ts) (second : Tiles (before ++ cs) ds rest us) :
    Tiles before (cs ++ ds) rest (ts ++ us) := by
  generalize behind : ds ++ rest = more at first
  induction first with
  | nil => rwa [List.append_nil] at second
  | blank isBlank _ inductionHypothesis =>
      refine .blank isBlank (inductionHypothesis ?_ behind)
      rwa [List.append_assoc]
  | token spans _ inductionHypothesis =>
      rw [List.append_assoc]
      refine .token ?_ (inductionHypothesis ?_ behind)
      · rwa [List.append_assoc, behind]
      · rwa [List.append_assoc]

/-- A mark of one character that starts no other token is one wherever it stands. -/
theorem spans_of_single {m : Mark} {c : Char} (spelled : m.text = [c])
    (noNumber : isNumberChar c = false)
    (alone : ∀ n ∈ Mark.all, n.text.head? = some c → n.text = [c]) (rest : List Char) :
    Spans (.mark m) [c] rest := by
  rw [← spelled]
  refine .mark ?_ fun n isFront => ?_
  · rw [spelled]
    intro starts
    rw [isNumberChar_of_starts starts] at noNumber
    cases noNumber
  · obtain ⟨d, more, shape, -⟩ := exists_cons_of_mark n
    rw [spelled, shape] at isFront
    obtain ⟨rfl, -⟩ := List.cons_prefix_cons.1 isFront
    rw [alone n (Mark.mem_all n) (by rw [shape]; rfl), spelled]

/-- A text whose first token is a parenthesis starts with it, behind blanks. -/
theorem Tiles.head?_trimStart {before cs rest : List Char} {o : Nat} {ts : List Located}
    (tiles : Tiles before cs rest (⟨.mark .openParen, o⟩ :: ts)) :
    (Text.trimStart cs).head? = some '(' := by
  generalize shape : (⟨.mark .openParen, o⟩ :: ts : List Located) = us at tiles
  induction tiles with
  | nil => cases shape
  | blank isBlank _ inductionHypothesis =>
      rw [Text.trimStart, List.dropWhile_cons_of_pos isBlank]
      exact inductionHypothesis shape
  | token spans _ _ =>
      cases shape
      cases spans
      rfl

theorem Spans.tiles {t : Token} {span rest : List Char} (spans : Spans t span rest)
    (before : List Char) : Tiles before span rest [⟨t, Text.byteLength before⟩] := by
  have alone := Tiles.token spans (.nil (before ++ span) rest)
  rwa [List.append_nil] at alone

/-- In parentheses, a text is read as its tokens between two parentheses. -/
theorem tokenize_parens {h : String} {ts : List Located} (read : tokenize h = .ok ts) :
    ∃ o us c, us.map Located.token = ts.map Located.token ∧ tokenize ("(" ++ h ++ ")") =
      .ok (⟨.mark .openParen, o⟩ :: us ++ [⟨.mark .closeParen, c⟩]) := by
  obtain ⟨us, inside, same⟩ : ∃ us, Tiles ['('] h.toList ([')'] ++ []) us ∧
      us.map Located.token = ts.map Located.token :=
    (tiles_of_tokenize read).exists_append_close ['(']
  have opens : Spans (.mark .openParen) ['('] (h.toList ++ [')'] ++ []) :=
    spans_of_single rfl (by decide) (by decide) _
  have closes : Spans (.mark .closeParen) [')'] [] :=
    spans_of_single rfl (by decide) (by decide) _
  have whole := (opens.tiles []).append (inside.append (closes.tiles (['('] ++ h.toList)))
  have spelled : ("(" ++ h ++ ")").toList = ['('] ++ (h.toList ++ [')']) := by
    rw [String.toList_append, String.toList_append, List.append_assoc]
    rfl
  rw [← spelled] at whole
  exact ⟨_, us, _, same, tokenize_of_tiles whole⟩

/-! ## Headers in parentheses -/

/-- No header starts with a parenthesis. -/
theorem not_heads_openParen {header : LoopHeader} {ts : List Token} :
    ¬ Heads header (.mark .openParen :: ts) := by
  rintro ⟨⟩

theorem parseLoopHeader_eq {input : String} {ts : List Located}
    (read : tokenize input = .ok ts) :
    parseLoopHeader input = parseAll input loopHeader (stripParens ts) :=
  bind_of_ok read _

/-- Tokens that spell a header are in no parentheses, so none are dropped. -/
theorem parseLoopHeader_of_heads {input : String} {ts : List Located} {header : LoopHeader}
    (read : tokenize input = .ok ts) (heads : Heads header (ts.map Located.token)) :
    parseLoopHeader input = .ok header := by
  rw [parseLoopHeader_eq read]
  rcases stripParens_cases ts with same | ⟨o, c, shape⟩
  · rw [same]
    exact parseAll_loopHeader_iff.2 heads
  · rw [shape] at heads
    exact absurd heads not_heads_openParen

/-- A header that does not start with a parenthesis is read in parentheses as it is without
them.  Where a text starts and ends with parentheses that do not match each other, there is
no header. -/
theorem parseLoopHeader_parens :
    (∀ h header, (Text.trimStart h.toList).head? ≠ some '(' →
      parseLoopHeader h = .ok header → parseLoopHeader ("(" ++ h ++ ")") = .ok header) ∧
    ∀ input ts inside, tokenize input = .ok ts →
      ts.map Located.token = .mark .openParen :: inside ++ [.mark .closeParen] →
      ¬ Paired inside → ∃ offset cause,
        parseLoopHeader input = .error (.malformed input offset cause) := by
  constructor
  · intro h header noParens parsed
    obtain ⟨ts, read, parsed⟩ := exists_of_bind_ok parsed
    have unstripped : stripParens ts = ts := by
      rcases stripParens_cases ts with same | ⟨o, c, shape⟩
      · exact same
      · have tiles := tiles_of_tokenize read
        rw [shape] at tiles
        exact absurd tiles.head?_trimStart noParens
    rw [unstripped] at parsed
    have heads := parseAll_loopHeader_iff.1 parsed
    obtain ⟨o, us, c, same, readParens⟩ := tokenize_parens read
    rw [← same] at heads
    rw [parseLoopHeader_eq readParens, stripParens_of_paired (Grammar.paired_of_heads heads)]
    exact parseAll_loopHeader_iff.2 heads
  · intro input ts inside read spelled unpaired
    rw [parseLoopHeader_eq read]
    cases parsed : parseAll input loopHeader (stripParens ts) with
    | error error =>
        obtain ⟨offset, cause, rfl⟩ := malformed_of_parseAll parsed
        exact ⟨offset, cause, rfl⟩
    | ok header =>
        have heads := parseAll_loopHeader_iff.1 parsed
        rcases stripParens_cases ts with same | ⟨o, c, shape⟩
        · rw [same, spelled] at heads
          exact absurd heads not_heads_openParen
        · rw [shape] at spelled
          simp only [List.map_append, List.map_cons, List.map_nil, List.cons_append,
            List.cons.injEq, true_and] at spelled
          have stripped := List.append_cancel_right spelled
          rw [stripped] at heads
          exact absurd (Grammar.paired_of_heads heads) unpaired

theorem parseLoopHeader_parens_at :
    ((Text.trimStart "let x of f(a)".toList).head? ≠ some '(' ∧
      ∃ header, parseLoopHeader "let x of f(a)" = .ok header ∧
        parseLoopHeader ("(" ++ "let x of f(a)" ++ ")") = .ok header) ∧
    ∃ ts inside, tokenize ("(" ++ "x) of (y" ++ ")") = .ok ts ∧
      ts.map Located.token = .mark .openParen :: inside ++ [.mark .closeParen] ∧
      ¬ Paired inside ∧ ∃ offset cause, parseLoopHeader ("(" ++ "x) of (y" ++ ")") =
        .error (.malformed ("(" ++ "x) of (y" ++ ")") offset cause) := by
  constructor
  · have noParens : (Text.trimStart "let x of f(a)".toList).head? ≠ some '(' := by
      decide +kernel
    have parses : (parseLoopHeader "let x of f(a)").toOption.isSome = true := by
      decide +kernel
    cases parsed : parseLoopHeader "let x of f(a)" with
    | ok header =>
        exact ⟨noParens, header, rfl, parseLoopHeader_parens.1 _ _ noParens parsed⟩
    | error =>
        rw [parsed] at parses
        cases parses
  · -- the first two tokens inside close what is not open
    have front : (tokenize "x) of (y").toOption.map (fun ts =>
        (opened ((ts.map Located.token).take 2), closed ((ts.map Located.token).take 2))) =
          some (0, 1) := by
      decide +kernel
    cases read : tokenize "x) of (y" with
    | error =>
        rw [read] at front
        cases front
    | ok inside =>
        rw [read] at front
        obtain ⟨opens, closes⟩ := Prod.mk.inj (Option.some.inj front)
        have unpaired : ¬ Paired (inside.map Located.token) := fun paired => by
          have covered := paired.covered _ (List.take_prefix 2 _)
          omega
        obtain ⟨o, us, c, same, readParens⟩ := tokenize_parens read
        have spelled : (⟨.mark .openParen, o⟩ :: us ++ [⟨.mark .closeParen, c⟩] :
            List Located).map Located.token =
              .mark .openParen :: inside.map Located.token ++ [.mark .closeParen] := by
          simp [same]
        exact ⟨_, _, readParens, spelled, unpaired,
          parseLoopHeader_parens.2 _ _ _ readParens spelled unpaired⟩

end Expr

end LivePages
