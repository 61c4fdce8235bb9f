import LivePages.Proofs.Markup.Recovery
import LivePages.Proofs.Program.Keeping
import LivePages.Proofs.Template.Interpolation

/-!
# What a template is made of

A template keeps every character of its markup: the literal texts as they are, and the
bodies of the interpolations as expressions.  Where a markup text is no template, the
part in front of the interpolation that is not closed is one.  A template emits its
literal texts and the values of its expressions in the same order.
-/

namespace LivePages.Template

variable {σ : Type} {cs rest : List Char}

theorem parse_eq_ok_iff {markup : String} {t : Template} :
    parse markup = .ok t ↔ segmentsOf markup.toList = .ok t.segments := by
  unfold parse
  cases segmentsOf markup.toList with
  | error rest => simp
  | ok segments =>
      cases t
      simp

/-! ## Texts that are no templates -/

/-- A text in which no brace ends an interpolation that has started in front of it. -/
def Unclosed (rest : List Char) : Prop :=
  ∀ body after, rest = body ++ '\x7d' :: after → ¬ Balanced 0 body

theorem splitBody?_eq_none_iff : splitBody? 0 none false rest = none ↔ Unclosed rest := by
  constructor
  · rintro noEnd body after rfl balanced
    rw [splitBody?_balanced balanced after] at noEnd
    cases noEnd
  · intro unclosed
    cases ended : splitBody? 0 none false rest with
    | none => rfl
    | some parts =>
        obtain ⟨body, after⟩ := parts
        have shape := eq_append_of_splitBody? ended
        subst shape
        exact absurd (balanced_of_splitBody? ended) (unclosed body after rfl)

/-- What is left where a text is no template starts with the mark of the interpolation
that is not closed. -/
theorem segmentsOf_eq_error_iff {left : List Char} :
    segmentsOf cs = .error left ↔
      ∃ front first more rest, cs = front ++ left ∧ left = start ++ rest ∧
        Splits front first more ∧ Unclosed rest := by
  constructor
  · intro split
    induction cs using segmentsOf.induct with
    | case1 cs noStart =>
        rw [segmentsOf_of_none noStart] at split
        cases split
    | case2 cs before inside started noEnd =>
        rw [segmentsOf_of_open started noEnd] at split
        cases split
        obtain ⟨rfl, noStart⟩ := eq_append_of_splitStart? started
        rw [List.drop_left]
        exact ⟨before, before, [], inside, rfl, rfl,
          ⟨by simp, noStart, by simp, by simp⟩, splitBody?_eq_none_iff.1 noEnd⟩
    | case3 cs before inside started body after closed inductionHypothesis =>
        rw [segmentsOf_of_some started closed] at split
        cases later : segmentsOf after with
        | ok others =>
            rw [later] at split
            cases split
        | error behind =>
            rw [later] at split
            cases split
            obtain ⟨front, literal, more, rest, rfl, rfl, splits, unclosed⟩ :=
              inductionHypothesis later
            obtain ⟨rfl, noStart⟩ := eq_append_of_splitStart? started
            have shape := eq_append_of_splitBody? closed
            subst shape
            have whole := Splits.cons noStart (balanced_of_splitBody? closed) splits
            exact ⟨_, _, _, rest, by simp, rfl, whole, unclosed⟩
  · rintro ⟨front, first, more, rest, rfl, rfl, splits, unclosed⟩
    have joins : Joins front (start ++ rest) := by
      intro _ brace
      cases brace
    have started : splitStart? (start ++ rest) = some ([], rest) := rfl
    rw [segmentsOf_append (segmentsOf_of_splits splits) joins,
      segmentsOf_of_open started (splitBody?_eq_none_iff.2 unclosed)]
    rfl

theorem parse_eq_error_iff {markup : String} {offset : Nat} :
    parse markup = .error offset ↔
      ∃ front first more rest, markup.toList = front ++ (start ++ rest) ∧
        Splits front first more ∧ Unclosed rest ∧ offset = Text.byteLength front := by
  have lengths : ∀ front left, markup.toList = front ++ left →
      markup.utf8ByteSize - Text.byteLength left = Text.byteLength front := by
    intro front left shape
    rw [← Markup.byteLength_toList, shape, Text.byteLength_append, Nat.add_sub_cancel]
  constructor
  · intro parsed
    unfold parse at parsed
    cases split : segmentsOf markup.toList with
    | ok segments =>
        rw [split] at parsed
        cases parsed
    | error left =>
        rw [split] at parsed
        cases parsed
        obtain ⟨front, first, more, rest, shape, rfl, splits, unclosed⟩ :=
          segmentsOf_eq_error_iff.1 split
        exact ⟨front, first, more, rest, shape, splits, unclosed, lengths front _ shape⟩
  · rintro ⟨front, first, more, rest, shape, splits, unclosed, rfl⟩
    have split := segmentsOf_eq_error_iff.2
      ⟨front, first, more, rest, shape, rfl, splits, unclosed⟩
    unfold parse
    rw [split]
    exact congrArg Except.error (lengths front _ shape)

/-! ## Segments -/

def isLiteral : Segment → Bool
  | .literal _ => true
  | .expr _ => false

/-- Segments of which no two that stand next to each other are literal texts. -/
def LiteralsApart (segments : List Segment) : Prop :=
  segments.IsChain fun segment next => isLiteral segment = true → isLiteral next = false

theorem segmentsBy_cons (first body literal : List Char) (more : List (List Char × List Char)) :
    segmentsBy first ((body, literal) :: more) =
      literals first ++
        .expr (String.ofList (Markup.decodeEntities (Text.trim body))) ::
          segmentsBy literal more := by
  simp [segmentsBy]

theorem literalsApart_segmentsBy (first : List Char) (more : List (List Char × List Char)) :
    LiteralsApart (segmentsBy first more) := by
  induction more generalizing first with
  | nil =>
      unfold segmentsBy literals
      split
      · exact .nil
      · exact .singleton _
  | cons part more inductionHypothesis =>
      obtain ⟨body, literal⟩ := part
      have behind : LiteralsApart
          (.expr (String.ofList (Markup.decodeEntities (Text.trim body))) ::
            segmentsBy literal more) :=
        List.isChain_cons.2 ⟨by simp [isLiteral], inductionHypothesis literal⟩
      rw [segmentsBy_cons]
      unfold literals
      split
      · exact behind
      · exact List.isChain_cons.2 ⟨by simp [isLiteral], behind⟩

/-! ## What is emitted -/

/-- Expressions that all have a value, evaluated one after the other from a first state to
a last one. -/
inductive Evaluates (engine : Evaluator σ) (locals : Locals) :
    List String → σ → List Value → σ → Prop where
  | nil (s : σ) : Evaluates engine locals [] s [] s
  | cons {source : String} {sources : List String} {s middle last : σ} {v : Value}
    {values : List Value} (first : engine.evaluate source locals s = (.ok v, middle))
    (later : Evaluates engine locals sources middle values last) :
    Evaluates engine locals (source :: sources) s (v :: values) last

/-- Literal texts with a value shown behind each of them but the last. -/
def shownBetween : List Char → List (List Char) → List Value → String
  | first, literal :: more, v :: values =>
      String.ofList first ++ v.display ++ shownBetween literal more values
  | first, _, _ => String.ofList first

theorem sourcesOf_segmentsBy_cons (first body literal : List Char)
    (more : List (List Char × List Char)) :
    sourcesOf (segmentsBy first ((body, literal) :: more)) =
      String.ofList (Markup.decodeEntities (Text.trim body)) ::
        sourcesOf (segmentsBy literal more) := by
  rw [segmentsBy_cons, sourcesOf_append, sourcesOf_literals]
  rfl

theorem render_expr (engine : Evaluator σ) (locals : Locals) (source : String) :
    render engine locals ⟨[.expr source]⟩ = do
      let v ← engine.evaluate source locals
      return v.display := by
  simp [render, Segment.render]

/-- By induction on the interpolations, from each state to the next. -/
theorem render_segmentsBy (engine : Evaluator σ) (locals : Locals) (first : List Char)
    (more : List (List Char × List Char)) {s last : σ} {values : List Value}
    (evaluates :
      Evaluates engine locals (sourcesOf (segmentsBy first more)) s values last) :
    render engine locals ⟨segmentsBy first more⟩ s =
      (.ok (shownBetween first (more.map Prod.snd) values), last) := by
  induction more generalizing first s values with
  | nil =>
      have literal : segmentsBy first [] = literals first := by
        simp [segmentsBy]
      rw [literal, sourcesOf_literals] at evaluates
      cases evaluates
      rw [literal, render_literals]
      rfl
  | cons part more inductionHypothesis =>
      obtain ⟨body, literal⟩ := part
      rw [sourcesOf_segmentsBy_cons] at evaluates
      cases evaluates with
      | cons value later =>
          have behind := inductionHypothesis literal later
          rw [segmentsBy_cons, render_append, render_literals, ← List.singleton_append,
            render_append, render_expr]
          simp only [pure_bind, bind_assoc]
          rw [Keeps.bind_eq, value]
          dsimp only
          rw [Keeps.bind_eq, behind, List.map_cons, shownBetween, String.append_assoc]
          rfl

/-- A template that is made of a literal text, and of interpolations with a literal text
behind each of them. -/
structure IsMadeOf (t : Template) (first : List Char) (more : List (List Char × List Char)) :
    Prop where
  segments : t.segments = segmentsBy first more
  literalsApart : LiteralsApart t.segments
  emits : ∀ {σ : Type} (engine : Evaluator σ) (locals : Locals) (s last : σ)
    (values : List Value), Evaluates engine locals (sourcesOf t.segments) s values last →
      t.render engine locals s = (.ok (shownBetween first (more.map Prod.snd) values), last)

theorem isMadeOf_iff {t : Template} {first : List Char} {more : List (List Char × List Char)} :
    t.IsMadeOf first more ↔ segmentsBy first more = t.segments := by
  constructor
  · exact fun made => made.segments.symm
  · intro segments
    obtain ⟨_⟩ := t
    cases segments
    exact ⟨rfl, literalsApart_segmentsBy first more, fun engine locals _ _ _ evaluates =>
      render_segmentsBy engine locals first more evaluates⟩

/-- A markup text is a template exactly if it is a literal text and interpolations, each with
a literal text behind it; the template is made of these.  It is refused at an offset exactly
if an interpolation starts there that nothing ends, and the text in front of it is a
template. -/
theorem parse_splits (markup : String) :
    (∀ t, parse markup = .ok t ↔
      ∃ first more, Splits markup.toList first more ∧ t.IsMadeOf first more) ∧
    (∀ offset, parse markup = .error offset ↔
      ∃ front first more rest, markup.toList = front ++ (start ++ rest) ∧
        Splits front first more ∧ Unclosed rest ∧ offset = Text.byteLength front) := by
  refine ⟨fun t => ?_, fun offset => parse_eq_error_iff⟩
  rw [parse_eq_ok_iff, segmentsOf_eq_ok_iff]
  simp only [isMadeOf_iff]

example : parse "<p>\x7d$\x7bf(\x7b)\x7d \"$\x7b\x7d" = .error 4 := by decide +kernel

end LivePages.Template
