import LivePages.Markup.Piece

/-!
# Pieces of markup

What each kind of markup at the start of a text makes of it: one piece, and
the pieces of the text behind.  The searches for the end of a construct stop
at the first place where the end mark stands, so it is enough to know that the
mark does not occur before.
-/

namespace LivePages.Markup

/-! ## Searches -/

theorem splitAt?_append {stop : Char} {cs : List Char} (absent : stop ∉ cs)
    (rest : List Char) :
    splitAt? stop (cs ++ stop :: rest) = some (cs, rest) := by
  induction cs with
  | nil => simp [splitAt?]
  | cons c cs inductionHypothesis =>
      simp only [List.mem_cons, not_or] at absent
      rw [List.cons_append, splitAt?, if_neg (Ne.symm absent.1),
        inductionHypothesis absent.2]
      rfl

/-- A mark whose first character stands nowhere else in it cannot start inside
of a text and end behind it, in front of the next such mark. -/
theorem not_prefix_append {α : Type} {first : α} {more cs : List α}
    (once : first ∉ more) (absent : ¬ first :: more <:+: cs) (filled : cs ≠ [])
    (rest : List α) :
    ¬ first :: more <+: cs ++ first :: rest := by
  intro straddles
  rcases
      List.prefix_or_prefix_of_prefix straddles
        (List.prefix_append cs (first :: rest)) with
    inside | ⟨behind, shape⟩
  · exact absent inside.isInfix
  · cases behind with
    | nil =>
        rw [List.append_nil] at shape
        exact absent (shape ▸ List.infix_refl cs)
    | cons x behind =>
        rw [← shape, List.prefix_append_right_inj, List.cons_prefix_cons]
          at straddles
        cases cs with
        | nil => exact filled rfl
        | cons c cs =>
            rw [List.cons_append, List.cons.injEq, straddles.1] at shape
            exact once (shape.2 ▸ by simp)

theorem startsWithWord_iff (word cs : List Char) :
    startsWithWord word cs = true ↔ word <+: cs.map Char.toLower := by
  induction word generalizing cs with
  | nil => simp [startsWithWord]
  | cons w ws inductionHypothesis =>
      cases cs with
      | nil => simp [startsWithWord]
      | cons c cs =>
          rw [startsWithWord, List.map_cons, List.cons_prefix_cons,
            Bool.and_eq_true, decide_eq_true_eq, inductionHypothesis,
            eq_comm (a := w)]

/-- The content of a raw element ends where its closing tag starts. -/
theorem splitBefore_append {more cs rest : List Char} {first : Char}
    (once : first ∉ more)
    (absent : ¬ first :: more <:+: cs.map Char.toLower)
    (closes : startsWithWord (first :: more) rest = true) :
    splitBefore (first :: more) (cs ++ rest) = (cs, rest) := by
  induction cs with
  | nil =>
      cases rest with
      | nil => simp [startsWithWord] at closes
      | cons c rest => rw [List.nil_append, splitBefore, if_pos closes]
  | cons c cs inductionHypothesis =>
      have later : ¬ first :: more <:+: cs.map Char.toLower := by
        intro found
        exact absent (List.infix_cons found)
      have notHere : ¬ startsWithWord (first :: more) (c :: (cs ++ rest)) = true := by
        rw [startsWithWord_iff] at closes ⊢
        obtain ⟨behind, shape⟩ := closes
        have apart := not_prefix_append once absent (by simp) (more ++ behind)
        simpa [← shape] using apart
      rw [List.cons_append, splitBefore, if_neg notHere,
        inductionHypothesis later]

theorem splitComment?_append {cs : List Char}
    (absent : ¬ ['-', '-', '>'] <:+: cs) (rest : List Char) :
    splitComment? (cs ++ '-' :: '-' :: '>' :: rest) = some (cs, rest) := by
  induction cs with
  | nil => rfl
  | cons c cs inductionHypothesis =>
      have later : ¬ ['-', '-', '>'] <:+: cs := by
        intro found
        exact absent (List.infix_cons found)
      rw [List.cons_append, splitComment?, inductionHypothesis later]
      · rfl
      · -- The mark cannot start at `c`: the text behind would go on with it.
        intro behind equality shape
        subst equality
        cases cs with
        | nil => simp at shape
        | cons d cs =>
            cases cs with
            | nil => simp at shape
            | cons e cs =>
                simp only [List.cons_append, List.cons.injEq] at shape
                obtain ⟨rfl, rfl, -⟩ := shape
                exact absent ⟨[], cs, rfl⟩

/-! ## One piece after the other -/

theorem pieces_comment {body text rest : List Char}
    (ended : splitComment? body = some (text, rest)) :
    pieces ('<' :: '!' :: '-' :: '-' :: body) =
      addPiece (.comment text) (pieces rest) := by
  rw [pieces]
  split <;> simp_all

theorem pieces_closing {body name rest : List Char}
    (ended : splitAt? '>' body = some (name, rest)) :
    pieces ('<' :: '/' :: body) =
      addPiece (.closing (lowered (Text.trim name))) (pieces rest) := by
  rw [pieces]
  split <;> simp_all

/-- Text runs to the next `<`.  It may start with one that starts no
markup. -/
theorem pieces_text {c : Char} {rest : List Char}
    (noMarkup : c = '<' → ∀ d ∈ rest.head?, d ≠ '!' ∧ d ≠ '/' ∧ d.isAlpha = false) :
    pieces (c :: rest) =
      addPiece (.text (c :: rest.takeWhile (· ≠ '<')))
        (pieces (rest.dropWhile (· ≠ '<'))) := by
  rw [pieces]
  · split
    · rename_i tag
      cases rest with
      | nil => simp at tag
      | cons d rest => simp_all
    · rfl
  all_goals
    intro behind first shape
    subst first shape
    simp at noMarkup

/-- A tag whose attributes are read to their end. -/
theorem pieces_tag {c : Char} {rest : List Char} (letter : c.isAlpha = true)
    {tag : String} (named : lowered ((c :: rest).takeWhile isTagChar) = tag)
    {attributes : List Attribute} {body : List Char}
    (read : readAttributes ('<' :: c :: rest)
      ((c :: rest).dropWhile isTagChar) = .ok (attributes, false, body)) :
    pieces ('<' :: c :: rest) =
      if isVoid tag then addPiece (.leaf tag attributes) (pieces body)
      else if isRaw tag then
        let (content, after) := splitBefore ('<' :: '/' :: tag.toList) body
        if after = [] then ([.raw tag attributes content], none)
        else
          match splitAt? '>' after with
          | some (_, tail) =>
            addPiece (.raw tag attributes content) (pieces tail)
          | none => ([.raw tag attributes content], some (.tag after))
      else addPiece (.opening tag attributes) (pieces body) := by
  rw [pieces]
  · simp only [List.head?_cons, Option.any_some, letter, and_self, if_true]
    split
    · simp_all
    · rename_i found
      rw [read] at found
      cases found
      simp only [named, Bool.false_or]
      split
      · rfl
      · split
        · split
          · simp_all
          · split <;> simp_all
        · rfl
  all_goals
    intro behind _ shape
    cases shape
    exact absurd letter (by decide)

end LivePages.Markup
