import LivePages.Proofs.Expr.Tiling
import LivePages.Proofs.Template.Splitting

/-!
# Expressions inside of interpolations

A text that can be read as tokens has quotes and braces only in its quoted texts, and
the tokens end a quoted text where an interpolation does.  So whatever the quoted texts
hold, the first brace that can end the interpolation is the one behind the expression.
-/

namespace LivePages.Template

variable {cs ds : List Char}

/-! ## Balanced texts -/

/-- Characters that neither start a quoted text nor count among the braces. -/
def IsOrdinary (c : Char) : Prop := c ∉ quotes ∧ c ∉ braces

theorem isOrdinary_of_class {p : Char → Bool}
    (outside : ((quotes ++ braces).all fun c => !p c) = true) {c : Char} (holds : p c = true) :
    IsOrdinary c := by
  have apart : c ∉ quotes ++ braces := by
    intro member
    have fails := List.all_eq_true.1 outside c member
    rw [holds] at fails
    cases fails
  rwa [List.mem_append, not_or] at apart

theorem Balanced.append {depth : Nat} (front : Balanced depth cs) (later : Balanced 0 ds) :
    Balanced depth (cs ++ ds) := by
  induction front with
  | nil => exact later
  | plain noQuote noBrace _ inductionHypothesis =>
      exact .plain noQuote noBrace inductionHypothesis
  | quoted isQuote inside _ inductionHypothesis =>
      rw [List.cons_append, List.append_assoc, List.cons_append]
      exact .quoted isQuote inside inductionHypothesis
  | opens _ inductionHypothesis => exact .opens inductionHypothesis
  | closes _ inductionHypothesis => exact .closes inductionHypothesis

theorem balanced_of_ordinary (ordinary : ∀ c ∈ cs, IsOrdinary c) : Balanced 0 cs := by
  induction cs with
  | nil => exact .nil
  | cons c cs inductionHypothesis =>
      obtain ⟨⟨noQuote, noBrace⟩, later⟩ := List.forall_mem_cons.1 ordinary
      exact .plain noQuote noBrace (inductionHypothesis later)

/-! ## Tokens -/

theorem isOrdinary_of_isBlank {c : Char} (blank : Text.isBlank c = true) : IsOrdinary c :=
  isOrdinary_of_class (by decide) blank

theorem isOrdinary_of_isNumberChar {c : Char} (inNumber : Expr.isNumberChar c = true) :
    IsOrdinary c :=
  isOrdinary_of_class (by decide) inNumber

theorem isOrdinary_of_isNameChar {c : Char} (inName : Expr.isNameChar c = true) :
    IsOrdinary c :=
  isOrdinary_of_class (by decide) inName

theorem isOrdinary_of_mem_mark (m : Mark) : ∀ c ∈ m.text, IsOrdinary c := by
  have outside : ((quotes ++ braces).all fun c => !m.text.contains c) = true := by
    cases m <;> decide
  exact fun c member => isOrdinary_of_class outside (List.contains_iff_mem.2 member)

/-- The characters of one token, of whatever kind. -/
theorem balanced_of_spans {t : Token} {span rest : List Char}
    (spans : Expr.Spans t span rest) : Balanced 0 span := by
  cases spans with
  | number _ run _ =>
      exact balanced_of_ordinary fun c member => isOrdinary_of_isNumberChar (run.inside c member)
  | @text quote inside _ isQuote quoted =>
      have amongQuotes : quote ∈ quotes := by
        rcases isQuote with rfl | rfl
        · decide
        · decide
      exact .quoted amongQuotes quoted .nil
  | name _ run =>
      exact balanced_of_ordinary fun c member => isOrdinary_of_isNameChar (run.inside c member)
  | @mark m => exact balanced_of_ordinary (isOrdinary_of_mem_mark m)

/-- By induction on the tokens, and on the blanks between them. -/
theorem balanced_of_tiles {before rest : List Char} {ts : List Located}
    (tiles : Expr.Tiles before cs rest ts) : Balanced 0 cs := by
  induction tiles with
  | nil => exact .nil
  | blank isBlank _ inductionHypothesis =>
      obtain ⟨noQuote, noBrace⟩ := isOrdinary_of_isBlank isBlank
      exact .plain noQuote noBrace inductionHypothesis
  | token spans _ inductionHypothesis =>
      exact (balanced_of_spans spans).append inductionHypothesis

theorem balanced_of_tokenize {e : String} {ts : List Located}
    (read : Expr.tokenize e = .ok ts) : Balanced 0 e.toList :=
  balanced_of_tiles (Expr.tiles_of_tokenize read)

/-! ## Expressions between texts -/

/-- What can be read as tokens may stand in an interpolation, whatever is quoted in it: the
first interpolation starts in front of it and takes exactly that.  The segments of what
stands behind it follow. -/
theorem parse_around_source (before e after : String) (ts : List Located) (t : Template)
    (read : Expr.tokenize e = .ok ts) (noStart : ¬ start <:+: before.toList)
    (split : parse after = .ok t) :
    splitStart? (before ++ "$\x7b" ++ (e ++ "\x7d" ++ after)).toList =
        some (before.toList, (e ++ "\x7d" ++ after).toList) ∧
      splitBody? 0 none false (e ++ "\x7d" ++ after).toList =
        some (e.toList, after.toList) ∧
      parse (before ++ "$\x7b" ++ (e ++ "\x7d" ++ after)) =
        .ok ⟨literals before.toList ++
          .expr (String.ofList (Markup.decodeEntities (Text.trim e.toList))) :: t.segments⟩ := by
  have started := splitStart?_start noStart (e.toList ++ '\x7d' :: after.toList)
  have ended := splitBody?_balanced (balanced_of_tokenize read) after.toList
  have inside : (e ++ "\x7d" ++ after).toList = e.toList ++ '\x7d' :: after.toList := by
    simp
  have whole : (before ++ "$\x7b" ++ (e ++ "\x7d" ++ after)).toList =
      before.toList ++ (start ++ (e.toList ++ '\x7d' :: after.toList)) := by
    simp [start]
  rw [parse_eq_ok_iff] at split
  rw [parse_eq_ok_iff, whole, inside, segmentsOf_of_some started ended, split]
  exact ⟨started, ended, rfl⟩

/-- Both kinds of quotes, each in texts of the other kind, escaped quotes, a backslash
right before the end of a text, and braces of both kinds inside of texts. -/
theorem parse_around_source_quotes :
    let before := "$ \x7b"
    let e := " say('\x7d\\'\"\\\\', \"\x7b&lt;`\\\"\x7d'\") "
    let after := "$\x7bx\x7d!"
    (∃ ts, Expr.tokenize e = .ok ts) ∧ ¬ start <:+: before.toList ∧
      (∃ t, parse after = .ok t) ∧
      splitStart? (before ++ "$\x7b" ++ (e ++ "\x7d" ++ after)).toList =
        some (before.toList, (e ++ "\x7d" ++ after).toList) ∧
      splitBody? 0 none false (e ++ "\x7d" ++ after).toList =
        some (e.toList, after.toList) ∧
      parse (before ++ "$\x7b" ++ (e ++ "\x7d" ++ after)) =
        .ok ⟨[.literal before, .expr "say('\x7d\\'\"\\\\', \"\x7b<`\\\"\x7d'\")",
          .expr "x", .literal "!"]⟩ := by
  intro before e after
  have isOk : (Expr.tokenize e).isOk = true := by decide +kernel
  have noStart : ¬ start <:+: before.toList := by decide
  have split : parse after = .ok ⟨[.expr "x", .literal "!"]⟩ := by decide +kernel
  cases read : Expr.tokenize e with
  | error failure =>
      rw [read] at isOk
      cases isOk
  | ok ts =>
      obtain ⟨started, ended, parsed⟩ :=
        parse_around_source before e after ts _ read noStart split
      have source : String.ofList (Markup.decodeEntities (Text.trim e.toList)) =
          "say('\x7d\\'\"\\\\', \"\x7b<`\\\"\x7d'\")" := by decide +kernel
      have literal : literals before.toList = [.literal before] := by decide +kernel
      rw [source, literal] at parsed
      exact ⟨⟨ts, rfl⟩, noStart, ⟨_, split⟩, started, ended, parsed⟩

end LivePages.Template
