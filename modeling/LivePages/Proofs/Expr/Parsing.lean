import LivePages.Proofs.Expr.Printing

/-!
# Parsing and the grammar

The parsers of expressions and scripts accept exactly what the grammar spells,
and printing a tree and parsing it again gives the tree.
-/

namespace LivePages.Expr

open Grammar (Derives Phrase)

/-- A parser of inputs, which parses their tokens, agrees with the grammar of some
phrases and with a printer for them. -/
structure Exact {α : Type} (parse : String → Except EvalError α)
    (parseTokens : String → List Located → Except EvalError α) (phrase : α → Phrase)
    (print : Numerals → α → List Lexeme) : Prop where
  tokens : ∀ input, parse input = tokenize input >>= parseTokens input
  accepts : ∀ input ts a,
    parseTokens input ts = .ok a ↔ Derives (phrase a) (ts.map Located.token)
  rejects : ∀ input ts, (∀ a, ¬ Derives (phrase a) (ts.map Located.token)) →
    ∃ offset cause, parseTokens input ts = .error (.malformed input offset cause)
  /-- Without tokens there is a syntax error too. -/
  unreadable : ∀ input error, tokenize input = .error error →
    ∃ offset cause, parse input = .error (.malformed input offset cause)
  unique : ∀ ts a b, Derives (phrase a) ts → Derives (phrase b) ts → a = b
  /-- No token of what is printed can be spared, so no parenthesis can. -/
  shortest : ∀ numerals ts a, Derives (phrase a) ts →
    (print numerals a).length ≤ ts.length
  returns : ∀ numerals input a, parse input = .ok a →
    parse (Lexeme.source (print numerals a)) = .ok a

theorem malformed_of_parseAll {α : Type} {input : String} {parser : Parser α}
    {ts : List Located} {error : EvalError}
    (failed : parseAll input parser ts = .error error) :
    ∃ offset cause, error = .malformed input offset cause := by
  unfold parseAll Except.mapError at failed
  dsimp only at failed
  split at failed
  · cases failed
    exact ⟨_, _, rfl⟩
  · cases failed

theorem malformed_of_tokenize {input : String} {error : EvalError}
    (failed : tokenize input = .error error) :
    ∃ offset cause, error = .malformed input offset cause := by
  unfold tokenize Except.mapError at failed
  split at failed
  · cases failed
    exact ⟨_, _, rfl⟩
  · cases failed

/-- What decides whether a parser is exact: its tokens, and that printing spells
the tree again. -/
theorem exact_of_accepts {α : Type} {parse : String → Except EvalError α}
    {parser : List Located → Parser α} {phrase : α → Phrase}
    {print : Numerals → α → List Lexeme}
    (tokens : ∀ input, parse input =
      tokenize input >>= fun ts => parseAll input (parser ts) ts)
    (accepts : ∀ input ts a, parseAll input (parser ts) ts = .ok a ↔
      Derives (phrase a) (ts.map Located.token))
    (printed : ∀ numerals ts a, Derives (phrase a) ts → Numerals.Lexed ts →
      Numerals.Spell (phrase a) (print numerals a))
    (shortest : ∀ numerals ts a, Derives (phrase a) ts →
      (print numerals a).length ≤ ts.length) :
    Exact parse (fun input ts => parseAll input (parser ts) ts) phrase print where
  tokens := tokens
  accepts := accepts
  rejects := by
    intro input ts noTree
    cases parsed : parseAll input (parser ts) ts with
    | ok a => exact absurd ((accepts input ts a).mp parsed) (noTree a)
    | error error =>
        obtain ⟨offset, cause, rfl⟩ := malformed_of_parseAll parsed
        exact ⟨offset, cause, rfl⟩
  unreadable := by
    intro input error failed
    obtain ⟨offset, cause, rfl⟩ := malformed_of_tokenize failed
    refine ⟨offset, cause, ?_⟩
    rw [tokens, failed]
    rfl
  unique := by
    intro ts a b derivesA derivesB
    -- some located tokens stand for the sequence; the parser gives one result for them
    have same : (ts.map fun t => (⟨t, 0⟩ : Located)).map Located.token = ts := by
      rw [List.map_map]
      exact List.map_id ts
    rw [← same] at derivesA derivesB
    have parsedA := (accepts "" _ a).mpr derivesA
    have parsedB := (accepts "" _ b).mpr derivesB
    rw [parsedA] at parsedB
    exact Except.ok.inj parsedB
  shortest := shortest
  returns := by
    intro numerals input a parsed
    rw [tokens] at parsed
    obtain ⟨ts, read, parsedTokens⟩ := exists_of_bind_ok parsed
    have derived := (accepts input ts a).mp parsedTokens
    have spelled := printed numerals _ a derived
      (Lexeme.exists_legible_of_tokenize read)
    obtain ⟨us, readAgain, again⟩ := Lexeme.tokenize_source spelled.legible
    rw [tokens, readAgain]
    apply (accepts _ us a).mpr
    rw [again]
    exact spelled.derives

/-- The parser of expressions and the parser of scripts are exact. -/
theorem parsers_exact :
    Exact parseExpression (fun input ts => parseAll input anyExpression ts)
      (.expr .conditional) Numerals.print ∧
    Exact parseScript
      (fun input ts => parseAll input (statements (ts.length + 1)) ts)
      .script Numerals.printScript := by
  constructor
  · apply exact_of_accepts
    · intro input
      rfl
    · intro input ts e
      exact parseAll_anyExpression_iff
    · intro numerals ts e derived lexed
      exact Numerals.Spell.loosest (numerals.printed derived lexed)
    · intro numerals ts e derived
      have bound := numerals.shortest derived
      rw [Numerals.printPhrase, Numerals.place_conditional] at bound
      exact bound
  · apply exact_of_accepts
    · intro input
      rfl
    · intro input ts ss
      exact parseAll_statements_iff
    · intro numerals ts ss derived lexed
      exact numerals.printed derived lexed
    · intro numerals ts ss derived
      exact numerals.shortest derived

end LivePages.Expr
