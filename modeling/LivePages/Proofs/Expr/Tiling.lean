import LivePages.Expr.Lexer
import LivePages.Proofs.Template.Interpolation

/-!
# Tokens in their places

A text is read as tokens exactly if it can be laid out in blanks and spans of tokens,
without a gap and without an overlap, where each span is as long as a token at its place
can be.  Otherwise it is laid out up to the place that the error names, and no token
starts there.
-/

namespace LivePages

open Template (Quoted)

/-! ## The longest mark -/

namespace Mark

theorem mem_all (m : Mark) : m ∈ all := by
  cases m <;> decide

/-- No mark stands before a longer one that it starts. -/
theorem pairwise_all : all.Pairwise fun m n => ¬ m.text <+: n.text := by
  decide

theorem text_injective {m n : Mark} (same : m.text = n.text) : m = n := by
  have apart : ∀ m ∈ all, ∀ n ∈ all, m.text = n.text → m = n := by decide
  exact apart m (mem_all m) n (mem_all n) same

variable {cs : List Char} {m : Mark}

/-- The mark that is found starts the text, and no mark that starts it is longer. -/
theorem longest?_spec (found : longest? cs = some m) :
    m.text <+: cs ∧ ∀ n : Mark, n.text <+: cs → n.text.length ≤ m.text.length := by
  obtain ⟨starts, earlier, later, shape, passed⟩ := List.find?_eq_some_iff_append.1 found
  have isFront : m.text <+: cs := List.isPrefixOf_iff_prefix.1 starts
  refine ⟨isFront, fun n alsoFront => ?_⟩
  by_contra! longer
  have begins : m.text <+: n.text :=
    List.prefix_of_prefix_length_le isFront alsoFront (Nat.le_of_lt longer)
  have member := mem_all n
  have ordered := pairwise_all
  rw [shape] at member ordered
  rcases List.mem_append.1 member with before | behind
  · have refused := passed n before
    rw [List.isPrefixOf_iff_prefix.2 alsoFront] at refused
    cases refused
  · rcases List.mem_cons.1 behind with rfl | behind
    · exact Nat.lt_irrefl _ longer
    · exact List.rel_of_pairwise_cons (List.pairwise_append.1 ordered).2.1 behind begins

theorem longest?_eq_none_iff : longest? cs = none ↔ ∀ n : Mark, ¬ n.text <+: cs := by
  rw [longest?, List.find?_eq_none]
  constructor
  · intro passed n isFront
    exact passed n (mem_all n) (List.isPrefixOf_iff_prefix.2 isFront)
  · intro absent n _ isFront
    exact absent n (List.isPrefixOf_iff_prefix.1 isFront)

theorem longest?_eq_some (isFront : m.text <+: cs)
    (longest : ∀ n : Mark, n.text <+: cs → n.text.length ≤ m.text.length) :
    longest? cs = some m := by
  cases found : longest? cs with
  | none => exact absurd isFront (longest?_eq_none_iff.1 found m)
  | some n =>
      obtain ⟨alsoFront, alsoLongest⟩ := longest?_spec found
      have length := Nat.le_antisymm (longest n alsoFront) (alsoLongest m isFront)
      have same : n.text = m.text :=
        (List.prefix_of_prefix_length_le alsoFront isFront (Nat.le_of_eq length)).eq_of_length
          length
      rw [text_injective same]

end Mark

namespace Expr

/-! ## What a token can be -/

/-- A number starts with a digit, or with a point in front of one. -/
def StartsNumber : List Char → Prop
  | [] => False
  | c :: rest => c.isDigit = true ∨ c = '.' ∧ ∃ d ∈ rest.head?, d.isDigit = true

/-- All characters of a class up to the first other one. -/
structure IsRun (p : Char → Bool) (run rest : List Char) : Prop where
  inside : ∀ c ∈ run, p c = true
  ends : ∀ c ∈ rest.head?, p c = false

/-- What the inside of a quoted text stands for. -/
def unescaped : List Char → List Char
  | [] => []
  | '\\' :: c :: rest => unescape c :: unescaped rest
  | c :: rest => c :: unescaped rest

/-- A token with its span and what stands behind that. -/
inductive Spans : Token → List Char → List Char → Prop where
  | number {f : Float} {span rest : List Char} (starts : StartsNumber (span ++ rest))
    (run : IsRun isNumberChar span rest) (read : Decimal.read? span = some f) :
    Spans (.number f) span rest
  | text {quote : Char} {inside : List Char} (rest : List Char)
    (isQuote : quote = '"' ∨ quote = '\'') (quoted : Quoted quote inside) :
    Spans (.text (String.ofList (unescaped inside))) (quote :: (inside ++ [quote])) rest
  | name {c : Char} {more rest : List Char} (starts : isNameStart c = true)
    (run : IsRun isNameChar (c :: more) rest) :
    Spans (.name (String.ofList (c :: more))) (c :: more) rest
  | mark {m : Mark} {rest : List Char} (noNumber : ¬ StartsNumber (m.text ++ rest))
    (longest : ∀ n : Mark, n.text <+: m.text ++ rest → n.text.length ≤ m.text.length) :
    Spans (.mark m) m.text rest

/-- What no token starts, with what is wrong with it. -/
inductive Fails : List Char → Malformation → Prop where
  /-- A number with two points or more. -/
  | number {span rest : List Char} (starts : StartsNumber (span ++ rest))
    (run : IsRun isNumberChar span rest) (points : 1 < span.count '.') :
    Fails (span ++ rest) (.badNumber (String.ofList span))
  | text {quote : Char} {rest : List Char} (isQuote : quote = '"' ∨ quote = '\'')
    (unclosed : ∀ inside behind, Quoted quote inside → rest ≠ inside ++ quote :: behind) :
    Fails (quote :: rest) .openText
  /-- A character with which no token can start at its place. -/
  | character {c : Char} {rest : List Char} (solid : Text.isBlank c = false)
    (noNumber : ¬ StartsNumber (c :: rest)) (noText : c ≠ '"' ∧ c ≠ '\'')
    (noName : isNameStart c = false) (noMark : ∀ m : Mark, ¬ m.text <+: c :: rest) :
    Fails (c :: rest) (.strayCharacter c)

/-- A part of a text laid out in blanks and spans of tokens, between what stands in front
of it and what stands behind it.  Each token has the byte at which its span starts. -/
inductive Tiles : List Char → List Char → List Char → List Located → Prop where
  | nil (before rest : List Char) : Tiles before [] rest []
  | blank {before cs rest : List Char} {c : Char} {ts : List Located}
    (isBlank : Text.isBlank c = true) (later : Tiles (before ++ [c]) cs rest ts) :
    Tiles before (c :: cs) rest ts
  | token {before span cs rest : List Char} {t : Token} {ts : List Located}
    (spans : Spans t span (cs ++ rest)) (later : Tiles (before ++ span) cs rest ts) :
    Tiles before (span ++ cs) rest (⟨t, Text.byteLength before⟩ :: ts)

/-! ## Classes of characters -/

/-- The characters of closed intervals of code points. -/
def members (ranges : List (Nat × Nat)) : List Char :=
  ranges.flatMap fun (first, last) => (List.range' first (last + 1 - first)).map Char.ofNat

theorem mem_members {ranges : List (Nat × Nat)} {c : Char}
    (covered : Text.covers ranges c = true) : c ∈ members ranges := by
  obtain ⟨⟨first, last⟩, isRange, inside⟩ := List.any_eq_true.1 covered
  simp only [Bool.and_eq_true, decide_eq_true_eq] at inside
  refine List.mem_flatMap.2 ⟨(first, last), isRange, List.mem_map.2 ⟨c.toNat, ?_, ?_⟩⟩
  · rw [List.mem_range'_1]
    omega
  · exact Char.ofNat_toNat c

theorem mem_digits {c : Char} (digit : c.isDigit = true) : c ∈ members [(0x30, 0x39)] := by
  apply mem_members
  simp only [Char.isDigit, Bool.and_eq_true, decide_eq_true_eq, ge_iff_le,
    UInt32.le_iff_toNat_le] at digit
  simp only [Text.covers, List.any_cons, List.any_nil, Bool.or_false, Bool.and_eq_true,
    decide_eq_true_eq]
  exact digit

theorem isBlank_of_isNumberChar {c : Char} (inNumber : isNumberChar c = true) :
    Text.isBlank c = false := by
  simp only [isNumberChar, Bool.or_eq_true, decide_eq_true_eq] at inNumber
  rcases inNumber with digit | rfl
  · have solid : (members [(0x30, 0x39)]).all fun c => !Text.isBlank c := by decide
    simpa using List.all_eq_true.1 solid c (mem_digits digit)
  · decide

/-- Names start with characters of their own. -/
structure StartsName (c : Char) : Prop where
  solid : Text.isBlank c = false
  noDigit : c.isDigit = false
  noPoint : c ≠ '.'
  noQuote : ¬ (c = '"' ∨ c = '\'')

theorem startsName_of_isNameStart {c : Char} (starts : isNameStart c = true) :
    StartsName c := by
  have others : (members Text.blankRanges ++ members [(0x30, 0x39)] ++ ['.', '"', '\'']).all
      fun c => !isNameStart c := by decide +kernel
  have foreign : c ∉ members Text.blankRanges ++ members [(0x30, 0x39)] ++
      ['.', '"', '\''] := by
    intro member
    have fails := List.all_eq_true.1 others c member
    rw [starts] at fails
    cases fails
  simp only [List.mem_append, List.mem_cons, List.not_mem_nil, not_or, or_false] at foreign
  obtain ⟨⟨noBlank, noDigit⟩, noPoint, noQuotes⟩ := foreign
  refine ⟨?_, ?_, noPoint, not_or.2 noQuotes⟩
  · rw [Bool.eq_false_iff]
    exact fun blank => noBlank (mem_members blank)
  · rw [Bool.eq_false_iff]
    exact fun digit => noDigit (mem_digits digit)

/-! ## Runs -/

section Runs

variable {p : Char → Bool} {run rest cs : List Char}

theorem isRun_takeWhile (p : Char → Bool) (cs : List Char) :
    IsRun p (cs.takeWhile p) (cs.dropWhile p) := by
  refine ⟨fun c member => List.mem_takeWhile_imp member, fun c first => ?_⟩
  have stops := List.head?_dropWhile_not p cs
  rw [first] at stops
  simpa using stops

theorem IsRun.cons {c : Char} (first : p c = true) (later : IsRun p run rest) :
    IsRun p (c :: run) rest :=
  ⟨List.forall_mem_cons.2 ⟨first, later.inside⟩, later.ends⟩

theorem IsRun.tail {c : Char} (whole : IsRun p (c :: run) rest) : IsRun p run rest :=
  ⟨(List.forall_mem_cons.1 whole.inside).2, whole.ends⟩

theorem IsRun.takeWhile_eq (isRun : IsRun p run rest) : (run ++ rest).takeWhile p = run := by
  rw [List.takeWhile_append_of_pos isRun.inside]
  cases rest with
  | nil => simp
  | cons c rest =>
      have stops : ¬ p c = true := by
        rw [isRun.ends c rfl]
        exact Bool.false_ne_true
      rw [List.takeWhile_cons_of_neg stops, List.append_nil]

/-- A run takes in a first character of its class. -/
theorem IsRun.exists_cons {c : Char} (isRun : IsRun p run rest)
    (shape : c :: cs = run ++ rest) (first : p c = true) : ∃ more, run = c :: more := by
  cases run with
  | nil =>
      have stops := isRun.ends c (by rw [← List.nil_append rest, ← shape]; rfl)
      rw [first] at stops
      cases stops
  | cons d more =>
      cases shape
      exact ⟨more, rfl⟩

end Runs

theorem startsNumber_iff {c : Char} {rest : List Char} :
    startsNumber c rest = true ↔ StartsNumber (c :: rest) := by
  simp [startsNumber, StartsNumber, Option.any_eq_true]

theorem isNumberChar_of_starts {c : Char} {rest : List Char}
    (starts : StartsNumber (c :: rest)) : isNumberChar c = true := by
  rcases starts with digit | ⟨rfl, -⟩
  · simp [isNumberChar, digit]
  · rfl

/-! ## Quoted texts -/

section Quotes

variable {quote : Char} {cs value : List Char} {n : Nat}

/-- What is read behind a quote is a quoted text and the quote that ends it. -/
theorem quoted_of_readQuoted? (read : readQuoted? quote cs = some (value, n)) :
    ∃ inside behind, cs = inside ++ quote :: behind ∧ Quoted quote inside ∧
      value = unescaped inside ∧ n = inside.length + 1 := by
  fun_induction readQuoted? quote cs generalizing value n with
  | case1 => cases read
  | case2 c rest inductionHypothesis =>
      obtain ⟨⟨more, m⟩, found, same⟩ := Option.map_eq_some_iff.1 read
      cases same
      obtain ⟨inside, behind, rfl, quoted, rfl, rfl⟩ := inductionHypothesis found
      exact ⟨'\\' :: c :: inside, behind, rfl, .escaped c quoted, rfl, rfl⟩
  | case3 rest _ =>
      cases read
      exact ⟨[], rest, rfl, .nil, rfl, rfl⟩
  | case4 => cases read
  | case5 c rest _ noQuote noEscape inductionHypothesis =>
      obtain ⟨⟨more, m⟩, found, same⟩ := Option.map_eq_some_iff.1 read
      cases same
      obtain ⟨inside, behind, rfl, quoted, rfl, rfl⟩ := inductionHypothesis found
      refine ⟨c :: inside, behind, rfl, .plain noQuote noEscape quoted, ?_, rfl⟩
      rw [unescaped]
      exact fun d more isEscape _ => noEscape isEscape

theorem readQuoted?_of_quoted {inside : List Char} (isQuote : quote = '"' ∨ quote = '\'')
    (quoted : Quoted quote inside) (behind : List Char) :
    readQuoted? quote (inside ++ quote :: behind) =
      some (unescaped inside, inside.length + 1) := by
  induction quoted with
  | nil =>
      have noEscape : ∀ c rest, quote = '\\' → behind = c :: rest → False := by
        rintro c rest rfl -
        simp at isQuote
      rw [List.nil_append, readQuoted?, if_pos rfl]
      · rfl
      · exact noEscape
  | @plain c rest noQuote noEscape _ inductionHypothesis =>
      rw [List.cons_append, readQuoted?, if_neg noQuote, if_neg noEscape, inductionHypothesis,
        Option.map_some, unescaped]
      · rfl
      · exact fun d more isEscape _ => noEscape isEscape
      · exact fun d more isEscape _ => noEscape isEscape
  | escaped c _ inductionHypothesis =>
      rw [List.cons_append, List.cons_append, readQuoted?, inductionHypothesis]
      rfl

end Quotes

/-! ## One token -/

section Scan

variable {c : Char} {span rest : List Char} {t : Token} {n : Nat} {cause : Malformation}

/-- Where a number starts, the run of its characters takes in the first one. -/
theorem StartsNumber.exists_cons (starts : StartsNumber (span ++ rest))
    (run : IsRun isNumberChar span rest) :
    ∃ c more, span = c :: more ∧ isNumberChar c = true := by
  cases shape : span ++ rest with
  | nil =>
      rw [shape] at starts
      cases starts
  | cons c cs =>
      rw [shape] at starts
      have first := isNumberChar_of_starts starts
      obtain ⟨more, rfl⟩ := run.exists_cons shape.symm first
      exact ⟨c, more, rfl, first⟩

/-- Whether a number starts is decided in its own characters. -/
theorem StartsNumber.of_run (starts : StartsNumber (span ++ rest))
    (run : IsRun isNumberChar span rest) : StartsNumber span := by
  obtain ⟨c, more, rfl, -⟩ := starts.exists_cons run
  rw [List.cons_append] at starts
  rcases starts with digit | ⟨rfl, d, second, digit⟩
  · exact .inl digit
  · have inNumber : isNumberChar d = true := by simp [isNumberChar, digit]
    cases shape : more ++ rest with
    | nil => simp [shape] at second
    | cons e behind =>
        rw [shape] at second
        cases second
        obtain ⟨others, rfl⟩ := run.tail.exists_cons shape.symm inNumber
        exact .inr ⟨rfl, d, rfl, digit⟩

theorem StartsNumber.append (starts : StartsNumber span) (rest : List Char) :
    StartsNumber (span ++ rest) := by
  rcases span with - | ⟨c, - | ⟨d, more⟩⟩
  · cases starts
  · rcases starts with digit | ⟨-, d, second, -⟩
    · exact .inl digit
    · cases second
  · exact starts

theorem StartsNumber.exists_digit (starts : StartsNumber span) :
    ∃ c ∈ span, c.isDigit = true := by
  rcases span with - | ⟨c, more⟩
  · cases starts
  · rcases starts with digit | ⟨-, d, second, digit⟩
    · exact ⟨c, List.mem_cons_self, digit⟩
    · exact ⟨d, List.mem_cons_of_mem _ (List.mem_of_head? second), digit⟩

/-- A run of digits and points where a number starts is one up to its second point. -/
theorem StartsNumber.isSome_read?_iff (starts : StartsNumber (span ++ rest))
    (run : IsRun isNumberChar span rest) :
    (Decimal.read? span).isSome = true ↔ span.count '.' ≤ 1 := by
  refine Decimal.isSome_read?_iff (fun c member => ?_) (starts.of_run run).exists_digit
  simpa [isNumberChar] using run.inside c member

theorem isNameChar_of_isNameStart (starts : isNameStart c = true) : isNameChar c = true := by
  simp only [isNameStart, isNameChar, Text.isLetterOrNumeral, Bool.or_eq_true] at starts ⊢
  rcases starts with (letter | underscore) | dollar
  · exact .inl (.inl (.inl letter))
  · exact .inl (.inr underscore)
  · exact .inr dollar

/-- The first character of a mark starts neither a name nor a quoted text. -/
theorem exists_cons_of_mark (m : Mark) :
    ∃ c more, m.text = c :: more ∧ Text.isBlank c = false ∧ isNameStart c = false ∧
      ¬ (c = '"' ∨ c = '\'') := by
  cases m <;> exact ⟨_, _, rfl, by decide, by decide +kernel, by decide⟩

/-- A token that is scanned has a span. -/
theorem exists_spans_of_scan (scanned : scan c rest = .ok (t, n)) :
    ∃ more behind, rest = more ++ behind ∧ more.length = n ∧ Spans t (c :: more) behind := by
  unfold scan at scanned
  split at scanned
  · rename_i isStart
    have starts := startsNumber_iff.1 isStart
    dsimp only at scanned
    split at scanned
    · rename_i read
      cases scanned
      have run := (isRun_takeWhile isNumberChar rest).cons (isNumberChar_of_starts starts)
      refine ⟨_, _, List.takeWhile_append_dropWhile.symm, rfl, .number ?_ run read⟩
      rwa [List.cons_append, List.takeWhile_append_dropWhile]
    · cases scanned
  · rename_i noNumber
    split at scanned
    · rename_i isQuote
      split at scanned
      · rename_i read
        cases scanned
        obtain ⟨inside, behind, rfl, quoted, rfl, rfl⟩ := quoted_of_readQuoted? read
        exact ⟨inside ++ [c], behind, by simp, by simp, .text behind isQuote quoted⟩
      · cases scanned
    · split at scanned
      · rename_i starts
        cases scanned
        have run := (isRun_takeWhile isNameChar rest).cons (isNameChar_of_isNameStart starts)
        exact ⟨_, _, List.takeWhile_append_dropWhile.symm, rfl, .name starts run⟩
      · split at scanned
        · rename_i m found
          cases scanned
          obtain ⟨⟨behind, shape⟩, longest⟩ := Mark.longest?_spec found
          have isStart : ¬ StartsNumber (m.text ++ behind) := by
            rw [shape]
            exact fun starts => noNumber (startsNumber_iff.2 starts)
          rw [← shape] at longest
          have spans := Spans.mark isStart longest
          obtain ⟨d, more, spelled, -⟩ := exists_cons_of_mark m
          rw [spelled] at shape spans ⊢
          cases shape
          exact ⟨more, behind, rfl, rfl, spans⟩
        · cases scanned

/-- Where no token is scanned, none starts. -/
theorem fails_of_scan (solid : Text.isBlank c = false) (failed : scan c rest = .error cause) :
    Fails (c :: rest) cause := by
  unfold scan at failed
  split at failed
  · rename_i isStart
    have run := (isRun_takeWhile isNumberChar rest).cons
      (isNumberChar_of_starts (startsNumber_iff.1 isStart))
    have starts : StartsNumber
        (c :: rest.takeWhile isNumberChar ++ rest.dropWhile isNumberChar) := by
      rw [List.cons_append, List.takeWhile_append_dropWhile]
      exact startsNumber_iff.1 isStart
    dsimp only at failed
    split at failed
    · cases failed
    · rename_i unread
      cases failed
      have points : 1 < (c :: rest.takeWhile isNumberChar).count '.' := by
        by_contra! few
        have read := (starts.isSome_read?_iff run).2 few
        rw [unread] at read
        cases read
      have fails := Fails.number starts run points
      rwa [List.cons_append, List.takeWhile_append_dropWhile] at fails
  · rename_i noNumber
    split at failed
    · rename_i isQuote
      split at failed
      · cases failed
      · rename_i unread
        cases failed
        refine .text isQuote ?_
        rintro inside behind quoted rfl
        rw [readQuoted?_of_quoted isQuote quoted] at unread
        cases unread
    · rename_i noQuote
      split at failed
      · cases failed
      · rename_i noName
        split at failed
        · cases failed
        · rename_i noMark
          cases failed
          exact .character solid (fun starts => noNumber (startsNumber_iff.2 starts))
            (not_or.1 noQuote) (Bool.eq_false_iff.2 noName) (Mark.longest?_eq_none_iff.1 noMark)

theorem scan_of_spans (spans : Spans t span rest) :
    ∃ c more, span = c :: more ∧ Text.isBlank c = false ∧
      scan c (more ++ rest) = .ok (t, more.length) := by
  cases spans with
  | number starts run read =>
      obtain ⟨c, more, rfl, first⟩ := starts.exists_cons run
      refine ⟨c, more, rfl, isBlank_of_isNumberChar first, ?_⟩
      have isStart : startsNumber c (more ++ rest) = true := startsNumber_iff.2 starts
      rw [scan, if_pos isStart]
      dsimp only
      rw [run.tail.takeWhile_eq, read]
  | @text quote inside _ isQuote quoted =>
      refine ⟨quote, inside ++ [quote], rfl, ?_, ?_⟩
      · rcases isQuote with rfl | rfl <;> decide
      · have noNumber : ¬ startsNumber quote (inside ++ [quote] ++ rest) = true := by
          rcases isQuote with rfl | rfl <;> exact Bool.false_ne_true
        rw [scan, if_neg noNumber, if_pos isQuote, List.append_assoc, List.singleton_append,
          readQuoted?_of_quoted isQuote quoted]
        simp
  | @name c more _ starts run =>
      have own := startsName_of_isNameStart starts
      refine ⟨c, more, rfl, own.solid, ?_⟩
      have noNumber : ¬ startsNumber c (more ++ rest) = true := by
        simp [startsNumber, own.noDigit, own.noPoint]
      rw [scan, if_neg noNumber, if_neg own.noQuote, if_pos starts, run.tail.takeWhile_eq]
  | @mark m _ noNumber longest =>
      obtain ⟨c, more, spelled, solid, noName, noQuote⟩ := exists_cons_of_mark m
      refine ⟨c, more, spelled, solid, ?_⟩
      have found := Mark.longest?_eq_some (List.prefix_append m.text rest) longest
      rw [spelled, List.cons_append] at noNumber found
      rw [scan, if_neg fun starts => noNumber (startsNumber_iff.1 starts), if_neg noQuote,
        if_neg (Bool.eq_false_iff.1 noName), found]
      simp [spelled]

theorem scan_of_fails (fails : Fails rest cause) :
    ∃ c more, rest = c :: more ∧ Text.isBlank c = false ∧ scan c more = .error cause := by
  cases fails with
  | @number span behind starts run points =>
      obtain ⟨c, more, rfl, first⟩ := starts.exists_cons run
      refine ⟨c, more ++ behind, rfl, isBlank_of_isNumberChar first, ?_⟩
      have unread : Decimal.read? (c :: more) = none := by
        rw [← Option.not_isSome_iff_eq_none, starts.isSome_read?_iff run]
        omega
      have isStart : startsNumber c (more ++ behind) = true := startsNumber_iff.2 starts
      rw [scan, if_pos isStart]
      dsimp only
      rw [run.tail.takeWhile_eq, unread]
  | @text quote rest isQuote unclosed =>
      refine ⟨quote, rest, rfl, ?_, ?_⟩
      · rcases isQuote with rfl | rfl <;> decide
      · have noNumber : ¬ startsNumber quote rest = true := by
          rcases isQuote with rfl | rfl <;> exact Bool.false_ne_true
        rw [scan, if_neg noNumber, if_pos isQuote]
        cases read : readQuoted? quote rest with
        | none => rfl
        | some found =>
            obtain ⟨inside, behind, shape, quoted, -⟩ := quoted_of_readQuoted? read
            exact absurd shape (unclosed inside behind quoted)
  | @character c more solid noNumber noText noName noMark =>
      refine ⟨c, more, rfl, solid, ?_⟩
      rw [scan, if_neg fun starts => noNumber (startsNumber_iff.1 starts),
        if_neg (not_or.2 noText), if_neg (Bool.eq_false_iff.1 noName),
        Mark.longest?_eq_none_iff.2 noMark]

end Scan

/-! ## All tokens -/

/-- A text is laid out up to its end, or up to where no token starts.  By induction on what
is left of it. -/
theorem exists_tiles (before cs : List Char) :
    ∃ front rest ts, cs = front ++ rest ∧ Tiles before front rest ts ∧
      (rest = [] ∨ ∃ cause, Fails rest cause) := by
  induction length : cs.length using Nat.strong_induction_on generalizing before cs with
  | _ n inductionHypothesis =>
      cases cs with
      | nil => exact ⟨[], [], [], rfl, .nil before [], .inl rfl⟩
      | cons c cs =>
          rw [List.length_cons] at length
          by_cases blank : Text.isBlank c = true
          · obtain ⟨front, rest, ts, rfl, tiles, ends⟩ :=
              inductionHypothesis cs.length (by omega) (before ++ [c]) cs rfl
            exact ⟨c :: front, rest, ts, rfl, .blank blank tiles, ends⟩
          · rw [Bool.not_eq_true] at blank
            cases scanned : scan c cs with
            | error cause =>
                have fails := fails_of_scan blank scanned
                exact ⟨[], c :: cs, [], rfl, .nil before _, .inr ⟨cause, fails⟩⟩
            | ok found =>
                obtain ⟨more, behind, rfl, -, spans⟩ := exists_spans_of_scan scanned
                rw [List.length_append] at length
                obtain ⟨front, rest, ts, rfl, tiles, ends⟩ := inductionHypothesis behind.length
                  (by omega) (before ++ c :: more) behind rfl
                exact ⟨c :: more ++ front, rest, _, by simp, .token spans tiles, ends⟩

/-- The tokens of a part that is laid out are read, and then those of what stands behind. -/
theorem tokensFrom_of_tiles {before front rest : List Char} {ts : List Located}
    (tiles : Tiles before front rest ts) :
    tokensFrom (Text.byteLength before) (front ++ rest) =
      (tokensFrom (Text.byteLength (before ++ front)) rest).map (ts ++ ·) := by
  induction tiles with
  | nil before rest =>
      rw [List.nil_append, List.append_nil]
      cases tokensFrom (Text.byteLength before) rest <;> rfl
  | @blank before cs rest c ts isBlank _ inductionHypothesis =>
      have next : Text.byteLength before + c.utf8Size = Text.byteLength (before ++ [c]) := by
        simp [Text.byteLength]
      rw [List.cons_append, tokensFrom, if_pos isBlank, next, inductionHypothesis,
        List.append_assoc, List.singleton_append]
  | @token before span cs rest t ts spans _ inductionHypothesis =>
      obtain ⟨c, more, rfl, solid, scanned⟩ := scan_of_spans spans
      have next : Text.byteLength before + c.utf8Size + Text.byteLength more =
          Text.byteLength (before ++ c :: more) := by
        simp [Text.byteLength, Nat.add_assoc]
      rw [List.append_assoc, List.cons_append, tokensFrom, if_neg (Bool.eq_false_iff.1 solid),
        scanned]
      dsimp only
      rw [List.take_left, List.drop_left, next, inductionHypothesis, List.append_assoc]
      cases tokensFrom (Text.byteLength (before ++ (c :: more ++ cs))) rest <;> rfl

theorem tokensFrom_of_fails {rest : List Char} {cause : Malformation} (fails : Fails rest cause)
    (offset : Nat) : tokensFrom offset rest = .error (offset, cause) := by
  obtain ⟨c, more, rfl, solid, scanned⟩ := scan_of_fails fails
  rw [tokensFrom, if_neg (Bool.eq_false_iff.1 solid), scanned]

theorem tokenize_of_tiles {input : String} {ts : List Located}
    (tiles : Tiles [] input.toList [] ts) : tokenize input = .ok ts := by
  have read := tokensFrom_of_tiles tiles
  rw [List.append_nil, tokensFrom] at read
  have offset : Text.byteLength [] = 0 := rfl
  rw [tokenize, ← offset, read]
  simp [Except.map, Except.mapError]

theorem tokenize_of_fails {input : String} {front rest : List Char} {ts : List Located}
    {cause : Malformation} (shape : input.toList = front ++ rest)
    (tiles : Tiles [] front rest ts) (fails : Fails rest cause) :
    tokenize input = .error (.malformed input (Text.byteLength front) cause) := by
  have read := tokensFrom_of_tiles tiles
  rw [tokensFrom_of_fails fails] at read
  have offset : Text.byteLength [] = 0 := rfl
  rw [tokenize, shape, ← offset, read]
  rfl

/-- A text is laid out to its end in what it is read as, or up to where no token starts. -/
theorem tokenize_cases (input : String) :
    (∃ ts, Tiles [] input.toList [] ts ∧ tokenize input = .ok ts) ∨
    ∃ front rest ts cause, input.toList = front ++ rest ∧ Tiles [] front rest ts ∧
      Fails rest cause ∧
      tokenize input = .error (.malformed input (Text.byteLength front) cause) := by
  obtain ⟨front, rest, ts, shape, tiles, ends⟩ := exists_tiles [] input.toList
  rcases ends with rfl | ⟨cause, fails⟩
  · rw [List.append_nil] at shape
    rw [← shape] at tiles
    exact .inl ⟨ts, tiles, tokenize_of_tiles tiles⟩
  · exact .inr ⟨front, rest, ts, cause, shape, tiles, fails,
      tokenize_of_fails shape tiles fails⟩

theorem tiles_of_tokenize {input : String} {ts : List Located}
    (read : tokenize input = .ok ts) : Tiles [] input.toList [] ts := by
  rcases tokenize_cases input with ⟨us, tiles, same⟩ | ⟨_, _, _, _, -, -, -, failed⟩
  · rw [read] at same
    cases same
    exact tiles
  · rw [read] at failed
    cases failed

theorem exists_fails_of_tokenize {input : String} {error : EvalError}
    (failed : tokenize input = .error error) :
    ∃ front rest ts cause, input.toList = front ++ rest ∧ Tiles [] front rest ts ∧
      Fails rest cause ∧ error = .malformed input (Text.byteLength front) cause := by
  rcases tokenize_cases input with
    ⟨us, -, read⟩ | ⟨front, rest, ts, cause, shape, tiles, fails, same⟩
  · rw [failed] at read
    cases read
  · rw [failed] at same
    cases same
    exact ⟨front, rest, ts, cause, shape, tiles, fails, rfl⟩

/-- The tokens of a text are those of the blanks and spans it is laid out in, all of it.  If
it is not read, it is laid out in the same way up to the byte that the error names, where
a malformed number starts, a quoted text without an end, or a character that no token can
start with. -/
theorem tokenize_tiles (input : String) :
    (∀ ts, tokenize input = .ok ts ↔ Tiles [] input.toList [] ts) ∧
    ∀ error, tokenize input = .error error ↔
      ∃ front rest ts cause, input.toList = front ++ rest ∧ Tiles [] front rest ts ∧
        Fails rest cause ∧ error = .malformed input (Text.byteLength front) cause := by
  refine ⟨fun ts => ⟨tiles_of_tokenize, tokenize_of_tiles⟩,
    fun error => ⟨exists_fails_of_tokenize, ?_⟩⟩
  rintro ⟨front, rest, ts, cause, shape, tiles, fails, rfl⟩
  exact tokenize_of_fails shape tiles fails

end Expr

end LivePages
