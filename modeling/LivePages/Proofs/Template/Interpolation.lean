import Mathlib
import LivePages.Proofs.Template

/-!
# Interpolations

Where interpolations start and end, said of the text: an interpolation starts at the
mark, and ends at the first brace that closes none of its own, quoted texts apart.  What
a text gives does not depend on what stands around it; only the literal texts where two
of them meet become one.
-/

namespace LivePages.Template

/-! ## Texts with interpolations -/

/-- What stands behind a quote, up to the next one that is not escaped. -/
inductive Quoted (quote : Char) : List Char → Prop where
  | nil : Quoted quote []
  | plain {c : Char} {rest : List Char} (noQuote : c ≠ quote) (noEscape : c ≠ '\\')
    (later : Quoted quote rest) : Quoted quote (c :: rest)
  | escaped (c : Char) {rest : List Char} (later : Quoted quote rest) :
    Quoted quote ('\\' :: c :: rest)

def quotes : List Char := ['\'', '"', '\x60']

def braces : List Char := ['\x7b', '\x7d']

/-- A text in which, outside of quoted texts, each closing brace closes one that is open,
`depth` of them from the start on, and that leaves none open. -/
inductive Balanced : Nat → List Char → Prop where
  | nil : Balanced 0 []
  | plain {depth : Nat} {c : Char} {rest : List Char} (noQuote : c ∉ quotes)
    (noBrace : c ∉ braces) (later : Balanced depth rest) : Balanced depth (c :: rest)
  | quoted {depth : Nat} {quote : Char} {text rest : List Char} (isQuote : quote ∈ quotes)
    (inside : Quoted quote text) (later : Balanced depth rest) :
    Balanced depth (quote :: (text ++ quote :: rest))
  | opens {depth : Nat} {rest : List Char} (later : Balanced (depth + 1) rest) :
    Balanced depth ('\x7b' :: rest)
  | closes {depth : Nat} {rest : List Char} (later : Balanced depth rest) :
    Balanced (depth + 1) ('\x7d' :: rest)

def start : List Char := ['$', '\x7b']

/-- A text as a literal text, interpolations and a literal text behind each of them. -/
structure Splits (cs first : List Char) (more : List (List Char × List Char)) : Prop where
  shape : cs = first ++ more.flatMap fun (body, literal) =>
    start ++ (body ++ '\x7d' :: literal)
  noStart : ¬ start <:+: first
  noStartLater : ∀ part ∈ more, ¬ start <:+: part.2
  balanced : ∀ part ∈ more, Balanced 0 part.1

theorem Splits.cons {first body rest literal : List Char} {more : List (List Char × List Char)}
    (noStart : ¬ start <:+: first) (balanced : Balanced 0 body)
    (later : Splits rest literal more) :
    Splits (first ++ (start ++ (body ++ '\x7d' :: rest))) first ((body, literal) :: more) := by
  refine ⟨?_, noStart, List.forall_mem_cons.2 ⟨later.noStart, later.noStartLater⟩,
    List.forall_mem_cons.2 ⟨balanced, later.balanced⟩⟩
  rw [later.shape]
  simp

theorem Splits.later {cs first body literal : List Char}
    {more : List (List Char × List Char)} (splits : Splits cs first ((body, literal) :: more)) :
    ∃ rest, cs = first ++ (start ++ (body ++ '\x7d' :: rest)) ∧ Balanced 0 body ∧
      Splits rest literal more := by
  obtain ⟨shape, noStart, noStartLater, balanced⟩ := splits
  obtain ⟨literalApart, laterApart⟩ := List.forall_mem_cons.1 noStartLater
  obtain ⟨bodyBalanced, laterBalanced⟩ := List.forall_mem_cons.1 balanced
  refine ⟨_, ?_, bodyBalanced, ⟨rfl, literalApart, laterApart, laterBalanced⟩⟩
  rw [shape]
  simp

/-- Where no mark stands at a character, none starts with it in a front of the text. -/
theorem notInfix_cons {c : Char} {front rest : List Char}
    (noStart : ∀ after, c = '$' → rest = '\x7b' :: after → False) (isFront : front <+: rest)
    (apart : ¬ start <:+: front) : ¬ start <:+: c :: front := by
  obtain ⟨behind, rfl⟩ := isFront
  rw [List.infix_cons_iff, not_or]
  refine ⟨?_, apart⟩
  rintro ⟨after, shape⟩
  obtain ⟨rfl, rfl⟩ := List.cons.inj shape
  exact noStart _ rfl rfl

theorem splitStart?_eq_none_iff {cs : List Char} :
    splitStart? cs = none ↔ ¬ start <:+: cs := by
  fun_induction splitStart? cs with
  | case1 => simp [start]
  | case2 rest => simpa using ⟨[], rest, rfl⟩
  | case3 c rest noStart inductionHypothesis =>
      rw [Option.map_eq_none_iff, inductionHypothesis]
      exact ⟨notInfix_cons noStart List.prefix_rfl, mt List.infix_cons⟩

theorem splitStart?_start {cs : List Char} (noStart : ¬ start <:+: cs) (rest : List Char) :
    splitStart? (cs ++ (start ++ rest)) = some (cs, rest) := by
  have joins : Joins cs (start ++ rest) := by
    intro _ brace
    cases brace
  rw [splitStart?_append_joins (splitStart?_eq_none_iff.2 noStart) joins]
  simp [start, splitStart?]

theorem eq_append_of_splitStart? {cs before inside : List Char}
    (started : splitStart? cs = some (before, inside)) :
    cs = before ++ (start ++ inside) ∧ ¬ start <:+: before := by
  fun_induction splitStart? cs generalizing before with
  | case1 => cases started
  | case2 rest =>
      cases started
      exact ⟨rfl, by simp [start]⟩
  | case3 c rest noStart inductionHypothesis =>
      obtain ⟨⟨front, after⟩, found, same⟩ := Option.map_eq_some_iff.1 started
      cases same
      obtain ⟨rfl, apart⟩ := inductionHypothesis found
      exact ⟨rfl, notInfix_cons noStart (List.prefix_append _ _) apart⟩

/-! ## One character after the other -/

theorem scan_ordinary {c : Char} (noQuote : c ∉ quotes) (noBrace : c ∉ braces) (depth : Nat)
    (escaped : Bool) : scan depth none escaped c = some (depth, none, false) := by
  simp only [quotes, braces, List.mem_cons, List.not_mem_nil, or_false, not_or]
    at noQuote noBrace
  unfold scan
  split <;> simp_all

theorem scan_quote {c : Char} (isQuote : c ∈ quotes) (depth : Nat) (escaped : Bool) :
    scan depth none escaped c = some (depth, some c, false) := by
  simp only [quotes, List.mem_cons, List.not_mem_nil, or_false] at isQuote
  rcases isQuote with rfl | rfl | rfl <;> rfl

theorem scan_quoted {c : Char} (noEscape : c ≠ '\\') (depth : Nat) (quote : Char) :
    scan depth (some quote) false c =
      some (depth, if c = quote then none else some quote, false) := by
  simp [scan, noEscape]

/-- What a character does outside of quoted texts: it opens one, ends the interpolation or
changes at most the depth. -/
theorem scan_outside (depth : Nat) (escaped : Bool) (c : Char) :
    (c ∈ quotes ∧ scan depth none escaped c = some (depth, some c, false)) ∨
      (c = '\x7d' ∧ scan depth none escaped c = none) ∨
        ∃ next, scan depth none escaped c = some (next, none, false) := by
  by_cases isQuote : c ∈ quotes
  · exact .inl ⟨isQuote, scan_quote isQuote depth escaped⟩
  · by_cases isBrace : c ∈ braces
    · simp only [braces, List.mem_cons, List.not_mem_nil, or_false] at isBrace
      rcases isBrace with rfl | rfl
      · exact .inr (.inr ⟨depth + 1, rfl⟩)
      · cases depth with
        | zero => exact .inr (.inl ⟨rfl, rfl⟩)
        | succ depth => exact .inr (.inr ⟨depth, rfl⟩)
    · exact .inr (.inr ⟨depth, scan_ordinary isQuote isBrace depth escaped⟩)

/-- Inside of a quoted text, it can only close the text. -/
theorem scan_inside (depth : Nat) (quote : Char) (escaped : Bool) (c : Char) :
    ∃ next escape, scan depth (some quote) escaped c = some (depth, next, escape) ∧
      (next = none ∨ next = some quote) := by
  cases escaped with
  | true => exact ⟨_, _, rfl, .inr rfl⟩
  | false =>
      by_cases escape : c = '\\'
      · subst escape
        exact ⟨_, _, rfl, .inr rfl⟩
      · refine ⟨_, _, scan_quoted escape depth quote, ?_⟩
        by_cases closes : c = quote
        · exact .inl (if_pos closes)
        · exact .inr (if_neg closes)

theorem eq_of_scan_none {depth : Nat} {quote : Option Char} {escaped : Bool} {c : Char}
    (ends : scan depth quote escaped c = none) : c = '\x7d' := by
  cases quote with
  | none =>
      rcases scan_outside depth escaped c with ⟨-, opens⟩ | ⟨closes, -⟩ | ⟨next, goesOn⟩
      · rw [opens] at ends
        cases ends
      · exact closes
      · rw [goesOn] at ends
        cases ends
  | some quote =>
      obtain ⟨next, escape, scanned, -⟩ := scan_inside depth quote escaped c
      rw [scanned] at ends
      cases ends

theorem splitBody?_of_scan {depth : Nat} {quote : Option Char} {escaped : Bool} {c : Char}
    {next : Nat × Option Char × Bool} (scanned : scan depth quote escaped c = some next)
    (rest : List Char) :
    splitBody? depth quote escaped (c :: rest) =
      (splitBody? next.1 next.2.1 next.2.2 rest).map fun (body, after) =>
        (c :: body, after) := by
  rw [splitBody?_cons, scanned]

theorem splitBody?_cons_eq_some {depth : Nat} {quote : Option Char} {escaped : Bool} {c : Char}
    {cs body after : List Char} :
    splitBody? depth quote escaped (c :: cs) = some (c :: body, after) ↔
      ∃ next, scan depth quote escaped c = some next ∧
        splitBody? next.1 next.2.1 next.2.2 cs = some (body, after) := by
  rw [splitBody?_cons]
  constructor
  · intro ended
    cases scanned : scan depth quote escaped c with
    | none => simp [scanned] at ended
    | some next =>
        rw [scanned] at ended
        obtain ⟨⟨inside, behind⟩, found, same⟩ := Option.map_eq_some_iff.1 ended
        cases same
        exact ⟨next, rfl, found⟩
  · rintro ⟨next, scanned, found⟩
    rw [scanned]
    exact Option.map_eq_some_iff.2 ⟨_, found, rfl⟩

theorem notEscape_of_mem_quotes {quote : Char} (isQuote : quote ∈ quotes) : quote ≠ '\\' := by
  rintro rfl
  revert isQuote
  decide

theorem splitBody?_quoted {quote : Char} (isQuote : quote ∈ quotes) {text : List Char}
    (inside : Quoted quote text) (depth : Nat) (rest : List Char) :
    splitBody? depth (some quote) false (text ++ quote :: rest) =
      (splitBody? depth none false rest).map fun (body, after) =>
        (text ++ quote :: body, after) := by
  induction inside with
  | nil =>
      have scanned := scan_quoted (notEscape_of_mem_quotes isQuote) depth quote
      rw [if_pos rfl] at scanned
      rw [List.nil_append, splitBody?_of_scan scanned]
      rfl
  | plain noQuote noEscape _ inductionHypothesis =>
      have scanned := scan_quoted noEscape depth quote
      rw [if_neg noQuote] at scanned
      rw [List.cons_append, splitBody?_of_scan scanned, inductionHypothesis, Option.map_map]
      rfl
  | escaped c _ inductionHypothesis =>
      have opens : scan depth (some quote) false '\\' = some (depth, some quote, true) := rfl
      have closes : scan depth (some quote) true c = some (depth, some quote, false) := rfl
      rw [List.cons_append, List.cons_append, splitBody?_of_scan opens,
        splitBody?_of_scan closes, inductionHypothesis, Option.map_map, Option.map_map]
      rfl

/-- A balanced text ends in front of the brace behind it. -/
theorem splitBody?_balanced {depth : Nat} {body : List Char} (balanced : Balanced depth body)
    (rest : List Char) :
    splitBody? depth none false (body ++ '\x7d' :: rest) = some (body, rest) := by
  induction balanced with
  | nil => rfl
  | plain noQuote noBrace _ inductionHypothesis =>
      rw [List.cons_append, splitBody?_of_scan (scan_ordinary noQuote noBrace _ _),
        inductionHypothesis]
      rfl
  | quoted isQuote inside _ inductionHypothesis =>
      rw [List.cons_append, splitBody?_of_scan (scan_quote isQuote _ _), List.append_assoc,
        List.cons_append, splitBody?_quoted isQuote inside, inductionHypothesis]
      rfl
  | @opens depth _ _ inductionHypothesis =>
      have scanned : scan depth none false '\x7b' = some (depth + 1, none, false) := rfl
      rw [List.cons_append, splitBody?_of_scan scanned, inductionHypothesis]
      rfl
  | @closes depth _ _ inductionHypothesis =>
      have scanned : scan (depth + 1) none false '\x7d' = some (depth, none, false) := rfl
      rw [List.cons_append, splitBody?_of_scan scanned, inductionHypothesis]
      rfl

/-! ## Where interpolations end -/

theorem eq_append_of_splitBody? {depth : Nat} {quote : Option Char} {escaped : Bool}
    {cs body after : List Char}
    (ended : splitBody? depth quote escaped cs = some (body, after)) :
    cs = body ++ '\x7d' :: after := by
  induction cs generalizing depth quote escaped body with
  | nil => cases ended
  | cons c cs inductionHypothesis =>
      rw [splitBody?_cons] at ended
      cases scanned : scan depth quote escaped c with
      | none =>
          rw [scanned] at ended
          cases ended
          rw [eq_of_scan_none scanned]
          rfl
      | some next =>
          rw [scanned] at ended
          obtain ⟨⟨inside, behind⟩, found, same⟩ := Option.map_eq_some_iff.1 ended
          cases same
          rw [inductionHypothesis found]
          rfl

theorem not_splitBody?_nil {depth : Nat} {quote : Option Char} {escaped : Bool} {c : Char}
    {next : Nat × Option Char × Bool} (scanned : scan depth quote escaped c = some next)
    (cs after : List Char) : splitBody? depth quote escaped (c :: cs) ≠ some ([], after) := by
  rw [splitBody?_of_scan scanned]
  cases splitBody? next.1 next.2.1 next.2.2 cs <;> simp

/-- Inside of quotes, an interpolation only ends behind the quote that closes them. -/
theorem exists_quoted {quote : Char} {depth : Nat} {body after : List Char}
    (ended : splitBody? depth (some quote) false (body ++ '\x7d' :: after) =
      some (body, after)) :
    ∃ text rest, Quoted quote text ∧ body = text ++ quote :: rest ∧
      splitBody? depth none false (rest ++ '\x7d' :: after) = some (rest, after) := by
  induction size : body.length using Nat.strong_induction_on generalizing body with
  | _ size inductionHypothesis =>
      subst size
      cases body with
      | nil =>
          exact absurd ended (not_splitBody?_nil (scan_quoted (by decide) depth quote) _ _)
      | cons c body =>
          obtain ⟨next, scanned, found⟩ := splitBody?_cons_eq_some.1 ended
          by_cases escape : c = '\\'
          · subst escape
            cases scanned
            cases body with
            | nil => exact absurd found (not_splitBody?_nil rfl _ _)
            | cons d body =>
                obtain ⟨next, scanned, found⟩ := splitBody?_cons_eq_some.1 found
                cases scanned
                obtain ⟨text, rest, inside, rfl, later⟩ :=
                  inductionHypothesis body.length (by simp) found rfl
                exact ⟨'\\' :: d :: text, rest, .escaped d inside, rfl, later⟩
          · rw [scan_quoted escape] at scanned
            cases scanned
            by_cases closes : c = quote
            · rw [if_pos closes] at found
              exact ⟨[], body, .nil, by rw [closes]; rfl, found⟩
            · rw [if_neg closes] at found
              obtain ⟨text, rest, inside, rfl, later⟩ :=
                inductionHypothesis body.length (by simp) found rfl
              exact ⟨c :: text, rest, .plain closes escape inside, rfl, later⟩

theorem balanced_of_splitBody? {depth : Nat} {body after : List Char}
    (ended : splitBody? depth none false (body ++ '\x7d' :: after) = some (body, after)) :
    Balanced depth body := by
  induction size : body.length using Nat.strong_induction_on generalizing depth body with
  | _ size inductionHypothesis =>
      subst size
      cases body with
      | nil =>
          cases depth with
          | zero => exact .nil
          | succ depth => exact absurd ended (not_splitBody?_nil rfl _ _)
      | cons c body =>
          have shorter : body.length < (c :: body).length := by
            simp
          obtain ⟨next, scanned, found⟩ := splitBody?_cons_eq_some.1 ended
          by_cases isQuote : c ∈ quotes
          · -- A quoted text is passed as a whole, so the induction is on the length.
            rw [scan_quote isQuote] at scanned
            cases scanned
            obtain ⟨text, rest, inside, rfl, later⟩ := exists_quoted found
            refine .quoted isQuote inside (inductionHypothesis rest.length ?_ later rfl)
            simp only [List.length_cons, List.length_append]
            omega
          · by_cases isBrace : c ∈ braces
            · simp only [braces, List.mem_cons, List.not_mem_nil, or_false] at isBrace
              rcases isBrace with rfl | rfl
              · cases scanned
                exact .opens (inductionHypothesis _ shorter found rfl)
              · cases depth with
                | zero => cases scanned
                | succ depth =>
                    cases scanned
                    exact .closes (inductionHypothesis _ shorter found rfl)
            · rw [scan_ordinary isQuote isBrace] at scanned
              cases scanned
              exact .plain isQuote isBrace (inductionHypothesis _ shorter found rfl)

theorem balanced_iff {body : List Char} (after : List Char) :
    splitBody? 0 none false (body ++ '\x7d' :: after) = some (body, after) ↔
      Balanced 0 body :=
  ⟨balanced_of_splitBody?, fun balanced => splitBody?_balanced balanced after⟩

instance decidableBalanced (body : List Char) : Decidable (Balanced 0 body) :=
  decidable_of_iff _ (balanced_iff [])

/-! ## Segments -/

/-- The segments that a text is split into: expressions from the bodies, and the literal
texts before and between them. -/
def segmentsBy (first : List Char) (more : List (List Char × List Char)) : List Segment :=
  literals first ++ more.flatMap fun (body, literal) =>
    .expr (String.ofList (Markup.decodeEntities (Text.trim body))) :: literals literal

theorem segmentsOf_of_splits {cs first : List Char} {more : List (List Char × List Char)}
    (splits : Splits cs first more) : segmentsOf cs = .ok (segmentsBy first more) := by
  induction more generalizing cs first with
  | nil =>
      have shape : cs = first := by
        simpa using splits.shape
      rw [shape, segmentsOf_of_none (splitStart?_eq_none_iff.2 splits.noStart), segmentsBy,
        List.flatMap_nil, List.append_nil]
  | cons part more inductionHypothesis =>
      obtain ⟨body, literal⟩ := part
      obtain ⟨rest, rfl, balanced, later⟩ := splits.later
      rw [segmentsOf_of_some (splitStart?_start splits.noStart _)
        (splitBody?_balanced balanced rest), inductionHypothesis later]
      rfl

/-- Exactly the texts that are literal texts and interpolations are split. -/
theorem segmentsOf_eq_ok_iff {cs : List Char} {segments : List Segment} :
    segmentsOf cs = .ok segments ↔
      ∃ first more, Splits cs first more ∧ segmentsBy first more = segments := by
  constructor
  · intro split
    induction cs using segmentsOf.induct generalizing segments with
    | case1 cs noStart =>
        rw [segmentsOf_of_none noStart] at split
        cases split
        exact ⟨cs, [], ⟨by simp, splitStart?_eq_none_iff.1 noStart, by simp, by simp⟩,
          by simp [segmentsBy]⟩
    | case2 cs before inside started noEnd =>
        rw [segmentsOf_of_open started noEnd] at split
        cases split
    | case3 cs before inside started body after closed inductionHypothesis =>
        rw [segmentsOf_of_some started closed] at split
        cases later : segmentsOf after with
        | error rest =>
            rw [later] at split
            cases split
        | ok others =>
            rw [later] at split
            cases split
            obtain ⟨literal, more, splits, rfl⟩ := inductionHypothesis later
            obtain ⟨rfl, noStart⟩ := eq_append_of_splitStart? started
            have shape := eq_append_of_splitBody? closed
            subst shape
            exact ⟨before, (body, literal) :: more,
              .cons noStart (balanced_of_splitBody? closed) splits, rfl⟩
  · rintro ⟨first, more, splits, rfl⟩
    exact segmentsOf_of_splits splits

/-! ## Segments of texts that are joined -/

/-- Puts a segment in front of others.  A literal text in front of another joins it. -/
def Segment.addTo : Segment → List Segment → List Segment
  | .literal text, .literal next :: more => .literal (text ++ next) :: more
  | segment, more => segment :: more

/-- The segments of two texts, one behind the other. -/
def glue (first second : List Segment) : List Segment := first.foldr Segment.addTo second

theorem glue_append (first second third : List Segment) :
    glue (first ++ second) third = glue first (glue second third) :=
  List.foldr_append

/-- The sources of the expressions among segments. -/
def sourcesOf (segments : List Segment) : List String :=
  segments.filterMap fun segment =>
    match segment with
    | .literal _ => none
    | .expr source => some source

theorem sourcesOf_append (first second : List Segment) :
    sourcesOf (first ++ second) = sourcesOf first ++ sourcesOf second :=
  List.filterMap_append

theorem sourcesOf_literals (text : List Char) : sourcesOf (literals text) = [] := by
  unfold literals
  split <;> rfl

theorem sourcesOf_glue (first second : List Segment) :
    sourcesOf (glue first second) = sourcesOf first ++ sourcesOf second := by
  induction first with
  | nil => rfl
  | cons segment first inductionHypothesis =>
      have step : ∀ more, sourcesOf (Segment.addTo segment more) =
          sourcesOf [segment] ++ sourcesOf more := by
        intro more
        unfold Segment.addTo
        split
        · rfl
        · rw [← sourcesOf_append, List.singleton_append]
      rw [glue, List.foldr_cons, step, ← glue, inductionHypothesis, ← List.append_assoc,
        ← sourcesOf_append, List.singleton_append]

theorem glue_literals (first second : List Char) :
    glue (literals first) (literals second) = literals (first ++ second) := by
  cases first with
  | nil => rfl
  | cons c first =>
      cases second with
      | nil =>
          rw [List.append_nil]
          rfl
      | cons d second => simp [literals, glue, Segment.addTo, String.append_assoc]

theorem glue_literals_expr (first second : List Char) (source : String) (more : List Segment) :
    glue (literals first) (literals second ++ .expr source :: more) =
      literals (first ++ second) ++ .expr source :: more := by
  cases first with
  | nil => rfl
  | cons c first =>
      cases second with
      | nil =>
          rw [List.append_nil]
          rfl
      | cons d second => simp [literals, glue, Segment.addTo, String.append_assoc]

/-- Behind a text that splits by itself, what follows is split as it is by itself. -/
theorem segmentsOf_append {cs : List Char} {front : List Segment}
    (split : segmentsOf cs = .ok front) {text : List Char} (joins : Joins cs text) :
    segmentsOf (cs ++ text) = (segmentsOf text).map (glue front) := by
  induction cs using segmentsOf.induct generalizing front with
  | case1 cs noStart =>
      -- Only here, behind the last interpolation, do the two texts meet.
      rw [segmentsOf_of_none noStart] at split
      cases split
      have start := splitStart?_append_joins noStart joins
      cases found : splitStart? text with
      | none =>
          rw [found] at start
          rw [segmentsOf_of_none start, segmentsOf_of_none found, Except.map, glue_literals]
      | some started =>
          obtain ⟨before, inside⟩ := started
          rw [found] at start
          cases closed : splitBody? 0 none false inside with
          | none =>
              rw [segmentsOf_of_open start closed, segmentsOf_of_open found closed]
              simp [Except.map, List.drop_append]
          | some ended =>
              obtain ⟨body, after⟩ := ended
              rw [segmentsOf_of_some start closed, segmentsOf_of_some found closed]
              cases segmentsOf after with
              | error rest => rfl
              | ok more => simp [Except.map, glue_literals_expr]
  | case2 cs before inside started noEnd =>
      rw [segmentsOf_of_open started noEnd] at split
      cases split
  | case3 cs before inside started body after closed inductionHypothesis =>
      rw [segmentsOf_of_some started closed] at split
      rw [segmentsOf_of_some (splitStart?_append started text) (splitBody?_append closed text)]
      cases later : segmentsOf after with
      | error rest =>
          rw [later] at split
          cases split
      | ok more =>
          rw [later] at split
          cases split
          have suffix := (suffix_of_splitBody? closed).trans (suffix_of_splitStart? started)
          rw [inductionHypothesis later (joins.of_suffix suffix)]
          cases segmentsOf text with
          | error rest => rfl
          | ok behind =>
              have expr := glue_literals_expr before []
                (String.ofList (Markup.decodeEntities (Text.trim body))) (glue more behind)
              rw [List.append_nil] at expr
              dsimp only [Except.map]
              rw [glue_append, ← expr]
              rfl

end LivePages.Template
