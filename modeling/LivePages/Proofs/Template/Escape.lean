import LivePages.Proofs.Markup.Attribute
import LivePages.Proofs.Template.Interpolation

/-!
# Interpolations in attribute values

The value of an attribute is searched for interpolations after it has been escaped.
Where an interpolation starts is not changed by that.  Where it ends is looked for with
an eye on quotes, and a double quote is none any more: its entity consists of ordinary
characters.  So an interpolation ends where it should if it does so with its double
quotes taken as ordinary characters, and its source is decoded to what it was.
-/

namespace LivePages.Template

open Markup (escapeAttribute escapeEntity)

/-! ## Escaped texts -/

theorem escapeAttribute_cons (c : Char) (cs : List Char) :
    escapeAttribute (c :: cs) = escapeEntity c ++ escapeAttribute cs := rfl

theorem escapeAttribute_append (first second : List Char) :
    escapeAttribute (first ++ second) = escapeAttribute first ++ escapeAttribute second :=
  List.flatMap_append

theorem escapeEntity_of_ne {c : Char} (noAmpersand : c ≠ '&') (noQuote : c ≠ '"') :
    escapeEntity c = [c] := by
  unfold escapeEntity
  split <;> simp_all

/-- An interpolation starts in an escaped text where it starts in the text. -/
theorem splitStart?_escape (cs : List Char) :
    splitStart? (escapeAttribute cs) =
      (splitStart? cs).map fun (before, inside) =>
        (escapeAttribute before, escapeAttribute inside) := by
  fun_induction splitStart? cs with
  | case1 => rfl
  | case2 rest => rfl
  | case3 c rest noStart inductionHypothesis =>
      by_cases dollar : c = '$'
      · subst dollar
        have apart : (escapeAttribute rest).head? ≠ some '\x7b' := by
          cases rest with
          | nil => simp [escapeAttribute]
          | cons d rest =>
              rw [escapeAttribute_cons]
              unfold escapeEntity
              split <;> simp_all
        rw [escapeAttribute_cons, escapeEntity_of_ne (by decide) (by decide),
          List.singleton_append, splitStart?_cons fun _ => apart, inductionHypothesis,
          Option.map_map, Option.map_map]
        rfl
      · have noDollar : '$' ∉ escapeEntity c := by
          unfold escapeEntity
          split <;> simp_all [eq_comm]
        rw [escapeAttribute_cons, splitStart?_append_left noDollar, inductionHypothesis,
          Option.map_map, Option.map_map]
        rfl

/-- A double quote is taken for an ordinary character, as an ampersand is. -/
def plainQuote (c : Char) : Char := if c = '"' then '&' else c

/-- A character that is passed over, inside of quotes as well as outside. -/
def IsPassed (c : Char) : Prop := c ∉ quotes ∧ c ∉ braces ∧ c ≠ '\\'

theorem scan_passed {c : Char} (passed : IsPassed c) {quote : Option Char}
    (isQuote : ∀ q ∈ quote, q ∈ quotes) (depth : Nat) (escaped : Bool) :
    scan depth quote escaped c = some (depth, quote, false) := by
  obtain ⟨noQuote, noBrace, noEscape⟩ := passed
  cases quote with
  | none => exact scan_ordinary noQuote noBrace depth escaped
  | some quote =>
      have other : c ≠ quote := by
        rintro rfl
        exact noQuote (isQuote c rfl)
      cases escaped with
      | true => rfl
      | false => rw [scan_quoted noEscape, if_neg other]

theorem splitBody?_passed {name : List Char} (passed : ∀ c ∈ name, IsPassed c)
    {quote : Option Char} (isQuote : ∀ q ∈ quote, q ∈ quotes) (depth : Nat)
    (rest : List Char) :
    splitBody? depth quote false (name ++ rest) =
      (splitBody? depth quote false rest).map fun (body, after) => (name ++ body, after) := by
  induction name with
  | nil => simp
  | cons c name inductionHypothesis =>
      obtain ⟨first, later⟩ := List.forall_mem_cons.1 passed
      rw [List.cons_append, splitBody?_of_scan (scan_passed first isQuote depth false),
        inductionHypothesis later, Option.map_map]
      rfl

theorem isQuote_of_scan {depth : Nat} {quote : Option Char} {escaped : Bool} {c : Char}
    {next : Nat × Option Char × Bool} (isQuote : ∀ q ∈ quote, q ∈ quotes)
    (scanned : scan depth quote escaped c = some next) : ∀ q ∈ next.2.1, q ∈ quotes := by
  cases quote with
  | none =>
      rcases scan_outside depth escaped c with ⟨opensQuote, opens⟩ | ⟨-, ends⟩ | ⟨depth, goesOn⟩
      · rw [opens] at scanned
        cases scanned
        simpa using opensQuote
      · rw [ends] at scanned
        cases scanned
      · rw [goesOn] at scanned
        cases scanned
        simp
  | some quote =>
      obtain ⟨closed, escape, inside, rfl | rfl⟩ := scan_inside depth quote escaped c
      · rw [inside] at scanned
        cases scanned
        simp
      · rw [inside] at scanned
        cases scanned
        exact isQuote

theorem splitBody?_entity (name : List Char) (passed : ∀ c ∈ name, IsPassed c)
    {quote : Option Char} (isQuote : ∀ q ∈ quote, q ∈ quotes) {depth : Nat} {escaped : Bool}
    {cs body after : List Char} :
    splitBody? depth quote escaped ('&' :: (name ++ cs)) =
        some ('&' :: (name ++ body), after) ↔
      splitBody? depth quote false cs = some (body, after) := by
  have ampersand : IsPassed '&' := by
    simp [IsPassed, quotes, braces]
  rw [splitBody?_cons_eq_some, scan_passed ampersand isQuote]
  simp [splitBody?_passed passed isQuote, Prod.ext_iff]

/-- An escaped text ends in front of a brace if the text does so with its double quotes as
ordinary characters. -/
theorem splitBody?_escape (cs rest : List Char) {depth : Nat} {quote : Option Char}
    {escaped : Bool} (isQuote : ∀ q ∈ quote, q ∈ quotes) :
    splitBody? depth quote escaped (escapeAttribute cs ++ '\x7d' :: rest) =
        some (escapeAttribute cs, rest) ↔
      splitBody? depth quote escaped (cs.map plainQuote ++ '\x7d' :: rest) =
        some (cs.map plainQuote, rest) := by
  induction cs generalizing depth quote escaped with
  | nil => rfl
  | cons c cs inductionHypothesis =>
      -- Both entities pass as the ampersand does that a double quote is taken for.
      have ampersand : splitBody? depth quote escaped
            ('&' :: (cs.map plainQuote ++ '\x7d' :: rest)) =
              some ('&' :: cs.map plainQuote, rest) ↔
          splitBody? depth quote false (cs.map plainQuote ++ '\x7d' :: rest) =
            some (cs.map plainQuote, rest) :=
        splitBody?_entity [] (by simp) isQuote
      have again := (inductionHypothesis isQuote).trans ampersand.symm
      by_cases isAmpersand : c = '&'
      · subst isAmpersand
        have passed : ∀ d ∈ ['a', 'm', 'p', ';'], IsPassed d := by
          simp [IsPassed, quotes, braces]
        exact (splitBody?_entity _ passed isQuote).trans again
      · by_cases isDouble : c = '"'
        · subst isDouble
          have passed : ∀ d ∈ ['q', 'u', 'o', 't', ';'], IsPassed d := by
            simp [IsPassed, quotes, braces]
          exact (splitBody?_entity _ passed isQuote).trans again
        · rw [escapeAttribute_cons, escapeEntity_of_ne isAmpersand isDouble, List.map_cons,
            plainQuote, if_neg isDouble, List.singleton_append, List.cons_append,
            List.cons_append, splitBody?_cons_eq_some, splitBody?_cons_eq_some]
          constructor
          · rintro ⟨next, scanned, ended⟩
            exact ⟨next, scanned,
              (inductionHypothesis (isQuote_of_scan isQuote scanned)).1 ended⟩
          · rintro ⟨next, scanned, ended⟩
            exact ⟨next, scanned,
              (inductionHypothesis (isQuote_of_scan isQuote scanned)).2 ended⟩

/-! ## Sources -/

theorem escapeEntity_of_isBlank {c : Char} (isBlank : Text.isBlank c = true) :
    escapeEntity c = [c] := by
  apply escapeEntity_of_ne
  · rintro rfl
    revert isBlank
    decide
  · rintro rfl
    revert isBlank
    decide

/-- Nothing but blanks is written with a blank at its start or at its end. -/
theorem escapeEntity_solid {c : Char} (solid : Text.isBlank c = false) :
    (∃ first more, escapeEntity c = first :: more ∧ Text.isBlank first = false) ∧
      ∃ last more, (escapeEntity c).reverse = last :: more ∧ Text.isBlank last = false := by
  unfold escapeEntity
  split
  · exact ⟨⟨'&', _, rfl, by decide⟩, ⟨';', _, rfl, by decide⟩⟩
  · exact ⟨⟨'&', _, rfl, by decide⟩, ⟨';', _, rfl, by decide⟩⟩
  · exact ⟨⟨c, [], rfl, solid⟩, ⟨c, [], rfl, solid⟩⟩

theorem trim_escape (cs : List Char) :
    Text.trim (escapeAttribute cs) = escapeAttribute (Text.trim cs) := by
  have front : ∀ text, Text.trimStart (escapeAttribute text) =
      escapeAttribute (Text.trimStart text) :=
    Text.trimStart_flatMap (fun _ => escapeEntity_of_isBlank) fun _ solid =>
      (escapeEntity_solid solid).1
  have back : ∀ text : List Char,
      Text.trimStart (text.flatMap fun c => (escapeEntity c).reverse) =
        (Text.trimStart text).flatMap fun c => (escapeEntity c).reverse :=
    Text.trimStart_flatMap (fun _ isBlank => by rw [escapeEntity_of_isBlank isBlank]; rfl)
      fun _ solid => (escapeEntity_solid solid).2
  have turned : ∀ text, (escapeAttribute text).reverse =
      text.reverse.flatMap fun c => (escapeEntity c).reverse :=
    fun _ => List.reverse_flatMap
  rw [Text.trim, Text.trim, front, Text.trimEnd, Text.trimEnd, turned, back,
    ← List.reverse_reverse (List.flatMap _ _), List.reverse_flatMap]
  simp [escapeAttribute, Function.comp_def]

theorem source_escape (body : List Char) :
    Markup.decodeEntities (Text.trim (escapeAttribute body)) = Text.trim body := by
  rw [trim_escape, Markup.decode_escape]

/-! ## Segments -/

/-- With its double quotes as ordinary characters, the body ends where it does. -/
def SurvivesEscape (body : List Char) : Prop := Balanced 0 (body.map plainQuote)

instance decidableSurvivesEscape (body : List Char) : Decidable (SurvivesEscape body) :=
  inferInstanceAs (Decidable (Balanced 0 (body.map plainQuote)))

theorem survivesEscape_iff (body rest : List Char) :
    splitBody? 0 none false (escapeAttribute body ++ '\x7d' :: rest) =
        some (escapeAttribute body, rest) ↔ SurvivesEscape body := by
  rw [splitBody?_escape body rest (by simp), balanced_iff, SurvivesEscape]

/-- The segments of an escaped value: its literal texts as they are written, and the bodies
of its interpolations, trimmed. -/
def attributeSegments (first : List Char) (more : List (List Char × List Char)) :
    List Segment :=
  literals (escapeAttribute first) ++ more.flatMap fun (body, literal) =>
    .expr (String.ofList (Text.trim body)) :: literals (escapeAttribute literal)

theorem sourcesOf_attributeSegments (first : List Char)
    (more : List (List Char × List Char)) :
    sourcesOf (attributeSegments first more) =
      more.map fun part => String.ofList (Text.trim part.1) := by
  rw [attributeSegments, sourcesOf_append, sourcesOf_literals, List.nil_append]
  induction more with
  | nil => rfl
  | cons part more inductionHypothesis =>
      rw [List.flatMap_cons, sourcesOf_append, inductionHypothesis, List.map_cons]
      have one : sourcesOf (.expr (String.ofList (Text.trim part.1)) ::
          literals (escapeAttribute part.2)) = [String.ofList (Text.trim part.1)] :=
        congrArg (_ :: ·) (sourcesOf_literals _)
      rw [one]
      rfl

theorem splitStart?_escape_start {first : List Char} (noStart : ¬ start <:+: first)
    (body rest text : List Char) :
    splitStart? (escapeAttribute (first ++ (start ++ (body ++ '\x7d' :: rest))) ++ text) =
      some (escapeAttribute first,
        escapeAttribute body ++ '\x7d' :: (escapeAttribute rest ++ text)) := by
  have brace : escapeAttribute ('\x7d' :: rest) = '\x7d' :: escapeAttribute rest := rfl
  have started : splitStart? (escapeAttribute (first ++ (start ++ (body ++ '\x7d' :: rest)))) =
      some (escapeAttribute first, escapeAttribute body ++ '\x7d' :: escapeAttribute rest) := by
    rw [splitStart?_escape, splitStart?_start noStart, ← brace, ← escapeAttribute_append]
    rfl
  rw [splitStart?_append started, List.append_assoc, List.cons_append]

/-- An escaped text is literal texts and interpolations if the bodies survive. -/
theorem Splits.escape {cs first : List Char} {more : List (List Char × List Char)}
    (splits : Splits cs first more) (survive : ∀ part ∈ more, SurvivesEscape part.1) :
    Splits (escapeAttribute cs) (escapeAttribute first)
      (more.map fun (body, literal) => (escapeAttribute body, escapeAttribute literal)) := by
  have apart : ∀ {text : List Char}, ¬ start <:+: text → ¬ start <:+: escapeAttribute text := by
    intro text noStart
    rw [← splitStart?_eq_none_iff] at noStart ⊢
    rw [splitStart?_escape, noStart]
    rfl
  constructor
  · rw [splits.shape, escapeAttribute_append]
    simp only [escapeAttribute, List.flatMap_assoc, List.flatMap_map, List.flatMap_append]
    rfl
  · exact apart splits.noStart
  · simp only [List.forall_mem_map]
    exact fun part member => apart (splits.noStartLater part member)
  · simp only [List.forall_mem_map]
    exact fun part member =>
      (balanced_iff []).1 ((survivesEscape_iff part.1 []).2 (survive part member))

theorem segmentsOf_escape {cs first : List Char} {more : List (List Char × List Char)}
    (splits : Splits cs first more) (survive : ∀ part ∈ more, SurvivesEscape part.1) :
    segmentsOf (escapeAttribute cs) = .ok (attributeSegments first more) := by
  rw [segmentsOf_of_splits (splits.escape survive), segmentsBy, attributeSegments]
  simp only [List.flatMap_map, source_escape]

/-! ## Bodies that do not survive -/

theorem eq_of_count {mark : Char} {first second behindFirst behindSecond : List Char}
    (shape : first ++ mark :: behindFirst = second ++ mark :: behindSecond)
    (counts : first.count mark = second.count mark) :
    first = second ∧ behindFirst = behindSecond := by
  induction first generalizing second with
  | nil =>
      cases second with
      | nil => exact ⟨rfl, (List.cons.inj shape).2⟩
      | cons c second =>
          rw [← (List.cons.inj shape).1] at counts
          simp at counts
  | cons c first inductionHypothesis =>
      cases second with
      | nil =>
          rw [(List.cons.inj shape).1] at counts
          simp at counts
      | cons d second =>
          obtain ⟨rfl, later⟩ := List.cons.inj shape
          rw [List.count_cons, List.count_cons, Nat.add_right_cancel_iff] at counts
          obtain ⟨rfl, behind⟩ := inductionHypothesis later counts
          exact ⟨rfl, behind⟩

theorem count_replaceAll {mark first : Char} {more replacement : List Char}
    (other : mark ≠ first) (notMore : mark ∉ more) (notMade : mark ∉ replacement)
    (cs : List Char) :
    (Markup.replaceAll first more replacement cs).count mark = cs.count mark := by
  fun_induction Markup.replaceAll first more replacement cs with
  | case1 => rfl
  | case2 c rest found inductionHypothesis =>
      simp only [Bool.and_eq_true, decide_eq_true_eq, List.isPrefixOf_iff_prefix] at found
      obtain ⟨rfl, behind, rfl⟩ := found
      rw [List.drop_left] at inductionHypothesis ⊢
      rw [List.count_append, inductionHypothesis, List.count_cons_of_ne other.symm,
        List.count_append, List.count_eq_zero.2 notMore, List.count_eq_zero.2 notMade]
  | case3 c rest notFound inductionHypothesis =>
      rw [List.count_cons, List.count_cons, inductionHypothesis]

theorem count_foldl {α : Type} (mark : Char) (change : List Char → α → List Char)
    (steps : List α)
    (keeps : ∀ step ∈ steps, ∀ text, (change text step).count mark = text.count mark)
    (cs : List Char) : (steps.foldl change cs).count mark = cs.count mark := by
  induction steps generalizing cs with
  | nil => rfl
  | cons step steps inductionHypothesis =>
      obtain ⟨first, later⟩ := List.forall_mem_cons.1 keeps
      rw [List.foldl_cons, inductionHypothesis later, first]

theorem count_decodeEntities (cs : List Char) :
    (Markup.decodeEntities cs).count '\x7d' = cs.count '\x7d' := by
  apply count_foldl
  intro entity member text
  have noBrace : '\x7d' ∉ entity.1 ∧ '\x7d' ≠ entity.2 := by
    revert entity
    decide
  exact count_replaceAll (by decide) noBrace.1 (by simpa using noBrace.2) text

theorem count_escapeAttribute (cs : List Char) :
    (escapeAttribute cs).count '\x7d' = cs.count '\x7d' := by
  rw [← count_decodeEntities, Markup.decode_escape]

theorem eq_escape_of_source {body rest other after : List Char}
    (ended : splitBody? 0 none false (escapeAttribute body ++ '\x7d' :: rest) =
      some (other, after))
    (source : Markup.decodeEntities (Text.trim other) = Text.trim body) :
    other = escapeAttribute body ∧ after = rest := by
  -- Entities have no braces, so both bodies have as many, and the next one ends both.
  have shape := eq_append_of_splitBody? ended
  have counts : other.count '\x7d' = (escapeAttribute body).count '\x7d' := by
    rw [count_escapeAttribute, ← Text.count_trim (by decide) body, ← source, count_decodeEntities,
      Text.count_trim (by decide)]
  exact eq_of_count shape.symm counts

theorem survivesEscape_of_sources {cs first : List Char} {more : List (List Char × List Char)}
    (splits : Splits cs first more) {text : List Char} {segments : List Segment}
    (split : segmentsOf (escapeAttribute cs ++ text) = .ok segments)
    (sources : (more.map fun part => String.ofList (Text.trim part.1)) <+:
      sourcesOf segments) :
    ∀ part ∈ more, SurvivesEscape part.1 := by
  induction more generalizing cs first segments with
  | nil => simp
  | cons part more inductionHypothesis =>
      obtain ⟨body, literal⟩ := part
      obtain ⟨rest, rfl, -, later⟩ := splits.later
      have started := splitStart?_escape_start splits.noStart body rest text
      cases closed : splitBody? 0 none false
          (escapeAttribute body ++ '\x7d' :: (escapeAttribute rest ++ text)) with
      | none =>
          rw [segmentsOf_of_open started closed] at split
          cases split
      | some ended =>
          obtain ⟨other, after⟩ := ended
          rw [segmentsOf_of_some started closed] at split
          cases behind : segmentsOf after with
          | error rest =>
              rw [behind] at split
              cases split
          | ok others =>
              rw [behind] at split
              cases split
              rw [sourcesOf_append, sourcesOf_literals, List.nil_append, List.map_cons] at sources
              obtain ⟨source, laterSources⟩ := List.cons_prefix_cons.1 sources
              obtain ⟨rfl, rfl⟩ :=
                eq_escape_of_source closed (String.ofList_injective source.symm)
              exact List.forall_mem_cons.2
                ⟨(survivesEscape_iff body _).1 closed,
                  inductionHypothesis later behind laterSources⟩

end LivePages.Template
