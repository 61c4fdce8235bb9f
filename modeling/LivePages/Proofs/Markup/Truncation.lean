import LivePages.Proofs.Markup.Locality
import LivePages.Proofs.Markup.RoundTrip

/-!
# Markup up to where it is cut off

A text whose end cuts a construct off consists of a front that reads by itself,
into the same pieces, and of the construct.  The front is found piece by piece:
each piece is read alike whether the text ends behind it or goes on as it did.
-/

namespace LivePages.Markup

/-! ## The ends that are not found -/

theorem splitAt?_eq_none {stop : Char} {cs : List Char} :
    splitAt? stop cs = none ↔ stop ∉ cs := by
  induction cs with
  | nil => simp [splitAt?]
  | cons c cs inductionHypothesis =>
      rw [splitAt?]
      by_cases here : c = stop
      · simp [here]
      · rw [if_neg here, Option.map_eq_none_iff, inductionHypothesis]
        simp [Ne.symm here]

theorem splitBefore_eq_self {word cs : List Char}
    (absent : ¬ word <:+: cs.map Char.toLower) : splitBefore word cs = (cs, []) := by
  induction cs with
  | nil => rfl
  | cons c cs inductionHypothesis =>
      have notHere : ¬ startsWithWord word (c :: cs) = true := by
        rw [startsWithWord_iff]
        intro starts
        exact absent starts.isInfix
      have later := inductionHypothesis fun found => absent (List.infix_cons found)
      rw [splitBefore, if_neg notHere, later]

/-- A value that starts with a quote and goes on to the end without another. -/
def OpensQuote (value : List Char) : Prop :=
  ∃ quote inside, (quote = '"' ∨ quote = '\'') ∧ value = quote :: inside ∧
    quote ∉ inside

theorem readAttributeValue_error {cs : List Char} {cut : Cut}
    (failed : readAttributeValue cs = .error cut) : cut = .value cs ∧ OpensQuote cs := by
  have unquoted : ∀ (quote : Char) (inside : List Char),
      (splitAt? quote inside).elim (.error (.value cs)) .ok =
        (.error cut : Except Cut (List Char × List Char)) →
      cut = .value cs ∧ quote ∉ inside := by
    intro quote inside found
    cases ended : splitAt? quote inside with
    | none =>
        rw [ended] at found
        cases found
        exact ⟨rfl, splitAt?_eq_none.1 ended⟩
    | some result =>
        rw [ended] at found
        cases found
  unfold readAttributeValue at failed
  split at failed
  · obtain ⟨same, absent⟩ := unquoted _ _ failed
    exact ⟨same, _, _, .inl rfl, rfl, absent⟩
  · obtain ⟨same, absent⟩ := unquoted _ _ failed
    exact ⟨same, _, _, .inr rfl, rfl, absent⟩
  · cases failed

theorem suffix_of_trimStart {cs rest : List Char} (starts : Text.trimStart cs = rest) :
    rest <:+ cs := by
  rw [← starts]
  exact List.dropWhile_suffix _

theorem suffix_of_attributeName {cs rest after : List Char} {c : Char}
    (starts : Text.trimStart cs = c :: rest)
    (behind : Text.trimStart (rest.dropWhile isAttributeChar) = after) :
    after <:+ cs :=
  (suffix_of_trimStart behind).trans <| (List.dropWhile_suffix _).trans <|
    (List.suffix_cons c rest).trans (suffix_of_trimStart starts)

theorem readAttributes_map_error {tag after : List Char} {cut : Cut} {a : Attribute}
    (failed : ((readAttributes tag after).map fun (as, tail) => (a :: as, tail)) =
      .error cut) :
    readAttributes tag after = .error cut := by
  cases read : readAttributes tag after with
  | error found =>
      rw [read] at failed
      cases failed
      rfl
  | ok result =>
      rw [read] at failed
      cases failed

/-- A tag is cut off as a whole, or in a value that stands in `cs`. -/
def CutsTag (tag cs : List Char) (cut : Cut) : Prop :=
  cut = .tag tag ∨ ∃ value, cut = .value value ∧ value <:+ cs ∧ OpensQuote value

theorem CutsTag.of_suffix {tag after cs : List Char} {cut : Cut}
    (cutOff : CutsTag tag after cut) (suffix : after <:+ cs) : CutsTag tag cs cut := by
  rcases cutOff with whole | ⟨value, same, inside, opens⟩
  · exact .inl whole
  · exact .inr ⟨value, same, inside.trans suffix, opens⟩

theorem cutsTag_of_readAttributes {tag cs : List Char} {cut : Cut}
    (failed : readAttributes tag cs = .error cut) : CutsTag tag cs cut := by
  fun_induction readAttributes tag cs with
  | case1 =>
      cases failed
      exact .inl rfl
  | case2 => cases failed
  | case3 => cases failed
  | case4 cs rest _ starts inductionHypothesis =>
      have behind := (List.suffix_cons '/' rest).trans (suffix_of_trimStart starts)
      exact (inductionHypothesis failed).of_suffix behind
  | case5 cs rest _ _ _ starts inductionHypothesis =>
      have behind := (List.suffix_cons '=' rest).trans (suffix_of_trimStart starts)
      exact (inductionHypothesis failed).of_suffix behind
  | case6 cs c rest _ _ _ starts _ more equals found valued =>
      cases failed
      obtain ⟨same, opens⟩ := readAttributeValue_error valued
      have behind := (List.suffix_cons '=' more).trans
        (suffix_of_attributeName starts equals)
      exact .inr ⟨_, same, (suffix_of_trimStart rfl).trans behind, opens⟩
  | case7 cs c rest _ _ _ starts _ _ more equals value after valued _
      inductionHypothesis =>
      have cutOff := inductionHypothesis (readAttributes_map_error failed)
      obtain ⟨front, shape, -⟩ := readAttributeValue_local valued
      have behindEquals := (List.suffix_cons '=' more).trans
        (suffix_of_attributeName starts equals)
      have behindValue : after <:+ more :=
        (shape ▸ List.suffix_append front after).trans (suffix_of_trimStart rfl)
      exact cutOff.of_suffix (behindValue.trans behindEquals)
  | case8 cs c rest _ _ _ starts _ _ _ inductionHypothesis =>
      have cutOff := inductionHypothesis (readAttributes_map_error failed)
      exact cutOff.of_suffix (suffix_of_attributeName starts rfl)

/-! ## What a text starts with -/

theorem pieces_declaration {body : List Char} (noComment : ¬ ['-', '-'] <+: body) :
    pieces ('<' :: '!' :: body) =
      match splitAt? '>' body with
      | some (_, rest) => pieces rest
      | none => ([], some (.tag ('<' :: '!' :: body))) := by
  rw [pieces]
  · split <;> simp_all
  · rintro rest rfl
    exact noComment ⟨rest, rfl⟩

theorem pieces_openComment {body : List Char} (noEnd : splitComment? body = none) :
    pieces ('<' :: '!' :: '-' :: '-' :: body) =
      ([], some (.comment ('<' :: '!' :: '-' :: '-' :: body))) := by
  rw [pieces]
  split <;> simp_all

theorem pieces_openClosing {body : List Char} (noEnd : splitAt? '>' body = none) :
    pieces ('<' :: '/' :: body) = ([], some (.tag ('<' :: '/' :: body))) := by
  rw [pieces]
  split <;> simp_all

theorem pieces_openTag {c : Char} {rest : List Char} (letter : c.isAlpha = true)
    {cut : Cut} (failed : readAttributes ('<' :: c :: rest)
      ((c :: rest).dropWhile isTagChar) = .error cut) :
    pieces ('<' :: c :: rest) = ([], some cut) := by
  rw [pieces]
  · simp only [List.head?_cons, Option.any_some, letter, and_self, if_true]
    split <;> simp_all
  all_goals
    intro behind _ shape
    cases shape
    exact absurd letter (by decide)

theorem pieces_selfClosingTag {c : Char} {rest : List Char} (letter : c.isAlpha = true)
    {attributes : List Attribute} {body : List Char}
    (read : readAttributes ('<' :: c :: rest)
      ((c :: rest).dropWhile isTagChar) = .ok (attributes, true, body)) :
    pieces ('<' :: c :: rest) =
      addPiece (.leaf (lowered ((c :: rest).takeWhile isTagChar)) attributes)
        (pieces body) := by
  rw [pieces]
  · simp only [List.head?_cons, Option.any_some, letter, and_self, if_true]
    split <;> simp_all
  all_goals
    intro behind _ shape
    cases shape
    exact absurd letter (by decide)

/-! ## Fronts that read by themselves -/

/-- What is read in front of `after` stays the same when the text ends there,
or goes on with the same character. -/
structure ReadsOn (cs : List Char) (ps : List Piece) (front after : List Char) :
    Prop where
  shape : cs = front ++ after
  filled : front ≠ []
  again : ∀ other : List Char, other = [] ∨ other.head? = after.head? →
    pieces (front ++ other) = (ps ++ (pieces other).1, (pieces other).2)

/-- The construct that starts with `rest` and that the end of it cuts off. -/
inductive CutAt (rest : List Char) : Cut → Prop where
  | comment : CutAt rest (.comment rest)
  | tag (starts : rest.head? = some '<') : CutAt rest (.tag rest)
  | value (c : Char) (inside value : List Char) (letter : c.isAlpha = true)
    (shape : rest = '<' :: c :: inside)
    (failed : readAttributes rest ((c :: inside).dropWhile isTagChar) =
      .error (.value value))
    (suffix : value <:+ c :: inside) (opens : OpensQuote value) :
    CutAt rest (.value value)

/-- A text whose end cuts off a construct: the front in front of it, and the
text from its start on. -/
structure Truncated (cs : List Char) (ps : List Piece) (cut : Cut)
    (front rest : List Char) : Prop where
  shape : cs = front ++ rest
  whole : pieces front = (ps, none)
  cutAt : CutAt rest cut
  /-- A comment is complete once its end mark is added. -/
  completed : cut = .comment rest →
    pieces (cs ++ ['-', '-', '>']) = (ps ++ [.comment (rest.drop 4)], none)

theorem readsOn_comment {body text after : List Char}
    (ended : splitComment? body = some (text, after)) :
    ∃ front, ReadsOn ('<' :: '!' :: '-' :: '-' :: body) [.comment text] front after := by
  obtain ⟨shape, absent⟩ := eq_append_of_splitComment? ended
  refine ⟨'<' :: '!' :: '-' :: '-' :: (text ++ ['-', '-', '>']), by simp [shape],
    by simp, fun other _ => ?_⟩
  have step := pieces_comment (splitComment?_append absent other)
  simpa [addPiece] using step

theorem readsOn_closing {body name after : List Char}
    (ended : splitAt? '>' body = some (name, after)) :
    ∃ front, ReadsOn ('<' :: '/' :: body)
      [.closing (lowered (Text.trim name))] front after := by
  obtain ⟨shape, absent⟩ := eq_append_of_splitAt? ended
  refine ⟨'<' :: '/' :: (name ++ ['>']), by simp [shape], by simp, fun other _ => ?_⟩
  have step := pieces_closing (splitAt?_append absent other)
  simpa [addPiece] using step

/-- A mark without the character that ends a text cannot reach behind it. -/
theorem prefix_of_prefix_append_stop {α : Type} {stop : α} {word before other : List α}
    (absent : stop ∉ word) (starts : word <+: before ++ stop :: other) :
    word <+: before := by
  rcases List.prefix_or_prefix_of_prefix starts (List.prefix_append before _) with
    inside | ⟨behind, rfl⟩
  · exact inside
  · cases behind with
    | nil =>
        rw [List.append_nil]
    | cons x behind =>
        rw [List.prefix_append_right_inj, List.cons_prefix_cons] at starts
        simp [starts.1] at absent

theorem readsOn_declaration {body skipped after : List Char}
    (noComment : ¬ ['-', '-'] <+: body)
    (ended : splitAt? '>' body = some (skipped, after)) :
    ∃ front, ReadsOn ('<' :: '!' :: body) [] front after := by
  obtain ⟨shape, absent⟩ := eq_append_of_splitAt? ended
  refine ⟨'<' :: '!' :: (skipped ++ ['>']), by simp [shape], by simp,
    fun other _ => ?_⟩
  have stillNoComment : ¬ ['-', '-'] <+: skipped ++ '>' :: other := by
    intro starts
    have inside := prefix_of_prefix_append_stop (by decide) starts
    exact noComment (shape ▸ inside.trans (List.prefix_append _ _))
  have step := pieces_declaration stillNoComment
  rw [splitAt?_append absent] at step
  simpa using step

theorem readsOn_text {c : Char} {rest : List Char}
    (noMarkup : c = '<' → ∀ d ∈ rest.head?, d ≠ '!' ∧ d ≠ '/' ∧ d.isAlpha = false) :
    ReadsOn (c :: rest) [.text (c :: rest.takeWhile (· ≠ '<'))]
      (c :: rest.takeWhile (· ≠ '<')) (rest.dropWhile (· ≠ '<')) := by
  have tiles : rest.takeWhile (· ≠ '<') ++ rest.dropWhile (· ≠ '<') = rest :=
    List.takeWhile_append_dropWhile
  refine ⟨by rw [List.cons_append, tiles], by simp, fun other follows => ?_⟩
  have stop : ∀ d ∈ other.head?, (decide (d ≠ '<')) = false := by
    intro d first
    rcases follows with rfl | alike
    · cases first
    · have stop := List.head?_dropWhile_not (fun d => decide (d ≠ '<')) rest
      rw [← alike, first] at stop
      exact stop
  obtain ⟨taken, dropped⟩ := takeWhile_append_stop
    (fun d member => List.mem_takeWhile_imp member) stop
  have stillNoMarkup : c = '<' → ∀ d ∈ (rest.takeWhile (· ≠ '<') ++ other).head?,
      d ≠ '!' ∧ d ≠ '/' ∧ d.isAlpha = false := by
    intro opens d first
    cases word : rest.takeWhile (· ≠ '<') with
    | nil =>
        rw [word, List.nil_append] at first
        have isOpening : d = '<' := by simpa using stop d first
        subst isOpening
        decide
    | cons e word =>
        rw [word] at first
        cases first
        exact noMarkup opens d (by rw [← tiles, word]; rfl)
  have step := pieces_text stillNoMarkup
  rw [taken, dropped] at step
  simpa [addPiece] using step

theorem isTagChar_of_isAlpha {c : Char} (letter : c.isAlpha = true) :
    isTagChar c = true := by
  have bounds : 65 ≤ c.toNat ∧ c.toNat ≤ 122 := by
    simp only [Char.isAlpha, Char.isUpper, Char.isLower, ge_iff_le, Bool.or_eq_true,
      Bool.and_eq_true, decide_eq_true_eq, UInt32.le_iff_toNat_le] at letter
    have value : c.val.toNat = c.toNat := rfl
    simp only [value] at letter
    rcases letter with ⟨low, high⟩ | ⟨low, high⟩
    · exact ⟨low, high.trans (by decide)⟩
    · exact ⟨le_trans (by decide) low, high⟩
  have solid : Text.isBlank c = false := by
    simp only [Text.isBlank, Text.covers, Text.blankRanges, List.any_cons, List.any_nil,
      Bool.or_false, Bool.or_eq_false_iff, Bool.and_eq_false_iff, decide_eq_false_iff_not]
    omega
  have notClosing : c ≠ '>' := by
    rintro rfl
    contradiction
  have notSlash : c ≠ '/' := by
    rintro rfl
    contradiction
  simp [isTagChar, solid, notClosing, notSlash]

/-- A tag is read with its attributes up to the mark that ends it. -/
theorem tag_local {c : Char} {rest : List Char} (letter : c.isAlpha = true)
    {attributes : List Attribute} {closed : Bool} {body : List Char}
    (read : readAttributes ('<' :: c :: rest)
      ((c :: rest).dropWhile isTagChar) = .ok (attributes, closed, body)) :
    ∃ front, rest = front ++ body ∧ ∀ other,
      (c :: (front ++ other)).takeWhile isTagChar = (c :: rest).takeWhile isTagChar ∧
        ∀ start, readAttributes start ((c :: (front ++ other)).dropWhile isTagChar) =
          .ok (attributes, closed, other) := by
  obtain ⟨behind, filled, shape, again⟩ := readAttributes_local read
  have tiles : (c :: rest).takeWhile isTagChar ++ (c :: rest).dropWhile isTagChar =
      c :: rest :=
    List.takeWhile_append_dropWhile
  have inTag := isTagChar_of_isAlpha letter
  have name : (c :: rest).takeWhile isTagChar = c :: rest.takeWhile isTagChar := by
    rw [List.takeWhile_cons, if_pos inTag]
  rw [shape, name, List.cons_append, List.cons.injEq] at tiles
  refine ⟨rest.takeWhile isTagChar ++ behind, ?_, fun other => ?_⟩
  · rw [List.append_assoc]
    exact tiles.2.symm
  have alike : (behind ++ other).head? = ((c :: rest).dropWhile isTagChar).head? := by
    rw [shape, List.head?_append_of_ne_nil _ filled,
      List.head?_append_of_ne_nil _ filled]
  obtain ⟨taken, dropped⟩ := dropWhile_local isTagChar (c :: rest) alike
  rw [name, List.cons_append, ← List.append_assoc] at taken dropped
  rw [taken, dropped, name]
  exact ⟨rfl, fun start => again start other⟩

/-- What a text starts with: something that reads by itself, something that its
end cuts off, or a raw element that goes on to its end. -/
inductive Start (cs : List Char) : Prop where
  | readsOn (ps : List Piece) (front after : List Char)
    (readsOn : ReadsOn cs ps front after) : Start cs
  | truncated (ps : List Piece) (cut : Cut) (front rest : List Char)
    (read : pieces cs = (ps, some cut)) (truncated : Truncated cs ps cut front rest) :
    Start cs
  | complete (complete : (pieces cs).2 = none) : Start cs

theorem Truncated.ofStart {cs : List Char} {cut : Cut} (cutAt : CutAt cs cut)
    (completed : cut = .comment cs →
      pieces (cs ++ ['-', '-', '>']) = ([.comment (cs.drop 4)], none)) :
    Truncated cs [] cut [] cs :=
  ⟨rfl, by rw [pieces], cutAt, completed⟩

theorem start_comment (body : List Char) : Start ('<' :: '!' :: '-' :: '-' :: body) := by
  cases ended : splitComment? body with
  | some found =>
      obtain ⟨front, readsOn⟩ := readsOn_comment ended
      exact .readsOn _ _ _ readsOn
  | none =>
      refine .truncated _ _ _ _ (pieces_openComment ended)
        (.ofStart .comment fun _ => ?_)
      have absent := notInfix_of_splitComment? ended
      have step := pieces_comment (splitComment?_append absent [])
      rw [pieces] at step
      simpa [addPiece] using step

theorem start_closing (body : List Char) : Start ('<' :: '/' :: body) := by
  cases ended : splitAt? '>' body with
  | some found =>
      obtain ⟨front, readsOn⟩ := readsOn_closing ended
      exact .readsOn _ _ _ readsOn
  | none =>
      exact .truncated _ _ _ _ (pieces_openClosing ended)
        (.ofStart (.tag rfl) (by simp))

theorem start_declaration {body : List Char} (noComment : ¬ ['-', '-'] <+: body) :
    Start ('<' :: '!' :: body) := by
  cases ended : splitAt? '>' body with
  | some found =>
      obtain ⟨front, readsOn⟩ := readsOn_declaration noComment ended
      exact .readsOn _ _ _ readsOn
  | none =>
      have read := pieces_declaration noComment
      rw [ended] at read
      exact .truncated _ _ _ _ read (.ofStart (.tag rfl) (by simp))

theorem isLower_toLower_of_isUpper {c : Char}
    (upper : c.val ≥ 'A'.val ∧ c.val ≤ 'Z'.val) : c.toLower.isLower = true := by
  have low : 65 ≤ c.val.toNat := UInt32.le_iff_toNat_le.1 upper.1
  have high : c.val.toNat ≤ 90 := UInt32.le_iff_toNat_le.1 upper.2
  have shifted : (c.val + ('a'.val - 'A'.val)).toNat = c.val.toNat + 32 := by
    rw [UInt32.toNat_add]
    exact Nat.mod_eq_of_lt (by omega : c.val.toNat + 32 < 2 ^ 32)
  have first : 'a'.val ≤ c.val + ('a'.val - 'A'.val) := by
    rw [UInt32.le_iff_toNat_le, shifted]
    exact (by omega : 97 ≤ c.val.toNat + 32)
  have last : c.val + ('a'.val - 'A'.val) ≤ 'z'.val := by
    rw [UInt32.le_iff_toNat_le, shifted]
    exact (by omega : c.val.toNat + 32 ≤ 122)
  rw [Char.toLower, dif_pos upper, Char.isLower, decide_eq_true first,
    decide_eq_true last]
  rfl

/-- Lowering a text puts letters only where letters stood. -/
theorem eq_of_toLower_eq {c mark : Char} (same : c.toLower = mark)
    (noLetter : mark.isLower = false) : c = mark := by
  by_cases upper : c.val ≥ 'A'.val ∧ c.val ≤ 'Z'.val
  · have lower := isLower_toLower_of_isUpper upper
    rw [same, noLetter] at lower
    contradiction
  · rw [Char.toLower, dif_neg upper] at same
    exact same

/-- The content of a raw element goes up to the next closing tag of its name. -/
theorem rawTag_local {c : Char} {rest : List Char} (letter : c.isAlpha = true)
    {attributes : List Attribute} {body : List Char}
    (read : readAttributes ('<' :: c :: rest)
      ((c :: rest).dropWhile isTagChar) = .ok (attributes, false, body))
    {tag : String} (named : lowered ((c :: rest).takeWhile isTagChar) = tag)
    (raw : isRaw tag = true) :
    ∃ front, rest = front ++ body ∧ ∀ other content after,
      splitBefore ('<' :: '/' :: tag.toList) other = (content, after) →
      pieces ('<' :: c :: (front ++ other)) =
        if after = [] then ([.raw tag attributes content], none)
        else
          match splitAt? '>' after with
          | some (_, tail) => addPiece (.raw tag attributes content) (pieces tail)
          | none => ([.raw tag attributes content], some (.tag after)) := by
  have notVoid : isVoid tag ≠ true := by
    rcases rawTag_cases raw with rfl | rfl <;> decide
  obtain ⟨front, shape, again⟩ := tag_local letter read
  refine ⟨front, shape, fun other content after split => ?_⟩
  obtain ⟨taken, readAgain⟩ := again other
  rw [← taken] at named
  have step := pieces_tag letter named (readAgain _)
  rw [if_neg notVoid, if_pos raw, split] at step
  exact step

theorem start_raw {c : Char} {rest : List Char} (letter : c.isAlpha = true)
    {attributes : List Attribute} {body : List Char}
    (read : readAttributes ('<' :: c :: rest)
      ((c :: rest).dropWhile isTagChar) = .ok (attributes, false, body))
    {tag : String} (named : lowered ((c :: rest).takeWhile isTagChar) = tag)
    (raw : isRaw tag = true) : Start ('<' :: c :: rest) := by
  have once : '<' ∉ '/' :: tag.toList := by
    rcases rawTag_cases raw with rfl | rfl <;> decide
  have noStop : '>' ∉ '<' :: '/' :: tag.toList := by
    rcases rawTag_cases raw with rfl | rfl <;> decide
  obtain ⟨front, shape, again⟩ := rawTag_local letter read named raw
  have filled : '<' :: '/' :: tag.toList ≠ [] := by simp
  obtain ⟨tiles, absent, starts⟩ := splitBefore_spec filled body
  cases found : splitBefore ('<' :: '/' :: tag.toList) body with
  | mk content after =>
      rw [found] at tiles absent starts
      dsimp only at tiles absent starts
      have whole := again body content after found
      rw [← shape] at whole
      by_cases toEnd : after = []
      · rw [if_pos toEnd] at whole
        exact .complete (by rw [whole])
      · rw [if_neg toEnd] at whole
        have closing := starts toEnd
        cases ended : splitAt? '>' after with
        | some result =>
            obtain ⟨name, tail⟩ := result
            obtain ⟨rfl, noMark⟩ := eq_append_of_splitAt? ended
            refine .readsOn [.raw tag attributes content]
              ('<' :: c :: (front ++ (content ++ (name ++ ['>'])))) tail
              ⟨by simp [shape, ← tiles], by simp, fun other _ => ?_⟩
            have stillCloses : startsWithWord ('<' :: '/' :: tag.toList)
                (name ++ '>' :: other) = true := by
              rw [startsWithWord_iff, List.map_append] at closing ⊢
              have inName := prefix_of_prefix_append_stop noStop closing
              exact inName.trans (List.prefix_append _ _)
            have step := again _ _ _ (splitBefore_append once absent stillCloses)
            simpa [splitAt?_append noMark, addPiece] using step
        | none =>
            rw [ended] at whole
            refine .truncated _ _ ('<' :: c :: (front ++ content)) after whole
              ⟨by simp [shape, ← tiles], ?_, .tag ?_, by simp⟩
            · have step := again _ _ _ (splitBefore_eq_self absent)
              rwa [if_pos rfl] at step
            · cases after with
              | nil => exact absurd rfl toEnd
              | cons d after =>
                  simp only [startsWithWord, Bool.and_eq_true, decide_eq_true_eq]
                    at closing
                  rw [eq_of_toLower_eq closing.1 (by decide)]
                  rfl

theorem start_tag {c : Char} {rest : List Char} (letter : c.isAlpha = true) :
    Start ('<' :: c :: rest) := by
  cases read : readAttributes ('<' :: c :: rest) ((c :: rest).dropWhile isTagChar) with
  | error cut =>
      refine .truncated _ _ _ _ (pieces_openTag letter read) (.ofStart ?_ ?_)
      · rcases cutsTag_of_readAttributes read with rfl | ⟨value, rfl, suffix, opens⟩
        · exact .tag rfl
        · exact .value c rest value letter rfl read
            (suffix.trans (List.dropWhile_suffix _)) opens
      · rintro rfl
        rcases cutsTag_of_readAttributes read with whole | ⟨value, inside, -⟩
        · cases whole
        · cases inside
  | ok found =>
      obtain ⟨attributes, closed, body⟩ := found
      obtain ⟨front, shape, again⟩ := tag_local letter read
      cases closed with
      | true =>
          refine .readsOn [.leaf (lowered ((c :: rest).takeWhile isTagChar)) attributes]
            ('<' :: c :: front) body ⟨by simp [shape], by simp, fun other _ => ?_⟩
          obtain ⟨taken, readAgain⟩ := again other
          have step := pieces_selfClosingTag letter (readAgain _)
          rw [taken] at step
          simpa [addPiece] using step
      | false =>
          by_cases raw : isRaw (lowered ((c :: rest).takeWhile isTagChar)) = true
          · exact start_raw letter read rfl raw
          · by_cases void : isVoid (lowered ((c :: rest).takeWhile isTagChar)) = true
            · refine .readsOn
                [.leaf (lowered ((c :: rest).takeWhile isTagChar)) attributes]
                ('<' :: c :: front) body ⟨by simp [shape], by simp, fun other _ => ?_⟩
              obtain ⟨taken, readAgain⟩ := again other
              have step := pieces_tag letter (congrArg lowered taken) (readAgain _)
              rw [if_pos void] at step
              simpa [addPiece] using step
            · refine .readsOn
                [.opening (lowered ((c :: rest).takeWhile isTagChar)) attributes]
                ('<' :: c :: front) body ⟨by simp [shape], by simp, fun other _ => ?_⟩
              obtain ⟨taken, readAgain⟩ := again other
              have step := pieces_tag letter (congrArg lowered taken) (readAgain _)
              rw [if_neg void, if_neg raw] at step
              simpa [addPiece] using step

theorem start_cons (c : Char) (rest : List Char) : Start (c :: rest) := by
  by_cases opens : c = '<'
  · subst opens
    cases rest with
    | nil => exact .readsOn _ _ _ (readsOn_text (by simp))
    | cons d body =>
        by_cases closing : d = '/'
        · subst closing
          exact start_closing body
        · by_cases declaration : d = '!'
          · subst declaration
            by_cases comment : ['-', '-'] <+: body
            · obtain ⟨body, rfl⟩ := comment
              exact start_comment body
            · exact start_declaration comment
          · by_cases letter : d.isAlpha = true
            · exact start_tag letter
            · refine .readsOn _ _ _ (readsOn_text fun _ e first => ?_)
              cases first
              exact ⟨declaration, closing, by simpa using letter⟩
  · exact .readsOn _ _ _ (readsOn_text fun same => absurd same opens)

/-- Reading stops early only at a construct that the end cuts off, and what is in
front of it reads by itself. -/
theorem exists_truncated {cs : List Char} {ps : List Piece} {cut : Cut}
    (read : pieces cs = (ps, some cut)) :
    ∃ front rest, Truncated cs ps cut front rest := by
  induction size : cs.length using Nat.strong_induction_on generalizing cs ps with
  | _ size inductionHypothesis =>
      subst size
      cases cs with
      | nil =>
          rw [pieces] at read
          cases read
      | cons c rest =>
          cases start_cons c rest with
          | complete complete =>
              rw [read] at complete
              cases complete
          | truncated ps' cut' front rest read' truncated =>
              rw [read] at read'
              cases read'
              exact ⟨front, rest, truncated⟩
          | readsOn first front after readsOn =>
              obtain ⟨shape, filled, again⟩ := readsOn
              have shorter : after.length < (c :: rest).length := by
                have positive := List.length_pos_iff.2 filled
                rw [shape, List.length_append]
                omega
              have whole := again after (.inr rfl)
              rw [← shape, read] at whole
              cases later : pieces after with
              | mk others cut' =>
                  rw [later] at whole
                  cases whole
                  obtain ⟨behind, cutOff, truncated⟩ :=
                    inductionHypothesis _ shorter later rfl
                  refine ⟨front ++ behind, cutOff, ?_, ?_, truncated.cutAt, ?_⟩
                  · rw [shape, truncated.shape, List.append_assoc]
                  · have follows : behind = [] ∨ behind.head? = after.head? := by
                      cases behind with
                      | nil => exact .inl rfl
                      | cons d behind => exact .inr (by rw [truncated.shape]; rfl)
                    rw [again behind follows, truncated.whole]
                  · intro comment
                    have continued : after ≠ [] := by
                      rintro rfl
                      rw [pieces] at later
                      cases later
                    have follows : (after ++ ['-', '-', '>']).head? = after.head? :=
                      List.head?_append_of_ne_nil _ continued
                    have completed := truncated.completed comment
                    rw [shape, List.append_assoc, again _ (.inr follows), completed,
                      List.append_assoc]

end LivePages.Markup
