import LivePages.Proofs.Markup.Truncation

/-!
# What the lenient reading recovers

The lenient reading gives nothing of its own.  Where the strict reading has a
result it is the same, and where the strict reading meets the end of the text
inside a construct it is the strict result for a part of the text, or for the
text with the missing mark.
-/

namespace LivePages.Markup

/-- The two ways to meet an element nested too deep or a construct that is cut
off. -/
inductive Mode where
  | strict
  | lenient
deriving DecidableEq

/-- One step of either reading. -/
def Forest.buildIn (mode : Mode) (f : Forest) (p : Piece) : Except ParseError Forest :=
  match f.build? p, mode with
  | some g, _ => .ok g
  | none, .strict => .error (.nestingTooDeep maxNesting)
  | none, .lenient => .ok (f.buildLeniently p)

/-- Either reading, with the errors that it meets. -/
def parseIn (mode : Mode) (markup : String) : Except ParseError (List Node) := do
  let (ps, cut) := pieces markup.toList
  let f ← ps.foldlM (Forest.buildIn mode) Forest.empty
  match cut, mode with
  | some cut, .strict => .error (cut.error markup.toList)
  | cut, _ => .ok (f.recover cut).finish

theorem foldlM_buildIn_lenient (ps : List Piece) (f : Forest) :
    ps.foldlM (Forest.buildIn .lenient) f = .ok (ps.foldl Forest.buildLeniently f) := by
  induction ps generalizing f with
  | nil => rfl
  | cons p ps inductionHypothesis =>
      have step : f.buildIn .lenient p = .ok (f.buildLeniently p) := by
        cases built : f.build? p with
        | none => simp [Forest.buildIn, built]
        | some g => simp [Forest.buildIn, Forest.buildLeniently, built]
      rw [List.foldlM_cons, step]
      exact inductionHypothesis _

theorem foldlM_buildIn_strict (ps : List Piece) (f : Forest) :
    ps.foldlM (Forest.buildIn .strict) f =
      (ps.foldlM Forest.build? f).elim (.error (.nestingTooDeep maxNesting)) .ok := by
  induction ps generalizing f with
  | nil => rfl
  | cons p ps inductionHypothesis =>
      rw [List.foldlM_cons, List.foldlM_cons]
      cases built : f.build? p with
      | none =>
          have step : f.buildIn .strict p = .error (.nestingTooDeep maxNesting) := by
            simp [Forest.buildIn, built]
          rw [step]
          rfl
      | some g =>
          have step : f.buildIn .strict p = .ok g := by
            simp [Forest.buildIn, built]
          rw [step]
          exact inductionHypothesis g

theorem parseIn_strict (markup : String) : parseIn .strict markup = parse markup := by
  rw [parse, parseChars, parseIn]
  cases pieces markup.toList with
  | mk ps cut =>
      dsimp only
      rw [foldlM_buildIn_strict]
      cases ps.foldlM Forest.build? Forest.empty with
      | none => rfl
      | some f => cases cut <;> rfl

theorem parseIn_lenient (markup : String) :
    parseIn .lenient markup = .ok (parseLeniently markup) := by
  rw [parseLeniently, parseCharsLeniently, parseIn]
  cases pieces markup.toList with
  | mk ps cut =>
      dsimp only
      rw [foldlM_buildIn_lenient]
      cases cut <;> rfl

/-! ## Results of the strict reading -/

theorem byteLength_toList (text : String) :
    Text.byteLength text.toList = text.utf8ByteSize := by
  have lengths : ∀ cs : List Char,
      Text.byteLength cs = (String.ofList cs).utf8ByteSize := by
    intro cs
    induction cs with
    | nil => rfl
    | cons c cs inductionHypothesis =>
        rw [Text.byteLength, inductionHypothesis, String.ofList_cons,
          String.utf8ByteSize_append, String.utf8ByteSize_singleton]
  rw [lengths, String.ofList_toList]

theorem parse_of_pieces {cs : List Char} {ps : List Piece} {f : Forest}
    (read : pieces cs = (ps, none))
    (built : ps.foldlM Forest.build? Forest.empty = some f) :
    parse (String.ofList cs) = .ok f.finish := by
  rw [parse, String.toList_ofList, parseChars, read]
  dsimp only
  rw [built]

/-- A text is refused because an element is nested too deep, or because its end
cuts a construct off. -/
theorem exists_pieces_of_parse_error {markup : String} {error : ParseError}
    (refused : parse markup = .error error)
    (shallow : error ≠ .nestingTooDeep maxNesting) :
    ∃ ps cut f, pieces markup.toList = (ps, some cut) ∧
      ps.foldlM Forest.build? Forest.empty = some f ∧
      error = cut.error markup.toList := by
  rw [parse, parseChars] at refused
  cases read : pieces markup.toList with
  | mk ps cut =>
      rw [read] at refused
      dsimp only at refused
      cases built : ps.foldlM Forest.build? Forest.empty with
      | none =>
          rw [built] at refused
          cases refused
          exact absurd rfl shallow
      | some f =>
          rw [built] at refused
          cases cut with
          | none => cases refused
          | some cut =>
              cases refused
              exact ⟨ps, cut, f, rfl, built, rfl⟩

theorem parseLeniently_of_ok {markup : String} {nodes : List Node}
    (read : parse markup = .ok nodes) : parseLeniently markup = nodes := by
  rw [parse, parseChars] at read
  rw [parseLeniently, parseCharsLeniently]
  cases found : pieces markup.toList with
  | mk ps cut =>
      rw [found] at read
      dsimp only at read ⊢
      cases built : ps.foldlM Forest.build? Forest.empty with
      | none =>
          rw [built] at read
          cases read
      | some f =>
          rw [built] at read
          cases cut with
          | none =>
              cases read
              rw [foldl_buildLeniently built]
              rfl
          | some cut => cases read

/-! ## Texts that are cut off -/

/-- What the two readings make of a text that is cut off. -/
structure Recovers (markup before after : String) (cut : Cut) : Prop where
  shape : markup = before ++ after
  cutAt : CutAt after.toList cut
  /-- The text in front of what is cut off is read strictly. -/
  front : (∀ rest, cut ≠ .comment rest) → parse before = .ok (parseLeniently markup)
  completed : cut = .comment after.toList →
    parse (markup ++ "-->") = .ok (parseLeniently markup)

theorem exists_recovers {markup : String} {error : ParseError}
    (refused : parse markup = .error error)
    (shallow : error ≠ .nestingTooDeep maxNesting) :
    ∃ before after cut, Recovers markup before after cut ∧
      error = cut.error markup.toList := by
  obtain ⟨ps, cut, f, read, built, rfl⟩ := exists_pieces_of_parse_error refused shallow
  obtain ⟨front, rest, truncated⟩ := exists_truncated read
  have leniently : parseLeniently markup = (f.recover (some cut)).finish := by
    rw [parseLeniently, parseCharsLeniently, read]
    dsimp only
    rw [foldl_buildLeniently built]
  refine ⟨String.ofList front, String.ofList rest, cut, ⟨?_, ?_, ?_, ?_⟩, rfl⟩
  · rw [← String.ofList_append, ← truncated.shape, String.ofList_toList]
  · rw [String.toList_ofList]
    exact truncated.cutAt
  · intro noComment
    rw [parse_of_pieces truncated.whole built, leniently]
    cases cut with
    | comment rest => exact absurd rfl (noComment rest)
    | tag rest => rfl
    | value rest => rfl
  · intro comment
    rw [String.toList_ofList] at comment
    have read := truncated.completed comment
    have grown : (ps ++ [Piece.comment (rest.drop 4)]).foldlM Forest.build?
        Forest.empty = some (f.add (.comment (String.ofList (rest.drop 4)))) := by
      rw [List.foldlM_append, built]
      rfl
    have whole : markup ++ "-->" =
        String.ofList (markup.toList ++ ['-', '-', '>']) := by
      rw [String.ofList_append, String.ofList_toList]
    rw [whole, parse_of_pieces read grown, leniently, comment]
    rfl

theorem offset_eq {markup before after : String} (shape : markup = before ++ after) :
    Text.byteLength markup.toList - Text.byteLength after.toList =
      before.utf8ByteSize := by
  rw [shape, String.toList_append, Text.byteLength_append, byteLength_toList,
    Nat.add_sub_cancel_right]

theorem eq_append_of_head {after : String} (starts : after.toList.head? = some '<') :
    ∃ rest, after = "<" ++ rest := by
  obtain ⟨rest, opening⟩ := List.head?_eq_some_iff.1 starts
  refine ⟨String.ofList rest, ?_⟩
  rw [← String.ofList_toList (s := after), opening, String.ofList_cons]
  rfl

/-- Behind `<`, a tag starts whose reading stops at a quote without another. -/
structure StopsInValue (tag value : String) : Prop where
  letter : tag.toList.head?.any Char.isAlpha = true
  opens : OpensQuote value.toList
  stops : readAttributes ("<" ++ tag).toList (tag.toList.dropWhile isTagChar) =
    .error (.value value.toList)

theorem CutAt.exists_stopsInValue {after : String} {value : List Char}
    (cutAt : CutAt after.toList (.value value)) :
    ∃ tag, after = "<" ++ tag ++ String.ofList value ∧
      StopsInValue (tag ++ String.ofList value) (String.ofList value) := by
  cases cutAt with
  | value c inside _ letter shape failed suffix opens =>
      obtain ⟨front, tiles⟩ := suffix
      have tag : (String.ofList front ++ String.ofList value).toList = c :: inside := by
        rw [String.toList_append, String.toList_ofList, String.toList_ofList, tiles]
      have whole : "<" ++ (String.ofList front ++ String.ofList value) = after := by
        rw [← String.toList_inj, String.toList_append, tag, shape]
        rfl
      refine ⟨String.ofList front, ?_, ?_, ?_, ?_⟩
      · rw [String.append_assoc, whole]
      · rw [tag]
        exact letter
      · rwa [String.toList_ofList]
      · rw [tag, whole, String.toList_ofList]
        exact failed

instance decidableRefused (markup : String) (error : ParseError) :
    Decidable (parse markup = .error error) :=
  match parse markup with
  | .ok _ => isFalse nofun
  | .error found =>
      decidable_of_iff (found = error)
        ⟨congrArg _, fun same => Except.error.inj same⟩

/-- The lenient reading of any text is determined by the strict one, and never
fails. -/
theorem parse_determines_parseLeniently (markup : String) :
    (∀ nodes, parse markup = .ok nodes → parseLeniently markup = nodes) ∧
      (∀ offset, parse markup = .error (.unterminatedTag offset) →
        ∃ before after, markup = before ++ "<" ++ after ∧
          before.utf8ByteSize = offset ∧
          parse before = .ok (parseLeniently markup)) ∧
      (∀ offset, parse markup = .error (.unterminatedAttribute offset) →
        ∃ before tag value, markup = before ++ "<" ++ tag ++ value ∧
          (before ++ "<" ++ tag).utf8ByteSize = offset ∧
          StopsInValue (tag ++ value) value ∧
          parse before = .ok (parseLeniently markup)) ∧
      (∀ offset, parse markup = .error (.unterminatedComment offset) →
        parse (markup ++ "-->") = .ok (parseLeniently markup)) ∧
      parseIn .strict markup = parse markup ∧
      parseIn .lenient markup = .ok (parseLeniently markup) := by
  refine ⟨fun nodes => parseLeniently_of_ok, fun offset refused => ?_,
    fun offset refused => ?_, fun offset refused => ?_, parseIn_strict markup,
    parseIn_lenient markup⟩
  · obtain ⟨before, after, cut, recovers, error⟩ := exists_recovers refused (by simp)
    obtain ⟨shape, cutAt, front, -⟩ := recovers
    cases cutAt with
    | comment => cases error
    | value => cases error
    | tag starts =>
        rw [Cut.error, offset_eq shape] at error
        cases error
        obtain ⟨rest, rfl⟩ := eq_append_of_head starts
        refine ⟨before, rest, ?_, rfl, front (by simp)⟩
        rw [shape, String.append_assoc]
  · obtain ⟨before, after, cut, recovers, error⟩ := exists_recovers refused (by simp)
    obtain ⟨shape, cutAt, front, -⟩ := recovers
    cases cut with
    | comment => cases error
    | tag => cases error
    | value value =>
        obtain ⟨tag, rfl, stops⟩ := cutAt.exists_stopsInValue
        have whole : markup = before ++ "<" ++ tag ++ String.ofList value := by
          simp only [shape, String.append_assoc]
        have offset := offset_eq whole
        rw [String.toList_ofList] at offset
        rw [Cut.error, offset] at error
        cases error
        exact ⟨before, tag, String.ofList value, whole, rfl, stops, front (by simp)⟩
  · obtain ⟨before, after, cut, recovers, error⟩ := exists_recovers refused (by simp)
    obtain ⟨shape, cutAt, -, completed⟩ := recovers
    cases cutAt with
    | comment => exact completed rfl
    | tag => cases error
    | value => cases error

/-- Lone `<`; a closing tag of a raw element and a value that are cut off; a
comment whose text ends like the start of an end mark. -/
theorem parse_determines_parseLeniently_cutOff :
    let tag := "<p>a</p><script>if (a<b)</script"
    let value := "é<b>x</b><a id=1 title='>"
    let comment := "<ul><li>1<!-- <b> --"
    (parse "1 < 2" = .ok [.text "1 < 2"] ∧ parseLeniently "1 < 2" = [.text "1 < 2"]) ∧
      (parse tag = .error (.unterminatedTag 24) ∧
        ∃ before after, tag = before ++ "<" ++ after ∧ before.utf8ByteSize = 24 ∧
          parse before = .ok (parseLeniently tag)) ∧
      (parse value = .error (.unterminatedAttribute 24) ∧
        ∃ before tag quoted, value = before ++ "<" ++ tag ++ quoted ∧
          (before ++ "<" ++ tag).utf8ByteSize = 24 ∧
          StopsInValue (tag ++ quoted) quoted ∧
          parse before = .ok (parseLeniently value)) ∧
      (parse comment = .error (.unterminatedComment 9) ∧
        parse (comment ++ "-->") = .ok (parseLeniently comment)) := by
  intro tag value comment
  have read : parse "1 < 2" = .ok [.text "1 < 2"] := by cbv
  have tagRefused : parse tag = .error (.unterminatedTag 24) := by
    decide +kernel
  have valueRefused : parse value = .error (.unterminatedAttribute 24) := by
    decide +kernel
  have commentRefused : parse comment = .error (.unterminatedComment 9) := by
    decide +kernel
  refine ⟨⟨read, ?_⟩, ⟨tagRefused, ?_⟩, ⟨valueRefused, ?_⟩, ⟨commentRefused, ?_⟩⟩
  · exact (parse_determines_parseLeniently "1 < 2").1 _ read
  · exact (parse_determines_parseLeniently tag).2.1 24 tagRefused
  · exact (parse_determines_parseLeniently value).2.2.1 24 valueRefused
  · exact (parse_determines_parseLeniently comment).2.2.2.1 9 commentRefused

end LivePages.Markup
