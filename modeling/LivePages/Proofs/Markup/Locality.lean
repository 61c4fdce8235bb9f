import LivePages.Proofs.Markup.Attribute

/-!
# Reading takes no notice of what follows

Each reader takes a front of the text in hand, and takes the same front of any
other text that goes on in the same way behind it.  Where the front ends with a
mark it does not matter at all how the text goes on; where it ends in front of
another kind of character only this character matters.
-/

namespace LivePages.Markup

/-! ## Searches -/

theorem eq_append_of_splitAt? {stop : Char} {cs before after : List Char}
    (found : splitAt? stop cs = some (before, after)) :
    cs = before ++ stop :: after ∧ stop ∉ before := by
  induction cs generalizing before with
  | nil => cases found
  | cons c cs inductionHypothesis =>
      rw [splitAt?] at found
      by_cases here : c = stop
      · rw [if_pos here] at found
        cases found
        simp [here]
      · rw [if_neg here] at found
        obtain ⟨⟨inside, behind⟩, later, equality⟩ := Option.map_eq_some_iff.1 found
        cases equality
        obtain ⟨shape, absent⟩ := inductionHypothesis later
        refine ⟨by rw [shape]; rfl, ?_⟩
        simp [Ne.symm here, absent]

theorem eq_append_of_splitComment? {cs before after : List Char}
    (found : splitComment? cs = some (before, after)) :
    cs = before ++ '-' :: '-' :: '>' :: after ∧ ¬ ['-', '-', '>'] <:+: before := by
  fun_induction splitComment? cs generalizing before with
  | case1 => cases found
  | case2 rest =>
      cases found
      simp
  | case3 c rest notHere inductionHypothesis =>
      obtain ⟨⟨inside, behind⟩, later, equality⟩ := Option.map_eq_some_iff.1 found
      cases equality
      obtain ⟨shape, absent⟩ := inductionHypothesis later
      refine ⟨by rw [shape]; rfl, ?_⟩
      rw [List.infix_cons_iff]
      rintro (starts | inside)
      · obtain ⟨more, equality⟩ := starts
        cases equality
        exact notHere _ rfl shape
      · exact absent inside

theorem notInfix_of_splitComment? {cs : List Char} (noEnd : splitComment? cs = none) :
    ¬ ['-', '-', '>'] <:+: cs := by
  fun_induction splitComment? cs with
  | case1 => simp
  | case2 => cases noEnd
  | case3 c rest notHere inductionHypothesis =>
      rw [List.infix_cons_iff]
      rintro (starts | inside)
      · obtain ⟨more, equality⟩ := starts
        cases equality
        exact notHere _ rfl rfl
      · exact inductionHypothesis (Option.map_eq_none_iff.1 noEnd) inside

theorem splitBefore_spec {word : List Char} (filled : word ≠ []) (cs : List Char) :
    (splitBefore word cs).1 ++ (splitBefore word cs).2 = cs ∧
      (¬ word <:+: (splitBefore word cs).1.map Char.toLower) ∧
      ((splitBefore word cs).2 ≠ [] →
        startsWithWord word (splitBefore word cs).2 = true) := by
  have nowhere : ¬ word <:+: List.map Char.toLower [] := by
    simpa using filled
  induction cs with
  | nil => exact ⟨rfl, nowhere, fun later => absurd rfl later⟩
  | cons c rest inductionHypothesis =>
      obtain ⟨tiles, absent, starts⟩ := inductionHypothesis
      rw [splitBefore]
      by_cases here : startsWithWord word (c :: rest) = true
      · rw [if_pos here]
        exact ⟨rfl, nowhere, fun _ => here⟩
      · rw [if_neg here]
        refine ⟨congrArg (c :: ·) tiles, ?_, starts⟩
        dsimp only
        rw [List.map_cons, List.infix_cons_iff]
        rintro (first | later)
        · rw [startsWithWord_iff] at here
          have front : c :: (splitBefore word rest).1 <+: c :: rest :=
            ⟨(splitBefore word rest).2, congrArg (c :: ·) tiles⟩
          exact here (first.trans (front.map Char.toLower))
        · exact absent later

/-- Characters of a kind are taken up to the same place if another kind of
character follows there. -/
theorem dropWhile_local (p : Char → Bool) (cs : List Char) {other : List Char}
    (alike : other.head? = (cs.dropWhile p).head?) :
    (cs.takeWhile p ++ other).takeWhile p = cs.takeWhile p ∧
      (cs.takeWhile p ++ other).dropWhile p = other := by
  apply takeWhile_append_stop
  · intro c member
    exact List.mem_takeWhile_imp member
  · intro c first
    have stop := List.head?_dropWhile_not p cs
    rw [← alike, first] at stop
    exact stop

theorem head?_append_congr {first second : List Char}
    (alike : first.head? = second.head?) (front : List Char) :
    (front ++ first).head? = (front ++ second).head? := by
  rw [List.head?_append, List.head?_append, alike]

theorem blanks_local (cs : List Char) :
    ∃ blanks, cs = blanks ++ Text.trimStart cs ∧ ∀ other : List Char,
      other.head? = (Text.trimStart cs).head? →
        Text.trimStart (blanks ++ other) = other := by
  refine ⟨cs.takeWhile Text.isBlank, ?_, fun other alike => ?_⟩
  · exact List.takeWhile_append_dropWhile.symm
  · exact (dropWhile_local Text.isBlank cs alike).2

/-- Behind blanks, a text starts that has none. -/
theorem trimStart_local {cs rest : List Char} {c : Char}
    (starts : Text.trimStart cs = c :: rest) :
    ∃ blanks, cs = blanks ++ c :: rest ∧ Text.isBlank c = false ∧
      ∀ other, Text.trimStart (blanks ++ c :: other) = c :: other := by
  obtain ⟨blanks, shape, again⟩ := blanks_local cs
  rw [starts] at shape again
  refine ⟨blanks, shape, ?_, fun other => again (c :: other) rfl⟩
  apply Text.head_trimStart cs
  rw [starts]
  rfl

/-! ## Attributes -/

theorem readAttributeValue_plain {cs : List Char}
    (noQuote : ∀ c ∈ cs.head?, c ≠ '"' ∧ c ≠ '\'') :
    readAttributeValue cs =
      .ok (cs.takeWhile isUnquotedChar, cs.dropWhile isUnquotedChar) := by
  unfold readAttributeValue
  split
  · simp at noQuote
  · simp at noQuote
  · rfl

theorem readAttributeValue_local {cs value after : List Char}
    (read : readAttributeValue cs = .ok (value, after)) :
    ∃ front, cs = front ++ after ∧ ∀ other : List Char,
      other.head? = after.head? →
        readAttributeValue (front ++ other) = .ok (value, other) := by
  have quoted : ∀ (quote : Char) (rest : List Char),
      (splitAt? quote rest).elim (.error (.value cs)) .ok =
        (.ok (value, after) : Except Cut _) →
      rest = value ++ quote :: after ∧ quote ∉ value := by
    intro quote rest found
    cases ended : splitAt? quote rest with
    | none =>
        rw [ended] at found
        cases found
    | some result =>
        rw [ended] at found
        cases found
        exact eq_append_of_splitAt? ended
  by_cases double : ∃ rest, cs = '"' :: rest
  · obtain ⟨rest, rfl⟩ := double
    obtain ⟨rfl, absent⟩ := quoted '"' rest read
    refine ⟨'"' :: (value ++ ['"']), by simp, fun other _ => ?_⟩
    have again := splitAt?_append absent other
    simp [readAttributeValue, again]
  · by_cases single : ∃ rest, cs = '\'' :: rest
    · obtain ⟨rest, rfl⟩ := single
      obtain ⟨rfl, absent⟩ := quoted '\'' rest read
      refine ⟨'\'' :: (value ++ ['\'']), by simp, fun other _ => ?_⟩
      have again := splitAt?_append absent other
      simp [readAttributeValue, again]
    · have noQuote : ∀ c ∈ cs.head?, c ≠ '"' ∧ c ≠ '\'' := by
        intro c first
        obtain ⟨rest, rfl⟩ := List.head?_eq_some_iff.1 first
        exact ⟨fun same => double ⟨rest, same ▸ rfl⟩,
          fun same => single ⟨rest, same ▸ rfl⟩⟩
      rw [readAttributeValue_plain noQuote] at read
      cases read
      have tiles : cs.takeWhile isUnquotedChar ++ cs.dropWhile isUnquotedChar = cs :=
        List.takeWhile_append_dropWhile
      refine ⟨cs.takeWhile isUnquotedChar, tiles.symm, fun other alike => ?_⟩
      have first := head?_append_congr alike (cs.takeWhile isUnquotedChar)
      rw [tiles] at first
      obtain ⟨taken, dropped⟩ := dropWhile_local isUnquotedChar cs alike
      rw [readAttributeValue_plain (first ▸ noQuote), taken, dropped]

theorem readAttributes_selfClosing {tag cs rest : List Char}
    (ended : Text.trimStart cs = '/' :: '>' :: rest) :
    readAttributes tag cs = .ok ([], true, rest) := by
  rw [readAttributes]
  split <;> simp_all

theorem readAttributes_slash {tag cs rest : List Char}
    (starts : Text.trimStart cs = '/' :: rest) (alone : rest.head? ≠ some '>') :
    readAttributes tag cs = readAttributes tag rest := by
  rw [readAttributes]
  split
  · simp_all
  · simp_all
  · rename_i ended
    rw [starts] at ended
    cases ended
    simp at alone
  · simp_all
  · rename_i noSlash found
    rw [starts] at found
    cases found
    exact (noSlash rfl).elim

theorem readAttributes_equals {tag cs rest : List Char}
    (starts : Text.trimStart cs = '=' :: rest) :
    readAttributes tag cs = readAttributes tag rest := by
  rw [readAttributes]
  split <;> simp_all

/-- What can stand where a tag goes on behind blanks. -/
inductive TagGoesOn : List Char → Prop where
  | ends : TagGoesOn []
  | closes (rest) : TagGoesOn ('>' :: rest)
  | closesItself (rest) : TagGoesOn ('/' :: '>' :: rest)
  | slash (rest) (alone : rest.head? ≠ some '>') : TagGoesOn ('/' :: rest)
  | equals (rest) : TagGoesOn ('=' :: rest)
  | name (c rest) (inName : isAttributeChar c = true) : TagGoesOn (c :: rest)

theorem tagGoesOn_trimStart (cs : List Char) : TagGoesOn (Text.trimStart cs) := by
  cases starts : Text.trimStart cs with
  | nil => exact .ends
  | cons c rest =>
      obtain ⟨-, -, solid, -⟩ := trimStart_local starts
      by_cases inName : isAttributeChar c = true
      · exact .name c rest inName
      · have others : c = '=' ∨ c = '>' ∨ c = '/' := by
          by_contra other
          simp_all [isAttributeChar]
        rcases others with rfl | rfl | rfl
        · exact .equals rest
        · exact .closes rest
        · by_cases closes : rest.head? = some '>'
          · obtain ⟨more, rfl⟩ := List.head?_eq_some_iff.1 closes
            exact .closesItself more
          · exact .slash rest closes

/-- The rest of a name, with the blanks behind it. -/
theorem attributeName_local (rest : List Char) :
    ∃ front, rest = front ++ Text.trimStart (rest.dropWhile isAttributeChar) ∧
      ∀ other : List Char,
        other.head? = (Text.trimStart (rest.dropWhile isAttributeChar)).head? →
          (front ++ other).takeWhile isAttributeChar =
              rest.takeWhile isAttributeChar ∧
            Text.trimStart ((front ++ other).dropWhile isAttributeChar) = other := by
  obtain ⟨blanks, shape, again⟩ := blanks_local (rest.dropWhile isAttributeChar)
  refine ⟨rest.takeWhile isAttributeChar ++ blanks, ?_, fun other alike => ?_⟩
  · rw [List.append_assoc, ← shape]
    exact List.takeWhile_append_dropWhile.symm
  · have first := head?_append_congr alike blanks
    rw [← shape] at first
    obtain ⟨taken, dropped⟩ := dropWhile_local isAttributeChar rest first
    rw [List.append_assoc, taken, dropped]
    exact ⟨rfl, again other alike⟩

theorem exists_of_readAttributes_map {tag between : List Char} {a : Attribute}
    {attributes : List Attribute} {closed : Bool} {after : List Char}
    (read : ((readAttributes tag between).map fun (as, tail) => (a :: as, tail)) =
      .ok (attributes, closed, after)) :
    ∃ more, attributes = a :: more ∧
      readAttributes tag between = .ok (more, closed, after) := by
  cases result : readAttributes tag between with
  | error cut =>
      rw [result] at read
      cases read
  | ok found =>
      obtain ⟨more, closed, after⟩ := found
      rw [result] at read
      cases read
      exact ⟨more, rfl, rfl⟩

/-- One attribute is read up to where the tag goes on behind it. -/
theorem readAttributes_name_local {tag cs rest : List Char} {c : Char}
    (starts : Text.trimStart cs = c :: rest) (inName : isAttributeChar c = true)
    {attributes : List Attribute} {closed : Bool} {after : List Char}
    (read : readAttributes tag cs = .ok (attributes, closed, after)) :
    ∃ a more front between, attributes = a :: more ∧ front ≠ [] ∧
      cs = front ++ between ∧
      readAttributes tag between = .ok (more, closed, after) ∧
      ∀ start other, other.head? = between.head? →
        readAttributes start (front ++ other) =
          (readAttributes start other).map fun (as, tail) => (a :: as, tail) := by
  obtain ⟨blanks, shape, -, behindBlanks⟩ := trimStart_local starts
  obtain ⟨word, tiles, again⟩ := attributeName_local rest
  by_cases hasValue :
      ∃ more, Text.trimStart (rest.dropWhile isAttributeChar) = '=' :: more
  · obtain ⟨more, behind⟩ := hasValue
    obtain ⟨gap, moreShape, againGap⟩ := blanks_local more
    cases valued : readAttributeValue (Text.trimStart more) with
    | error cut =>
        rw [readAttributes_name starts inName, behind] at read
        simp [valued] at read
    | ok result =>
        obtain ⟨value, between⟩ := result
        rw [readAttributes_value tag starts inName behind valued] at read
        obtain ⟨attributes, rfl, later⟩ := exists_of_readAttributes_map read
        obtain ⟨written, valueShape, againValue⟩ := readAttributeValue_local valued
        rw [valueShape] at moreShape
        refine ⟨_, attributes, blanks ++ c :: (word ++ '=' :: (gap ++ written)),
          between, rfl, by simp, ?_, later, fun start other alike => ?_⟩
        · rw [shape, tiles, behind, moreShape]
          simp
        · have first := head?_append_congr alike written
          rw [← valueShape] at first
          have valuedAgain : readAttributeValue
              (Text.trimStart (gap ++ (written ++ other))) = .ok (value, other) := by
            rw [againGap _ first, againValue other alike]
          obtain ⟨taken, dropped⟩ := again ('=' :: (gap ++ (written ++ other)))
            (by rw [behind]; rfl)
          have read := readAttributes_value start (behindBlanks _) inName dropped
            valuedAgain
          rw [taken] at read
          simpa using read
  · have noValue : ∀ d ∈ (Text.trimStart (rest.dropWhile isAttributeChar)).head?,
        d ≠ '=' := by
      rintro d first rfl
      obtain ⟨more, behind⟩ := List.head?_eq_some_iff.1 first
      exact hasValue ⟨more, behind⟩
    rw [readAttributes_bare tag starts inName rfl noValue] at read
    obtain ⟨attributes, rfl, later⟩ := exists_of_readAttributes_map read
    refine ⟨_, attributes, blanks ++ c :: word, _, rfl, by simp, ?_, later,
      fun start other alike => ?_⟩
    · rw [shape, List.append_assoc, List.cons_append, ← tiles]
    · obtain ⟨taken, dropped⟩ := again other alike
      have read := readAttributes_bare start (behindBlanks (word ++ other)) inName
        dropped (alike ▸ noValue)
      rw [taken] at read
      simpa using read

/-- Attributes are read up to the mark that ends the tag, whatever stands
behind it. -/
theorem readAttributes_local {tag cs : List Char} {attributes : List Attribute}
    {closed : Bool} {after : List Char}
    (read : readAttributes tag cs = .ok (attributes, closed, after)) :
    ∃ front, front ≠ [] ∧ cs = front ++ after ∧ ∀ start other,
      readAttributes start (front ++ other) = .ok (attributes, closed, other) := by
  induction size : cs.length using Nat.strong_induction_on
    generalizing cs attributes with
  | _ size inductionHypothesis =>
      subst size
      have goesOn := tagGoesOn_trimStart cs
      cases starts : Text.trimStart cs with
      | nil =>
          rw [readAttributes] at read
          split at read <;> simp_all
      | cons c rest =>
          rw [starts] at goesOn
          obtain ⟨blanks, shape, -, behindBlanks⟩ := trimStart_local starts
          have shorter : rest.length < cs.length := by
            rw [shape, List.length_append, List.length_cons]
            omega
          cases goesOn with
          | closes =>
              rw [readAttributes_end starts] at read
              cases read
              refine ⟨blanks ++ ['>'], by simp, by simp [shape], fun start other => ?_⟩
              rw [List.append_assoc]
              exact readAttributes_end (behindBlanks other)
          | closesItself more =>
              rw [readAttributes_selfClosing starts] at read
              cases read
              refine ⟨blanks ++ ['/', '>'], by simp, by simp [shape],
                fun start other => ?_⟩
              rw [List.append_assoc]
              exact readAttributes_selfClosing (behindBlanks ('>' :: other))
          | slash _ alone =>
              rw [readAttributes_slash starts alone] at read
              obtain ⟨front, filled, rfl, again⟩ :=
                inductionHypothesis _ shorter read rfl
              refine ⟨blanks ++ '/' :: front, by simp, by simp [shape],
                fun start other => ?_⟩
              have stillAlone : (front ++ other).head? ≠ some '>' := by
                rw [List.head?_append_of_ne_nil _ filled] at alone ⊢
                exact alone
              rw [List.append_assoc, List.cons_append,
                readAttributes_slash (behindBlanks (front ++ other)) stillAlone]
              exact again start other
          | equals =>
              rw [readAttributes_equals starts] at read
              obtain ⟨front, filled, rfl, again⟩ :=
                inductionHypothesis _ shorter read rfl
              refine ⟨blanks ++ '=' :: front, by simp, by simp [shape],
                fun start other => ?_⟩
              rw [List.append_assoc, List.cons_append,
                readAttributes_equals (behindBlanks (front ++ other))]
              exact again start other
          | name _ _ inName =>
              obtain ⟨a, more, word, between, rfl, filled, rfl, later, again⟩ :=
                readAttributes_name_local starts inName read
              have shorter : between.length < (word ++ between).length := by
                have positive := List.length_pos_iff.2 filled
                rw [List.length_append]
                omega
              obtain ⟨front, filled, rfl, againLater⟩ :=
                inductionHypothesis _ shorter later rfl
              refine ⟨word ++ front, by simp [filled], by simp, fun start other => ?_⟩
              have alike : (front ++ other).head? = (front ++ after).head? := by
                rw [List.head?_append_of_ne_nil _ filled,
                  List.head?_append_of_ne_nil _ filled]
              rw [List.append_assoc, again start _ alike, againLater]
              rfl

end LivePages.Markup
