import LivePages.Proofs.Markup.Frame

/-!
# Markup that has been read and written

What is read and written again reads back as the same tree, except in two cases.
Texts are joined over a closing tag or a declaration that is passed over, and are
written as they are: what they spell together can be a tag.  And an element that
closes itself does not count as open, but is written with a tag that opens it.
-/

namespace LivePages.Markup

mutual

/-- The texts of a node outside raw elements. -/
def Node.markupTexts : Node → List String
  | .element tag _ children => if isRaw tag then [] else markupTexts children
  | .text text => [text]
  | .comment _ => []

/-- The texts of siblings outside raw elements. -/
def markupTexts : List Node → List String
  | [] => []
  | node :: rest => node.markupTexts ++ markupTexts rest

end

mutual

/-- How many elements are open at the same time while the markup of a node is read. -/
def Node.nesting : Node → Nat
  | .element tag _ children => if isVoid tag || isRaw tag then 0 else nesting children + 1
  | _ => 0

/-- How many elements are open at the same time while the markup of siblings is read. -/
def nesting : List Node → Nat
  | [] => 0
  | node :: rest => max node.nesting (nesting rest)

end

/-- No `<` stands in the text where a tag, a comment or a declaration would start. -/
def IsLiteral (text : String) : Prop :=
  ∀ c, startsMarkup c = true → ¬ ['<', c] <:+: text.toList

instance (text : String) : Decidable (IsLiteral text) :=
  decidable_of_iff (text.toList = [] ∨ IsPlainText text) <| by
    constructor
    · rintro (empty | plain)
      · simp [IsLiteral, empty]
      · exact plain.noMarkup
    · intro literal
      by_cases empty : text.toList = []
      · exact .inl empty
      · exact .inr ⟨empty, literal⟩

theorem markupTexts_append (first second : List Node) :
    markupTexts (first ++ second) = markupTexts first ++ markupTexts second := by
  induction first with
  | nil => simp [markupTexts]
  | cons node first inductionHypothesis => simp [markupTexts, inductionHypothesis]

theorem nesting_append (first second : List Node) :
    nesting (first ++ second) = max (nesting first) (nesting second) := by
  induction first with
  | nil => simp [nesting]
  | cons node first inductionHypothesis => simp [nesting, inductionHypothesis, Nat.max_assoc]

theorem AreRead.of_append {ancestors : Nat} {first second : List Node}
    (read : AreRead ancestors (first ++ second)) :
    AreRead ancestors first ∧ AreRead ancestors second := by
  obtain ⟨apart, each⟩ := read
  obtain ⟨apartFirst, apartSecond, -⟩ := List.isChain_append.1 apart
  obtain ⟨eachFirst, eachSecond⟩ := List.forall_mem_append.1 each
  exact ⟨⟨apartFirst, eachFirst⟩, ⟨apartSecond, eachSecond⟩⟩

/-! ## Trees that are well-formed -/

theorem wellFormed_rawChildren {tag : String} {content : List Char}
    (noEnd : ¬ '<' :: '/' :: tag.toList <:+: content.map Char.toLower) :
    rawChildren content = [] ∨
      ∃ text, rawChildren content = [.text text] ∧ IsRawText tag text := by
  unfold rawChildren
  split
  · exact .inl rfl
  · refine .inr ⟨_, rfl, ?_, ?_⟩
    · simp_all
    · rwa [String.toList_ofList]

mutual

/-- A node that is read, with literal texts and not too deep, is well-formed. -/
theorem Node.wellFormed_of_isRead (ancestors : Nat) : (node : Node) → node.IsRead ancestors →
    (∀ text ∈ node.markupTexts, IsLiteral text) →
    ancestors + node.nesting ≤ maxNesting → node.WellFormed ancestors
  | .text text, .text filled, literal, _ => by
      rw [Node.WellFormed]
      exact ⟨filled, literal text (by simp [Node.markupTexts])⟩
  | .comment text, .comment isComment, _, _ => by
      rwa [Node.WellFormed]
  | .element tag attributes children, read, literal, shallow => by
      rw [Node.WellFormed]
      cases read with
      | void _ isTag named void => exact ⟨isTag, named, by rw [if_pos void]⟩
      | raw _ isTag named raw noEnd =>
          have notVoid : isVoid tag ≠ true := by
            rcases rawTag_cases raw with rfl | rfl <;> decide
          refine ⟨isTag, named, ?_⟩
          rw [if_neg notVoid, if_pos raw]
          exact wellFormed_rawChildren noEnd
      | element _ isTag named notVoid notRaw apart inside =>
          rw [Node.nesting, if_neg (by simp [notVoid, notRaw])] at shallow
          rw [Node.markupTexts, if_neg (by simp [notRaw])] at literal
          refine ⟨isTag, named, ?_⟩
          rw [if_neg (by simp [notVoid]), if_neg (by simp [notRaw])]
          exact ⟨by omega, wellFormed_of_areRead (ancestors + 1) children ⟨apart, inside⟩
            literal (by omega)⟩

theorem wellFormed_of_areRead (ancestors : Nat) : (nodes : List Node) → AreRead ancestors nodes →
    (∀ text ∈ markupTexts nodes, IsLiteral text) →
    ancestors + nesting nodes ≤ maxNesting → WellFormed ancestors nodes
  | [], _, _, _ => by
      rw [WellFormed]
      trivial
  | node :: rest, read, literal, shallow => by
      obtain ⟨first, later⟩ := List.forall_mem_cons.1 read.each
      obtain ⟨gap, apart⟩ := apart_cons.1 read.apart
      rw [markupTexts] at literal
      rw [nesting] at shallow
      rw [WellFormed]
      exact ⟨node.wellFormed_of_isRead ancestors first
          (fun text member => literal text (List.mem_append_left _ member)) (by omega),
        gap,
        wellFormed_of_areRead ancestors rest ⟨apart, later⟩
          (fun text member => literal text (List.mem_append_right _ member)) (by omega)⟩

end

/-! ## Trees that are too deep -/

theorem exists_deeper (limit : Nat) {nodes : List Node} (deep : limit < nesting nodes) :
    ∃ before tag attributes children after,
      nodes = before ++ .element tag attributes children :: after ∧
      nesting before ≤ limit ∧ isVoid tag = false ∧ isRaw tag = false ∧
      limit < nesting children + 1 := by
  induction nodes with
  | nil => simp [nesting] at deep
  | cons node rest inductionHypothesis =>
      by_cases here : limit < node.nesting
      · cases node with
        | text text => simp [Node.nesting] at here
        | comment text => simp [Node.nesting] at here
        | element tag attributes children =>
            rw [Node.nesting] at here
            split at here
            · simp at here
            · rename_i opens
              simp only [Bool.or_eq_true, not_or, Bool.not_eq_true] at opens
              exact ⟨[], tag, attributes, children, rest, rfl, Nat.zero_le _, opens.1,
                opens.2, here⟩
      · rw [nesting] at deep
        obtain ⟨before, tag, attributes, children, after, rfl, shallow, opens⟩ :=
          inductionHypothesis (by omega)
        refine ⟨node :: before, tag, attributes, children, after, rfl, ?_, opens⟩
        rw [nesting]
        omega

theorem write_element (tag : String) (attributes : List Attribute) (children : List Node)
    (notVoid : isVoid tag = false) (rest : List Char) :
    write (.element tag attributes children) ++ rest =
      '<' :: (tag.toList ++ (attributes.flatMap writeAttribute ++ '>' ::
        (writeAll children ++ '<' :: '/' :: (tag.toList ++ '>' :: rest)))) := by
  simp [write, notVoid]

theorem readOnto_refused {f : Forest} (full : ¬ f.stack.length < maxNesting) {tag : String}
    (isTag : IsTag tag) {attributes : List Attribute}
    (named : ∀ a ∈ attributes, IsAttributeName a.name) (notVoid : isVoid tag = false)
    (notRaw : isRaw tag = false) (body : List Char) :
    (readOnto f ('<' :: (tag.toList ++
      (attributes.flatMap writeAttribute ++ '>' :: body)))).1 = none := by
  have start := pieces_startTag isTag named body
  rw [if_neg (by simp [notVoid]), if_neg (by simp [notRaw])] at start
  have refused : f.build? (.opening tag attributes) = none := if_neg full
  simp [readOnto, start, addPiece, refused]

theorem readOnto_opened {f : Forest} (fits : f.stack.length < maxNesting) {tag : String}
    (isTag : IsTag tag) {attributes : List Attribute}
    (named : ∀ a ∈ attributes, IsAttributeName a.name) (notVoid : isVoid tag = false)
    (notRaw : isRaw tag = false) (body : List Char) :
    readOnto f ('<' :: (tag.toList ++ (attributes.flatMap writeAttribute ++ '>' :: body))) =
      readOnto (f.push tag attributes) body := by
  have start := pieces_startTag isTag named body
  rw [if_neg (by simp [notVoid]), if_neg (by simp [notRaw])] at start
  have opened : f.build? (.opening tag attributes) = some (f.push tag attributes) :=
    if_pos fits
  exact readOnto_piece start opened

theorem Node.IsRead.inside {ancestors : Nat} {tag : String} {attributes : List Attribute}
    {children : List Node} (read : (Node.element tag attributes children).IsRead ancestors)
    (notVoid : isVoid tag = false) (notRaw : isRaw tag = false) :
    IsTag tag ∧ (∀ a ∈ attributes, IsAttributeName a.name) ∧
      AreRead (ancestors + 1) children := by
  cases read with
  | void _ _ _ void => simp [void] at notVoid
  | raw _ _ _ raw => simp [raw] at notRaw
  | element _ isTag named _ _ apart inside => exact ⟨isTag, named, apart, inside⟩

/-- Inside an element that has just been opened, siblings are followed to the first one that
holds an element below the limit. -/
theorem readOnto_tooDeep {f : Forest} (fresh : f.innermost = []) (rest : List Char)
    {nodes : List Node} (read : AreRead f.stack.length nodes)
    (literal : ∀ text ∈ markupTexts nodes, IsLiteral text)
    (fits : f.stack.length ≤ maxNesting)
    (deep : maxNesting < f.stack.length + nesting nodes) :
    (readOnto f (writeAll nodes ++ rest)).1 = none := by
  induction size : nesting nodes using Nat.strong_induction_on generalizing f nodes rest with
  | _ size inductionHypothesis =>
      subst size
      have someDeeper : maxNesting - f.stack.length < nesting nodes := by
        omega
      obtain ⟨before, tag, attributes, children, after, rfl, shallow, notVoid, notRaw, deeper⟩ :=
        exists_deeper _ someDeeper
      obtain ⟨readBefore, readBehind⟩ := read.of_append
      obtain ⟨isTag, named, inside⟩ :=
        (readBehind.each _ List.mem_cons_self).inside notVoid notRaw
      rw [markupTexts_append, markupTexts, Node.markupTexts, if_neg (by simp [notRaw])] at literal
      simp only [List.forall_mem_append] at literal
      obtain ⟨literalBefore, literalChildren, -⟩ := literal
      have smaller : nesting children <
          nesting (before ++ .element tag attributes children :: after) := by
        rw [nesting_append, nesting, Node.nesting, if_neg (by simp [notVoid, notRaw])]
        omega
      have wellFormed := wellFormed_of_areRead f.stack.length before readBefore literalBefore
        (by omega)
      have sameDepth : (f.addAll before).stack.length = f.stack.length :=
        Forest.length_stack_onNewest _ f
      have ends : ∀ body, EndsText ('<' :: body) := by
        simp [EndsText]
      rw [writeAll_append, writeAll, List.append_assoc, List.append_assoc,
        write_element tag attributes children notVoid,
        readOnto_writeAll f (ends _) before wellFormed (by simp [fresh])]
      -- Its own tag is the one that no longer fits, or one inside it is.
      by_cases opens : f.stack.length < maxNesting
      · rw [readOnto_opened (sameDepth ▸ opens) isTag named notVoid notRaw]
        have oneMore : ((f.addAll before).push tag attributes).stack.length =
            f.stack.length + 1 := congrArg (· + 1) sameDepth
        refine inductionHypothesis _ smaller rfl _ ?_ literalChildren ?_ ?_ rfl
        · rwa [oneMore]
        · omega
        · omega
      · exact readOnto_refused (sameDepth ▸ opens) isTag named notVoid notRaw _

/-- What is read from any text and written reads back as the same tree, if its texts are
literal and no element that closes itself stands inside as many elements as may be open. -/
theorem parse_toHtml_of_parse (markup : String) (nodes : List Node)
    (parsed : parse markup = .ok nodes)
    (literal : ∀ text ∈ markupTexts nodes, IsLiteral text) :
    parse (toHtml nodes) =
      if nesting nodes ≤ maxNesting then .ok nodes
      else .error (.nestingTooDeep maxNesting) := by
  have read := areRead_of_parse parsed
  by_cases shallow : nesting nodes ≤ maxNesting
  · have wellFormed := wellFormed_of_areRead 0 nodes read literal (by omega)
    obtain ⟨built, whole⟩ := Prod.mk.inj (readOnto_written wellFormed)
    have again : pieces (writeAll nodes) = ((pieces (writeAll nodes)).1, none) :=
      Prod.ext rfl whole
    rw [if_pos shallow, toHtml, parse_of_pieces again built, Forest.finish_addAll_empty]
  · have refused := readOnto_tooDeep (f := .empty) rfl [] read literal (Nat.zero_le _)
      (by simpa [Forest.empty] using shallow)
    rw [List.append_nil, readOnto] at refused
    rw [if_neg shallow, parse, toHtml, String.toList_ofList, parseChars]
    dsimp only at refused ⊢
    rw [refused]

/-- A list with tags in any case, a text on both sides of what is passed over, an attribute
without quotes and an element that closes itself. -/
theorem parse_toHtml_of_parse_list :
    let markup := "<UL Class=a\"b&lt;><li>1 <!x>< 2</b> & 3<li/></ul>"
    let nodes : List Node :=
      [.element "ul" [⟨"class", some "a\"b<"⟩]
        [.element "li" [] [.text "1 < 2 & 3", .element "li" [] []]]]
    parse markup = .ok nodes ∧ (∀ text ∈ markupTexts nodes, IsLiteral text) ∧
      parse (toHtml nodes) = if nesting nodes ≤ maxNesting then .ok nodes
        else .error (.nestingTooDeep maxNesting) := by
  intro markup nodes
  have parsed : parse markup = .ok nodes := by decide +kernel
  have literal : ∀ text ∈ markupTexts nodes, IsLiteral text := by decide +kernel
  exact ⟨parsed, literal, parse_toHtml_of_parse markup nodes parsed literal⟩

/-- Joined over a closing tag that is passed over, two texts spell a tag. -/
theorem parse_toHtml_makes_tag :
    parse "<</b>p>" = .ok [.text "<p>"] ∧
      parse (toHtml [.text "<p>"]) = .ok [.element "p" [] []] := by
  decide +kernel

end LivePages.Markup
