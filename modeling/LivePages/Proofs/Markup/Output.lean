import LivePages.Proofs.Markup.Recovery

/-!
# What reading gives

Reading has a result for texts of all kinds, but not every tree is a result.
Tags and names come out lowered and without the characters that end them, and
each search for an end mark leaves a text in which the mark does not occur.
From the pieces this carries over to the forest that is built of them: texts
are joined where they meet, void elements and raw ones are complete at once, and
no element is opened below the limit of nesting.
-/

namespace LivePages.Markup

/-- Siblings of which no two that stand next to each other are texts. -/
def Apart (nodes : List Node) : Prop :=
  nodes.IsChain fun node next => node.isText = true → next.isText = false

theorem apart_cons {node : Node} {nodes : List Node} :
    Apart (node :: nodes) ↔
      (node.isText = true → ∀ next ∈ nodes.head?, next.isText = false) ∧ Apart nodes := by
  rw [Apart, List.isChain_cons]
  exact and_congr_left fun _ =>
    ⟨fun each isText next first => each next first isText,
      fun each next first isText => each isText next first⟩

theorem apart_reverse {nodes : List Node} : Apart nodes.reverse ↔ Apart nodes := by
  have symmetric : ∀ node next : Node,
      (next.isText = true → node.isText = false) ↔
        (node.isText = true → next.isText = false) := by
    intro node next
    cases node.isText <;> cases next.isText <;> decide
  rw [Apart, List.isChain_reverse]
  simp only [symmetric, Apart]

/-- A node as it comes out of reading inside `ancestors` elements. -/
inductive Node.IsRead : Nat → Node → Prop where
  | text {ancestors : Nat} {text : String} (filled : text.toList ≠ []) :
    IsRead ancestors (.text text)
  | comment {ancestors : Nat} {text : String} (isComment : IsCommentText text) :
    IsRead ancestors (.comment text)
  | void {ancestors : Nat} {tag : String} {attributes : List Attribute}
    (shallow : ancestors ≤ maxNesting) (isTag : IsTag tag)
    (named : ∀ a ∈ attributes, IsAttributeName a.name) (void : isVoid tag = true) :
    IsRead ancestors (.element tag attributes [])
  | raw {ancestors : Nat} {tag : String} {attributes : List Attribute} {content : List Char}
    (shallow : ancestors ≤ maxNesting) (isTag : IsTag tag)
    (named : ∀ a ∈ attributes, IsAttributeName a.name) (raw : isRaw tag = true)
    (noEnd : ¬ '<' :: '/' :: tag.toList <:+: content.map Char.toLower) :
    IsRead ancestors (.element tag attributes (rawChildren content))
  | element {ancestors : Nat} {tag : String} {attributes : List Attribute}
    {children : List Node} (shallow : ancestors ≤ maxNesting) (isTag : IsTag tag)
    (named : ∀ a ∈ attributes, IsAttributeName a.name) (notVoid : isVoid tag = false)
    (notRaw : isRaw tag = false) (apart : Apart children)
    (inside : ∀ n ∈ children, IsRead (ancestors + 1) n) :
    IsRead ancestors (.element tag attributes children)

/-- An element with children is not void, and they are read inside it. -/
theorem Node.IsRead.children {ancestors : Nat} {tag : String} {attributes : List Attribute}
    {children : List Node} (read : (Node.element tag attributes children).IsRead ancestors)
    (filled : children ≠ []) :
    isVoid tag = false ∧ ∀ n ∈ children, n.IsRead (ancestors + 1) := by
  cases read with
  | void => exact absurd rfl filled
  | element _ _ _ notVoid _ _ inside => exact ⟨notVoid, inside⟩
  | raw _ _ _ raw =>
      have notVoid : isVoid tag = false := by
        rcases rawTag_cases raw with rfl | rfl <;> decide
      refine ⟨notVoid, fun n member => ?_⟩
      unfold rawChildren at member
      split at member
      · cases member
      · cases List.mem_singleton.1 member
        exact .text (by simp_all)

/-- Siblings as they come out of reading. -/
structure AreRead (ancestors : Nat) (nodes : List Node) : Prop where
  apart : Apart nodes
  each : ∀ n ∈ nodes, n.IsRead ancestors

theorem areRead_nil (ancestors : Nat) : AreRead ancestors [] := ⟨.nil, by simp⟩

theorem AreRead.reverse {ancestors : Nat} {nodes : List Node} (read : AreRead ancestors nodes) :
    AreRead ancestors nodes.reverse :=
  ⟨apart_reverse.2 read.apart, fun n member => read.each n (List.mem_reverse.1 member)⟩

theorem AreRead.cons {ancestors : Nat} {nodes : List Node} (read : AreRead ancestors nodes)
    {node : Node} (nodeRead : node.IsRead ancestors) (noText : node.isText = false) :
    AreRead ancestors (node :: nodes) := by
  refine ⟨apart_cons.2 ⟨fun isText => ?_, read.apart⟩,
    List.forall_mem_cons.2 ⟨nodeRead, read.each⟩⟩
  rw [noText] at isText
  cases isText

theorem AreRead.joinText {ancestors : Nat} {nodes : List Node} (read : AreRead ancestors nodes)
    {text : String} (filled : text.toList ≠ []) :
    AreRead ancestors (Forest.joinText text nodes) := by
  obtain ⟨apart, each⟩ := read
  unfold Forest.joinText
  split
  · rename_i before older
    have joined : (before ++ text).toList ≠ [] := by
      simp [filled]
    obtain ⟨gap, apart⟩ := apart_cons.1 apart
    exact ⟨apart_cons.2 ⟨fun _ => gap rfl, apart⟩,
      List.forall_mem_cons.2 ⟨.text joined, (List.forall_mem_cons.1 each).2⟩⟩
  · rename_i noText
    refine ⟨apart_cons.2 ⟨fun _ next first => ?_, apart⟩,
      List.forall_mem_cons.2 ⟨.text filled, each⟩⟩
    obtain ⟨older, rfl⟩ := List.head?_eq_some_iff.1 first
    cases next with
    | text before => exact (noText before older rfl).elim
    | comment text => rfl
    | element tag attributes children => rfl

/-! ## Names -/

theorem isUpper_of_isLower {c : Char} (lower : c.isLower = true) : c.isUpper = false := by
  simp only [Char.isLower, Char.isUpper, ge_iff_le, Bool.and_eq_true, decide_eq_true_eq,
    decide_eq_false_iff_not, UInt32.le_iff_toNat_le] at lower ⊢
  have first : 'a'.val.toNat = 97 := rfl
  have last : 'Z'.val.toNat = 90 := rfl
  omega

/-- Lowering changes a character into a lower-case letter, or not at all. -/
theorem toLower_cases (c : Char) :
    c.toLower.isLower = true ∨ c.toLower = c ∧ c.isUpper = false := by
  by_cases upper : c.val ≥ 'A'.val ∧ c.val ≤ 'Z'.val
  · exact .inl (isLower_toLower_of_isUpper upper)
  · have notUpper : c.isUpper = false := by
      simpa [Char.isUpper] using upper
    exact .inr ⟨toLower_of_not_upper notUpper, notUpper⟩

theorem isUpper_toLower (c : Char) : c.toLower.isUpper = false := by
  rcases toLower_cases c with lower | ⟨same, notUpper⟩
  · exact isUpper_of_isLower lower
  · rwa [same]

/-- What holds of all letters and of a character holds of the lowered one. -/
theorem toLower_of_letters {p : Char → Bool} (letters : ∀ c : Char, c.isAlpha = true → p c = true)
    {c : Char} (holds : p c = true) : p c.toLower = true := by
  rcases toLower_cases c with lower | ⟨same, -⟩
  · exact letters _ (by simp [Char.isAlpha, lower])
  · rwa [same]

theorem isAttributeChar_of_isAlpha {c : Char} (letter : c.isAlpha = true) :
    isAttributeChar c = true := by
  have inTag := isTagChar_of_isAlpha letter
  have notEquals : c ≠ '=' := by
    rintro rfl
    contradiction
  simp_all [isTagChar, isAttributeChar]

theorem toList_lowered (cs : List Char) : (lowered cs).toList = cs.map Char.toLower :=
  String.toList_ofList

theorem lowered_notUpper (cs : List Char) : ∀ c ∈ (lowered cs).toList, c.isUpper = false := by
  rw [toList_lowered]
  exact List.forall_mem_map.2 fun c _ => isUpper_toLower c

theorem isTag_lowered {cs : List Char} (letter : cs.head?.any Char.isAlpha = true) :
    IsTag (lowered (cs.takeWhile isTagChar)) := by
  refine ⟨?_, ?_, lowered_notUpper _⟩
  · cases cs with
    | nil => cases letter
    | cons c cs =>
        have first : c.isAlpha = true := letter
        rw [toList_lowered, List.takeWhile_cons, if_pos (isTagChar_of_isAlpha first)]
        exact toLower_of_letters (fun _ => id) first
  · rw [toList_lowered]
    refine List.forall_mem_map.2 fun c member => ?_
    exact toLower_of_letters (fun _ => isTagChar_of_isAlpha) (List.mem_takeWhile_imp member)

theorem isAttributeName_lowered {c : Char} {cs : List Char} (first : isAttributeChar c = true) :
    IsAttributeName (lowered (c :: cs.takeWhile isAttributeChar)) := by
  refine ⟨by simp [toList_lowered], ?_, lowered_notUpper _⟩
  rw [toList_lowered]
  refine List.forall_mem_map.2 fun d member => ?_
  have inName : isAttributeChar d = true := by
    rcases List.mem_cons.1 member with rfl | later
    · exact first
    · exact List.mem_takeWhile_imp later
  exact toLower_of_letters (fun _ => isAttributeChar_of_isAlpha) inName

/-- What goes on behind blanks, unless it is a mark, is a name. -/
theorem isAttributeChar_of_starts {cs rest : List Char} {c : Char}
    (starts : Text.trimStart cs = c :: rest) (noEnd : c ≠ '>') (noSlash : c ≠ '/')
    (noEquals : c ≠ '=') : isAttributeChar c = true := by
  obtain ⟨-, -, solid, -⟩ := trimStart_local starts
  simp [isAttributeChar, solid, noEnd, noSlash, noEquals]

theorem named_of_readAttributes {tag cs : List Char} {attributes : List Attribute}
    {closed : Bool} {after : List Char}
    (read : readAttributes tag cs = .ok (attributes, closed, after)) :
    ∀ a ∈ attributes, IsAttributeName a.name := by
  fun_induction readAttributes tag cs generalizing attributes with
  | case1 => cases read
  | case2 =>
      cases read
      simp
  | case3 =>
      cases read
      simp
  | case4 _ _ _ _ inductionHypothesis => exact inductionHypothesis read
  | case5 _ _ _ _ _ _ inductionHypothesis => exact inductionHypothesis read
  | case6 => cases read
  | case7 _ _ _ noEnd _ noSlash starts noEquals =>
      rename_i inductionHypothesis
      obtain ⟨others, rfl, later⟩ := exists_of_readAttributes_map read
      have first := isAttributeChar_of_starts starts noEnd noSlash noEquals
      exact List.forall_mem_cons.2
        ⟨isAttributeName_lowered first, inductionHypothesis later⟩
  | case8 _ _ _ noEnd _ noSlash starts noEquals =>
      rename_i inductionHypothesis
      obtain ⟨others, rfl, later⟩ := exists_of_readAttributes_map read
      have first := isAttributeChar_of_starts starts noEnd noSlash noEquals
      exact List.forall_mem_cons.2
        ⟨isAttributeName_lowered first, inductionHypothesis later⟩

/-! ## Pieces -/

/-- A piece as it comes out of reading. -/
inductive Piece.IsRead : Piece → Prop where
  | text {text : List Char} (filled : text ≠ []) : IsRead (.text text)
  | comment {text : List Char} (noEnd : ¬ ['-', '-', '>'] <:+: text) : IsRead (.comment text)
  | leaf {tag : String} {attributes : List Attribute} (isTag : IsTag tag)
    (named : ∀ a ∈ attributes, IsAttributeName a.name) : IsRead (.leaf tag attributes)
  | raw {tag : String} {attributes : List Attribute} {content : List Char} (isTag : IsTag tag)
    (named : ∀ a ∈ attributes, IsAttributeName a.name) (raw : isRaw tag = true)
    (noEnd : ¬ '<' :: '/' :: tag.toList <:+: content.map Char.toLower) :
    IsRead (.raw tag attributes content)
  | opening {tag : String} {attributes : List Attribute} (isTag : IsTag tag)
    (named : ∀ a ∈ attributes, IsAttributeName a.name) (notVoid : isVoid tag = false)
    (notRaw : isRaw tag = false) : IsRead (.opening tag attributes)
  | closing (tag : String) : IsRead (.closing tag)

/-- In a comment that is cut off, the end mark does not occur. -/
def Cut.IsRead : Cut → Prop
  | .comment rest => ¬ ['-', '-', '>'] <:+: rest.drop 4
  | .tag _ | .value _ => True

/-- The pieces of a text, and the construct that its end cuts off. -/
structure ArePieces (result : List Piece × Option Cut) : Prop where
  each : ∀ piece ∈ result.1, piece.IsRead
  cut : ∀ cut ∈ result.2, cut.IsRead

theorem ArePieces.add {piece : Piece} {rest : List Piece × Option Cut} (later : ArePieces rest)
    (first : piece.IsRead) : ArePieces (addPiece piece rest) :=
  ⟨List.forall_mem_cons.2 ⟨first, later.each⟩, later.cut⟩

theorem arePieces_last {piece : Piece} (first : piece.IsRead) {cut : Option Cut}
    (cutRead : ∀ c ∈ cut, c.IsRead) : ArePieces ([piece], cut) :=
  ⟨List.forall_mem_singleton.2 first, cutRead⟩

theorem arePieces_cut {cut : Cut} (cutRead : cut.IsRead) : ArePieces ([], some cut) :=
  ⟨by simp, by simpa using cutRead⟩

/-- The pieces from a tag on, by how the tag is read. -/
theorem pieces_started {c : Char} {rest : List Char}
    (starts : c = '<' ∧ rest.head?.any Char.isAlpha = true) {tag : String}
    (named : lowered (rest.takeWhile isTagChar) = tag)
    {attributes : List Attribute} {closed : Bool} {body : List Char}
    (read : readAttributes (c :: rest) (rest.dropWhile isTagChar) =
      .ok (attributes, closed, body)) :
    pieces (c :: rest) =
      if closed || isVoid tag then addPiece (.leaf tag attributes) (pieces body)
      else if isRaw tag then
        let (content, after) := splitBefore ('<' :: '/' :: tag.toList) body
        if after = [] then ([.raw tag attributes content], none)
        else
          match splitAt? '>' after with
          | some (_, tail) =>
            addPiece (.raw tag attributes content) (pieces tail)
          | none => ([.raw tag attributes content], some (.tag after))
      else addPiece (.opening tag attributes) (pieces body) := by
  obtain ⟨rfl, letter⟩ := starts
  cases rest with
  | nil => cases letter
  | cons d rest =>
      cases closed with
      | false => exact pieces_tag letter named read
      | true =>
          rw [pieces_selfClosingTag letter read, named]
          rfl

theorem isRead_raw {tag : String} {attributes : List Attribute} (isTag : IsTag tag)
    (named : ∀ a ∈ attributes, IsAttributeName a.name) (raw : isRaw tag = true)
    (body : List Char) :
    (Piece.raw tag attributes (splitBefore ('<' :: '/' :: tag.toList) body).1).IsRead :=
  .raw isTag named raw (splitBefore_spec (by simp) body).2.1

theorem arePieces_pieces (cs : List Char) : ArePieces (pieces cs) := by
  induction cs using pieces.induct with
  | case1 =>
      rw [pieces]
      exact ⟨by simp, by simp⟩
  | case2 body text rest ended inductionHypothesis =>
      rw [pieces_comment ended]
      exact inductionHypothesis.add (.comment (eq_append_of_splitComment? ended).2)
  | case3 body noEnd =>
      rw [pieces_openComment noEnd]
      exact arePieces_cut (notInfix_of_splitComment? noEnd)
  | case4 body name rest ended inductionHypothesis =>
      rw [pieces_closing ended]
      exact inductionHypothesis.add (.closing _)
  | case5 body noEnd =>
      rw [pieces_openClosing noEnd]
      exact arePieces_cut trivial
  | case6 body noComment text rest ended inductionHypothesis =>
      rw [pieces, ended]
      · exact inductionHypothesis
      · exact noComment
  | case7 body noComment noEnd =>
      rw [pieces, noEnd]
      · exact arePieces_cut trivial
      · exact noComment
  | case8 c rest _ _ _ starts cut failed =>
      obtain ⟨rfl, letter⟩ := starts
      cases rest with
      | nil => cases letter
      | cons d rest =>
          rw [pieces_openTag letter failed]
          rcases cutsTag_of_readAttributes failed with rfl | ⟨value, rfl, -⟩
          · exact arePieces_cut trivial
          · exact arePieces_cut trivial
  | case9 c rest _ _ _ starts tag attributes closed body leaf read
      inductionHypothesis =>
      rw [pieces_started starts rfl read, if_pos leaf]
      exact inductionHypothesis.add
        (.leaf (isTag_lowered starts.2) (named_of_readAttributes read))
  | case10 c rest _ _ _ starts tag attributes closed body notLeaf raw noEnd
      read =>
      have first := isRead_raw (isTag_lowered starts.2) (named_of_readAttributes read) raw body
      rw [pieces_started starts rfl read, if_neg notLeaf, if_pos raw]
      dsimp only
      rw [if_pos noEnd]
      exact arePieces_last first (by simp)
  | case11 c rest _ _ _ starts tag attributes closed body notLeaf raw d more after _ tail
      ended read inductionHypothesis =>
      have first := isRead_raw (isTag_lowered starts.2) (named_of_readAttributes read) raw body
      rw [pieces_started starts rfl read, if_neg notLeaf, if_pos raw]
      dsimp only
      rw [after, if_neg (List.cons_ne_nil d more), ended]
      exact inductionHypothesis.add first
  | case12 c rest _ _ _ starts tag attributes closed body notLeaf raw d more after
      noEnd read =>
      have first := isRead_raw (isTag_lowered starts.2) (named_of_readAttributes read) raw body
      rw [pieces_started starts rfl read, if_neg notLeaf, if_pos raw]
      dsimp only
      rw [after, if_neg (List.cons_ne_nil d more), noEnd]
      exact arePieces_last first (by simp [Cut.IsRead])
  | case13 c rest _ _ _ starts tag attributes closed body notLeaf notRaw read
      inductionHypothesis =>
      have notVoid : isVoid tag = false := by simp_all
      rw [Bool.not_eq_true] at notRaw
      rw [pieces_started starts rfl read, if_neg notLeaf, if_neg (by simpa using notRaw)]
      exact inductionHypothesis.add
        (.opening (isTag_lowered starts.2) (named_of_readAttributes read) notVoid notRaw)
  | case14 c rest noComment noClosing noDeclaration noTag inductionHypothesis =>
      rw [pieces, if_neg noTag]
      · exact inductionHypothesis.add (.text (List.cons_ne_nil _ _))
      · exact noComment
      · exact noClosing
      · exact noDeclaration

/-! ## Forests -/

/-- An element that is open inside `ancestors` others. -/
structure OpenElement.IsRead (ancestors : Nat) (e : OpenElement) : Prop where
  shallow : ancestors < maxNesting
  isTag : IsTag e.tag
  named : ∀ a ∈ e.attributes, IsAttributeName a.name
  notVoid : isVoid e.tag = false
  notRaw : isRaw e.tag = false
  newest : AreRead (ancestors + 1) e.newest

namespace Forest

def AreOpen : List OpenElement → Prop
  | [] => True
  | top :: rest => top.IsRead rest.length ∧ AreOpen rest

/-- A forest as it is built of the pieces of a text. -/
structure IsRead (f : Forest) : Prop where
  finished : AreRead 0 f.newest
  opened : AreOpen f.stack

variable {f : Forest}

theorem isRead_empty : empty.IsRead := ⟨areRead_nil 0, trivial⟩

theorem AreOpen.length_le {stack : List OpenElement} (opened : AreOpen stack) :
    stack.length ≤ maxNesting := by
  cases stack with
  | nil => exact Nat.zero_le _
  | cons top rest => exact opened.1.shallow

theorem IsRead.onNewest (read : f.IsRead) {change : List Node → List Node}
    (keeps : ∀ nodes, AreRead f.stack.length nodes → AreRead f.stack.length (change nodes)) :
    (f.onNewest change).IsRead := by
  obtain ⟨newest, stack⟩ := f
  cases stack with
  | nil => exact ⟨keeps _ read.finished, read.opened⟩
  | cons top rest =>
      obtain ⟨finished, innermost, opened⟩ := read
      exact ⟨finished, { innermost with newest := keeps _ innermost.newest }, opened⟩

theorem IsRead.add (read : f.IsRead) {node : Node} (nodeRead : node.IsRead f.stack.length)
    (noText : node.isText = false) : (f.add node).IsRead :=
  read.onNewest fun _ older => older.cons nodeRead noText

theorem isRead_close {ancestors : Nat} {e : OpenElement} (read : e.IsRead ancestors) :
    (OpenElement.close e).IsRead ancestors := by
  obtain ⟨shallow, isTag, named, notVoid, notRaw, newest⟩ := read
  exact .element shallow.le isTag named notVoid notRaw newest.reverse.apart newest.reverse.each

theorem IsRead.closeInner (read : f.IsRead) (n : Nat) : (closeInner n f).IsRead := by
  induction n generalizing f with
  | zero => exact read
  | succ n inductionHypothesis =>
      obtain ⟨newest, stack⟩ := f
      cases stack with
      | nil => exact read
      | cons top rest =>
          obtain ⟨finished, innermost, opened⟩ := read
          have outer : Forest.IsRead ⟨newest, rest⟩ := ⟨finished, opened⟩
          exact inductionHypothesis (outer.add (isRead_close innermost) rfl)

theorem IsRead.close (read : f.IsRead) (tag : String) : (f.close tag).IsRead := by
  unfold Forest.close
  split
  · exact read.closeInner _
  · exact read

theorem IsRead.finish (read : f.IsRead) : AreRead 0 f.finish :=
  (read.closeInner f.stack.length).finished.reverse

theorem isRead_leaf {ancestors : Nat} {tag : String} {attributes : List Attribute}
    (shallow : ancestors ≤ maxNesting) (isTag : IsTag tag)
    (named : ∀ a ∈ attributes, IsAttributeName a.name) :
    (Node.element tag attributes []).IsRead ancestors := by
  cases void : isVoid tag with
  | true => exact .void shallow isTag named void
  | false =>
      cases raw : isRaw tag with
      | true => exact @Node.IsRead.raw ancestors tag attributes [] shallow isTag named raw (by simp)
      | false => exact .element shallow isTag named void raw .nil (by simp)

theorem IsRead.buildLeniently (read : f.IsRead) {piece : Piece} (pieceRead : piece.IsRead) :
    (f.buildLeniently piece).IsRead := by
  have shallow := read.opened.length_le
  cases pieceRead with
  | text filled =>
      exact read.onNewest fun _ older => older.joinText (by simpa using filled)
  | comment noEnd =>
      refine read.add (.comment ?_) rfl
      rwa [IsCommentText, String.toList_ofList]
  | leaf isTag named => exact read.add (isRead_leaf shallow isTag named) rfl
  | raw isTag named raw noEnd => exact read.add (.raw shallow isTag named raw noEnd) rfl
  | @opening tag attributes isTag named notVoid notRaw =>
      unfold Forest.buildLeniently Forest.build?
      dsimp only
      by_cases fits : f.stack.length < maxNesting
      · rw [if_pos fits]
        exact ⟨read.finished, ⟨fits, isTag, named, notVoid, notRaw, areRead_nil _⟩, read.opened⟩
      · rw [if_neg fits]
        exact read.add (isRead_leaf shallow isTag named) rfl
  | closing tag => exact read.close tag

theorem IsRead.buildAll (read : f.IsRead) {ps : List Piece}
    (each : ∀ piece ∈ ps, piece.IsRead) : (ps.foldl Forest.buildLeniently f).IsRead := by
  induction ps generalizing f with
  | nil => exact read
  | cons piece ps inductionHypothesis =>
      obtain ⟨first, rest⟩ := List.forall_mem_cons.1 each
      exact inductionHypothesis (read.buildLeniently first) rest

theorem IsRead.recover (read : f.IsRead) {cut : Option Cut} (cutRead : ∀ c ∈ cut, c.IsRead) :
    (f.recover cut).IsRead := by
  unfold Forest.recover
  split
  · rename_i rest
    refine read.add (.comment ?_) rfl
    rw [IsCommentText, String.toList_ofList]
    exact cutRead _ rfl
  · exact read

end Forest

/-! ## Trees -/

theorem areRead_parseLeniently (markup : String) : AreRead 0 (parseLeniently markup) := by
  obtain ⟨each, cut⟩ := arePieces_pieces markup.toList
  exact ((Forest.isRead_empty.buildAll each).recover cut).finish

theorem areRead_of_parse {markup : String} {nodes : List Node}
    (parsed : parse markup = .ok nodes) : AreRead 0 nodes := by
  rw [← parseLeniently_of_ok parsed]
  exact areRead_parseLeniently markup

end LivePages.Markup
