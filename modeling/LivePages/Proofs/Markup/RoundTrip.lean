import LivePages.Markup.Parser
import LivePages.Proofs.Markup.Tag

/-!
# Markup reads back as its tree

Reading is followed from one place of the written text to the next.  Behind
the markup of a node the forest has grown by that node, whatever stands after
it; so for siblings by induction on the tree.  A tag of an element opens it,
the content is read inside, and the closing tag closes just this element,
since the innermost open element bears its name.
-/

namespace LivePages.Markup

namespace Forest

/-- The nodes, newest first, next to which a new node is put. -/
def innermost (f : Forest) : List Node :=
  match f.stack with
  | [] => f.newest
  | top :: _ => top.newest

/-- Adds siblings in their order. -/
def addAll (nodes : List Node) (f : Forest) : Forest :=
  f.onNewest (nodes.reverse ++ ·)

theorem onNewest_onNewest (first second : List Node → List Node) (f : Forest) :
    (f.onNewest first).onNewest second = f.onNewest (second ∘ first) := by
  obtain ⟨newest, stack⟩ := f
  cases stack <;> rfl

theorem length_stack_onNewest (change : List Node → List Node) (f : Forest) :
    (f.onNewest change).stack.length = f.stack.length := by
  obtain ⟨newest, stack⟩ := f
  cases stack <;> rfl

theorem innermost_onNewest (change : List Node → List Node) (f : Forest) :
    (f.onNewest change).innermost = change f.innermost := by
  obtain ⟨newest, stack⟩ := f
  cases stack <;> rfl

theorem onNewest_congr {first second : List Node → List Node} {f : Forest}
    (same : first f.innermost = second f.innermost) :
    f.onNewest first = f.onNewest second := by
  obtain ⟨newest, stack⟩ := f
  cases stack with
  | nil => simp_all [onNewest, innermost]
  | cons top rest => simp_all [onNewest, innermost]

theorem innermost_add (node : Node) (f : Forest) :
    (f.add node).innermost = node :: f.innermost :=
  innermost_onNewest _ f

theorem length_stack_add (node : Node) (f : Forest) :
    (f.add node).stack.length = f.stack.length :=
  length_stack_onNewest _ f

theorem addAll_nil (f : Forest) : f.addAll [] = f := by
  obtain ⟨newest, stack⟩ := f
  cases stack <;> rfl

theorem addAll_cons (node : Node) (nodes : List Node) (f : Forest) :
    f.addAll (node :: nodes) = (f.add node).addAll nodes := by
  rw [addAll, addAll, add, onNewest_onNewest]
  apply onNewest_congr
  simp

theorem addText_addText (first second : String) (f : Forest) :
    (f.addText first).addText second = f.addText (first ++ second) := by
  rw [addText, addText, addText, onNewest_onNewest]
  apply onNewest_congr
  cases f.innermost with
  | nil => rfl
  | cons node older => cases node <;> simp [joinText, String.append_assoc]

/-- Behind anything but a text, a text is a node of its own. -/
theorem addText_eq_add {f : Forest} (apart : ∀ node ∈ f.innermost.head?, node.isText = false)
    (text : String) :
    f.addText text = f.add (.text text) := by
  apply onNewest_congr
  cases before : f.innermost with
  | nil => rfl
  | cons node older =>
      rw [before] at apart
      cases node with
      | text text => simp [Node.isText] at apart
      | comment text => rfl
      | element tag attributes children => rfl

/-- Siblings inside an element that has just been opened become its
children. -/
theorem close_addAll_push (tag : String) (attributes : List Attribute)
    (children : List Node) (f : Forest) :
    ((f.push tag attributes).addAll children).close tag =
      f.add (.element tag attributes children) := by
  simp [close, push, addAll, onNewest, List.findIdx?_cons, closeInner,
    OpenElement.close]

theorem finish_addAll_empty (nodes : List Node) :
    (empty.addAll nodes).finish = nodes := by
  simp [finish, empty, addAll, onNewest, closeInner]

end Forest

/-! ## Reading on -/

/-- The forest after the pieces of a text are added to one that stands
already, and the construct that is cut off at the end. -/
def readOnto (f : Forest) (cs : List Char) : Option Forest × Option Cut :=
  ((pieces cs).1.foldlM Forest.build? f, (pieces cs).2)

theorem readOnto_nil (f : Forest) : readOnto f [] = (some f, none) := by
  simp [readOnto, pieces]

theorem readOnto_piece {cs rest : List Char} {piece : Piece}
    (first : pieces cs = addPiece piece (pieces rest)) {f g : Forest}
    (built : f.build? piece = some g) :
    readOnto f cs = readOnto g rest := by
  simp [readOnto, first, addPiece, built]

/-- A text may be followed by the end or by further markup. -/
def EndsText (rest : List Char) : Prop := ∀ c ∈ rest.head?, c = '<'

/-- Inside a text, the part up to the next `<` is a piece, even when it starts
with one. -/
theorem pieces_plainText {c : Char} {cs rest : List Char}
    (noMarkup : ∀ d, startsMarkup d = true → ¬ ['<', d] <:+: c :: cs)
    (ends : EndsText rest) :
    pieces (c :: (cs ++ rest)) =
      addPiece (.text (c :: cs.takeWhile (· ≠ '<')))
        (pieces (cs.dropWhile (· ≠ '<') ++ rest)) := by
  have apart : c = '<' → ∀ d ∈ (cs ++ rest).head?,
      d ≠ '!' ∧ d ≠ '/' ∧ d.isAlpha = false := by
    rintro rfl d first
    have harmless : startsMarkup d = false := by
      cases cs with
      | nil =>
          cases ends d first
          decide
      | cons e cs =>
          cases first
          cases starts : startsMarkup d with
          | false => rfl
          | true => exact absurd ⟨[], cs, rfl⟩ (noMarkup d starts)
    simp only [startsMarkup, Bool.or_eq_false_iff, decide_eq_false_iff_not]
      at harmless
    exact ⟨harmless.2, harmless.1.2, harmless.1.1⟩
  have stop : ∀ d ∈ rest.head?, (decide (d ≠ '<')) = false := by
    intro d first
    simp [ends d first]
  rw [pieces_text apart, takeWhile_append_rest stop, dropWhile_append_rest stop]

/-- A text is read back piece by piece, and its pieces are joined again. -/
theorem readOnto_text {rest : List Char} (ends : EndsText rest) :
    ∀ (cs : List Char) (f : Forest),
      (∀ c, startsMarkup c = true → ¬ ['<', c] <:+: cs) → cs ≠ [] →
        readOnto f (cs ++ rest) = readOnto (f.addText (String.ofList cs)) rest
  | [], _, _, filled => absurd rfl filled
  | c :: cs, f, noMarkup, _ => by
      have step := readOnto_piece (pieces_plainText noMarkup ends) (f := f) rfl
      have tiles : cs.takeWhile (· ≠ '<') ++ cs.dropWhile (· ≠ '<') = cs :=
        List.takeWhile_append_dropWhile
      rw [List.cons_append, step]
      by_cases whole : cs.dropWhile (· ≠ '<') = []
      · rw [whole, List.append_nil] at tiles
        rw [whole, tiles, List.nil_append]
      · have noMarkupLater : ∀ d, startsMarkup d = true →
            ¬ ['<', d] <:+: cs.dropWhile (· ≠ '<') := by
          intro d starts found
          have suffix : cs.dropWhile (· ≠ '<') <:+: c :: cs :=
            List.infix_cons (List.dropWhile_suffix _).isInfix
          exact noMarkup d starts (found.trans suffix)
        rw [readOnto_text ends (cs.dropWhile (· ≠ '<')) _ noMarkupLater whole,
          Forest.addText_addText, ← String.ofList_append, List.cons_append,
          tiles]
termination_by cs => cs.length
decreasing_by
  exact Nat.lt_succ_of_le (length_dropWhile_le _ _)

theorem readOnto_comment {text : String} (isComment : IsCommentText text)
    (f : Forest) (rest : List Char) :
    readOnto f (write (.comment text) ++ rest) =
      readOnto (f.add (.comment text)) rest := by
  have ended := splitComment?_append isComment rest
  have built : f.build? (.comment text.toList) = some (f.add (.comment text)) := by
    rw [Forest.build?, String.ofList_toList]
  simpa [write] using readOnto_piece (pieces_comment ended) built

theorem rawTag_cases {tag : String} (raw : isRaw tag = true) :
    tag = "script" ∨ tag = "style" := by
  simpa [isRaw, rawTags] using raw

/-- A raw element is read in one piece, its closing tag included. -/
theorem pieces_raw {tag : String} (isTag : IsTag tag) (void : isVoid tag = false)
    (raw : isRaw tag = true) {attributes : List Attribute}
    (named : ∀ a ∈ attributes, IsAttributeName a.name) {content : List Char}
    (noEnd : ¬ '<' :: '/' :: tag.toList <:+: content.map Char.toLower)
    (rest : List Char) :
    pieces ('<' :: (tag.toList ++ (attributes.flatMap writeAttribute ++
        '>' :: (content ++ '<' :: '/' :: (tag.toList ++ '>' :: rest))))) =
      addPiece (.raw tag attributes content) (pieces rest) := by
  have once : '<' ∉ '/' :: tag.toList := by
    rcases rawTag_cases raw with rfl | rfl <;> decide
  have noStop : '>' ∉ '<' :: '/' :: tag.toList := by
    rcases rawTag_cases raw with rfl | rfl <;> decide
  have closes : startsWithWord ('<' :: '/' :: tag.toList)
      ('<' :: '/' :: (tag.toList ++ '>' :: rest)) = true := by
    rcases rawTag_cases raw with rfl | rfl <;>
      simp [startsWithWord, Char.toLower]
  have ended : splitAt? '>' ('<' :: '/' :: (tag.toList ++ '>' :: rest)) =
      some ('<' :: '/' :: tag.toList, rest) :=
    splitAt?_append noStop rest
  rw [pieces_startTag isTag named, splitBefore_append once noEnd closes]
  simp [void, raw, ended]

/-- What follows a text in a written tree: the end of it, or a sibling of
another kind. -/
theorem endsText_writeAll {rest : List Char} (ends : EndsText rest)
    {nodes : List Node} (apart : ∀ next ∈ nodes.head?, next.isText = false) :
    EndsText (writeAll nodes ++ rest) := by
  cases nodes with
  | nil => exact ends
  | cons node nodes =>
      intro c first
      cases node with
      | text text => simp [Node.isText] at apart
      | comment text =>
          cases first
          rfl
      | element tag attributes children =>
          rw [writeAll, write, List.cons_append, List.cons_append] at first
          cases first
          rfl

/-! ## Written trees -/

mutual

/-- Behind the markup of a node the forest has grown by this node. -/
theorem readOnto_write (f : Forest) {rest : List Char} : (node : Node) →
    node.WellFormed f.stack.length →
    (node.isText = true →
      (∀ before ∈ f.innermost.head?, before.isText = false) ∧ EndsText rest) →
    readOnto f (write node ++ rest) = readOnto (f.add node) rest
  | .text text, wellFormed, apart => by
      obtain ⟨before, behind⟩ := apart rfl
      rw [Node.WellFormed] at wellFormed
      rw [write, readOnto_text behind _ f wellFormed.noMarkup wellFormed.filled,
        String.ofList_toList, Forest.addText_eq_add before]
  | .comment text, wellFormed, _ => by
      rw [Node.WellFormed] at wellFormed
      exact readOnto_comment wellFormed f rest
  | .element tag attributes children, wellFormed, _ => by
      rw [Node.WellFormed] at wellFormed
      obtain ⟨isTag, named, content⟩ := wellFormed
      by_cases void : isVoid tag = true
      · rw [if_pos void] at content
        subst content
        have step := pieces_startTag isTag named rest
        rw [if_pos void] at step
        have built := readOnto_piece step (f := f) rfl
        simpa [write, void] using built
      · rw [if_neg void] at content
        rw [Bool.not_eq_true] at void
        by_cases raw : isRaw tag = true
        · rw [if_pos raw] at content
          rcases content with rfl | ⟨text, rfl, isRawText⟩
          · have noEnd : ¬ '<' :: '/' :: tag.toList <:+:
                List.map Char.toLower [] := by
              simp
            have step := pieces_raw isTag void raw named noEnd rest
            have built := readOnto_piece step (f := f) rfl
            simpa [write, void, writeAll, rawChildren] using built
          · have step := pieces_raw isTag void raw named isRawText.noEnd rest
            have built := readOnto_piece step (f := f) rfl
            have kept : rawChildren text.toList = [.text text] := by
              simp [rawChildren, isRawText.filled]
            rw [kept] at built
            simpa [write, void, writeAll] using built
        · rw [if_neg raw] at content
          obtain ⟨shallow, inside⟩ := content
          rw [Bool.not_eq_true] at raw
          have start := pieces_startTag isTag named
            (writeAll children ++ '<' :: '/' :: (tag.toList ++ '>' :: rest))
          rw [if_neg (by simp [void]), if_neg (by simp [raw])] at start
          have opened : f.build? (.opening tag attributes) =
              some (f.push tag attributes) := if_pos shallow
          -- The last child may be a text, which the end tag keeps from growing.
          have ends : EndsText ('<' :: '/' :: (tag.toList ++ '>' :: rest)) := by
            simp [EndsText]
          have grown := readOnto_writeAll (f.push tag attributes) ends children
            inside (by simp [Forest.innermost, Forest.push])
          have closed := readOnto_piece (pieces_endTag isTag rest)
            (f := (f.push tag attributes).addAll children) rfl
          rw [Forest.close_addAll_push] at closed
          have step := readOnto_piece start opened
          rw [grown, closed] at step
          simpa [write, void] using step

/-- Behind the markup of siblings the forest has grown by them. -/
theorem readOnto_writeAll (f : Forest) {rest : List Char} (ends : EndsText rest) :
    (nodes : List Node) → WellFormed f.stack.length nodes →
    (∀ first ∈ nodes.head?, first.isText = true →
      ∀ before ∈ f.innermost.head?, before.isText = false) →
    readOnto f (writeAll nodes ++ rest) = readOnto (f.addAll nodes) rest
  | [], _, _ => by rw [writeAll, List.nil_append, Forest.addAll_nil]
  | node :: nodes, wellFormed, apart => by
      rw [WellFormed] at wellFormed
      obtain ⟨here, gap, later⟩ := wellFormed
      have behind : node.isText = true → EndsText (writeAll nodes ++ rest) :=
        fun isText => endsText_writeAll ends (gap isText)
      rw [writeAll, List.append_assoc,
        readOnto_write f node here fun isText =>
          ⟨apart node rfl isText, behind isText⟩,
        Forest.addAll_cons]
      apply readOnto_writeAll (f.add node) ends nodes
      · rwa [Forest.length_stack_add]
      · intro first isFirst isText before isBefore
        rw [Forest.innermost_add] at isBefore
        cases isBefore
        cases spelled : node.isText with
        | false => rfl
        | true =>
            rw [gap spelled first isFirst] at isText
            contradiction

end

/-! ## Whole markup texts -/

/-- Where the strict reading has a result, the lenient one has the same. -/
theorem foldl_buildLeniently {ps : List Piece} {f g : Forest}
    (built : ps.foldlM Forest.build? f = some g) :
    ps.foldl Forest.buildLeniently f = g := by
  induction ps generalizing f with
  | nil => simpa using built
  | cons p ps inductionHypothesis =>
      rw [List.foldlM_cons] at built
      obtain ⟨next, here, later⟩ := Option.bind_eq_some_iff.1 built
      have same : f.buildLeniently p = next := by
        simp [Forest.buildLeniently, here]
      rw [List.foldl_cons, same]
      exact inductionHypothesis later

theorem readOnto_written {nodes : List Node} (wellFormed : WellFormed 0 nodes) :
    readOnto Forest.empty (writeAll nodes) = (some (Forest.empty.addAll nodes), none) := by
  have ends : EndsText [] := by
    simp [EndsText]
  have grown := readOnto_writeAll Forest.empty ends nodes wellFormed
    (by simp [Forest.innermost, Forest.empty])
  rwa [List.append_nil, readOnto_nil] at grown

/-- The markup of a well-formed tree reads back as the tree, strictly as well
as leniently. -/
theorem parse_toHtml (nodes : List Node) (wellFormed : WellFormed 0 nodes) :
    parse (toHtml nodes) = .ok nodes ∧ parseLeniently (toHtml nodes) = nodes := by
  have read := readOnto_written wellFormed
  obtain ⟨built, whole⟩ := Prod.mk.inj read
  have leniently := foldl_buildLeniently built
  constructor
  · simp [parse, toHtml, parseChars, built, whole, Forest.finish_addAll_empty]
  · simp [parseLeniently, toHtml, parseCharsLeniently, leniently, whole,
      Forest.recover, Forest.finish_addAll_empty]

/-- A text with lone `<`, attributes with quotes, a void element, and a script
that contains the start of another closing tag. -/
theorem parse_toHtml_list :
    let nodes : List Node :=
      [.text "1 < 2 & <", .comment "-",
        .element "ul" [⟨"class", some "a \"b\" &amp;"⟩, ⟨"hidden", none⟩]
          [.element "li" [] [.text "\"x\""], .element "br" [] [],
            .element "script" [] [.text "if (a</b) \x7b \x7d"]]]
    WellFormed 0 nodes ∧
      parse (toHtml nodes) = .ok nodes ∧ parseLeniently (toHtml nodes) = nodes := by
  intro nodes
  have wellFormed : WellFormed 0 nodes := by decide +kernel
  exact ⟨wellFormed, parse_toHtml nodes wellFormed⟩

end LivePages.Markup
