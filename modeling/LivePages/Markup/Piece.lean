import LivePages.Markup.Entity
import LivePages.Markup.Node
import LivePages.Text.Basic

/-! A markup text as a list of tags, texts and comments. How tags match each other does not matter
here, so the strict and the lenient reading share all of it. -/

namespace LivePages.Markup

/-- The pieces of a markup text, before tags are matched with each other. -/
inductive Piece where
  | text (text : List Char)
  | comment (text : List Char)
  /-- The tag of an element that is complete by itself. -/
  | leaf (tag : String) (attributes : List Attribute)
  /-- A raw element with its content. -/
  | raw (tag : String) (attributes : List Attribute) (content : List Char)
  | opening (tag : String) (attributes : List Attribute)
  | closing (tag : String)
deriving Inhabited

/-- A construct that the end of the text cuts off, with the text from its start on. -/
inductive Cut where
  | comment (rest : List Char)
  | tag (rest : List Char)
  /-- An attribute value without its closing quote. -/
  | value (rest : List Char)
deriving Inhabited

/-- The text before the first `stop`, and what follows it. -/
def splitAt? (stop : Char) : List Char → Option (List Char × List Char)
  | [] => none
  | c :: rest =>
    if c = stop then some ([], rest)
    else (splitAt? stop rest).map fun (before, after) => (c :: before, after)

/-- The text of a comment up to its end mark, and what follows the mark. -/
def splitComment? : List Char → Option (List Char × List Char)
  | [] => none
  | '-' :: '-' :: '>' :: rest => some ([], rest)
  | c :: rest => (splitComment? rest).map fun (before, after) => (c :: before, after)

/-- Whether `cs` starts with the lower-case `word` in any mix of cases. -/
def startsWithWord : List Char → List Char → Bool
  | [], _ => true
  | w :: ws, c :: cs => c.toLower = w && startsWithWord ws cs
  | _ :: _, [] => false

/-- The text before the first occurrence of `word` in any mix of cases, and the text from there
on. -/
def splitBefore (word : List Char) : List Char → List Char × List Char
  | [] => ([], [])
  | c :: rest =>
    if startsWithWord word (c :: rest) then ([], c :: rest)
    else
      let (before, after) := splitBefore word rest
      (c :: before, after)

def isTagChar (c : Char) : Bool := !(Text.isBlank c || c = '>' || c = '/')

def isAttributeChar (c : Char) : Bool := !(Text.isBlank c || c = '=' || c = '>' || c = '/')

def isUnquotedChar (c : Char) : Bool := !(Text.isBlank c || c = '>')

def lowered (cs : List Char) : String := String.ofList (cs.map Char.toLower)

/-- The value of an attribute, as written, and what follows it. -/
def readAttributeValue (cs : List Char) : Except Cut (List Char × List Char) :=
  match cs with
  | '"' :: rest => (splitAt? '"' rest).elim (.error (.value cs)) .ok
  | '\'' :: rest => (splitAt? '\'' rest).elim (.error (.value cs)) .ok
  | _ => .ok (cs.takeWhile isUnquotedChar, cs.dropWhile isUnquotedChar)

theorem length_splitAt? {stop : Char} {cs before after : List Char}
    (h : splitAt? stop cs = some (before, after)) : after.length < cs.length := by
  induction cs generalizing before with
  | nil => simp [splitAt?] at h
  | cons c cs ih =>
    rw [splitAt?] at h
    split at h
    · simp_all
    · obtain ⟨⟨b, a⟩, hs, he⟩ := Option.map_eq_some_iff.1 h
      obtain ⟨rfl, rfl⟩ := Prod.mk.inj he
      exact Nat.lt_succ_of_lt (ih hs)

theorem length_dropWhile_le (p : Char → Bool) (cs : List Char) :
    (cs.dropWhile p).length ≤ cs.length :=
  (List.dropWhile_suffix p).length_le

theorem length_trimStart_le (cs : List Char) : (Text.trimStart cs).length ≤ cs.length :=
  length_dropWhile_le _ _

theorem length_readAttributeValue {cs value after : List Char}
    (h : readAttributeValue cs = .ok (value, after)) : after.length ≤ cs.length := by
  unfold readAttributeValue at h
  split at h
  · next rest =>
    cases hs : splitAt? '"' rest with
    | none => simp [hs] at h
    | some p =>
      obtain ⟨b, a⟩ := p
      simp only [hs, Option.elim, Except.ok.injEq, Prod.mk.injEq] at h
      have := length_splitAt? hs
      simp only [List.length_cons, ← h.2]
      omega
  · next rest =>
    cases hs : splitAt? '\'' rest with
    | none => simp [hs] at h
    | some p =>
      obtain ⟨b, a⟩ := p
      simp only [hs, Option.elim, Except.ok.injEq, Prod.mk.injEq] at h
      have := length_splitAt? hs
      simp only [List.length_cons, ← h.2]
      omega
  · simp only [Except.ok.injEq, Prod.mk.injEq] at h
    rw [← h.2]
    exact length_dropWhile_le _ _

/-- The attributes of a tag, whether the tag closes itself, and what follows it. `tag` is the text
from the start of the tag on. -/
def readAttributes (tag cs : List Char) : Except Cut (List Attribute × Bool × List Char) :=
  match _h : Text.trimStart cs with
  | [] => .error (.tag tag)
  | '>' :: rest => .ok ([], false, rest)
  | '/' :: '>' :: rest => .ok ([], true, rest)
  | '/' :: rest => readAttributes tag rest
  | c :: rest =>
    if c = '=' then readAttributes tag rest
    else
      let name := lowered (c :: rest.takeWhile isAttributeChar)
      match _hr : Text.trimStart (rest.dropWhile isAttributeChar) with
      | '=' :: more =>
        match _hv : readAttributeValue (Text.trimStart more) with
        | .error cut => .error cut
        | .ok (value, after) =>
          let a : Attribute := ⟨name, some (String.ofList (decodeEntities value))⟩
          (readAttributes tag after).map fun (as, tail) => (a :: as, tail)
      | after => (readAttributes tag after).map fun (as, tail) => (⟨name, none⟩ :: as, tail)
termination_by cs.length
decreasing_by
  all_goals
    have hc := length_trimStart_le cs
    simp only [_h, List.length_cons] at hc
  · omega
  · omega
  · have hv := length_readAttributeValue _hv
    have hm := length_trimStart_le more
    have hd := length_dropWhile_le isAttributeChar rest
    have ht := length_trimStart_le (rest.dropWhile isAttributeChar)
    simp only [_hr, List.length_cons] at ht
    omega
  · have hd := length_dropWhile_le isAttributeChar rest
    have ht := length_trimStart_le (rest.dropWhile isAttributeChar)
    rw [_hr] at ht
    omega

private theorem exists_of_map_ok {ε α β : Type} {f : α → β} {e : Except ε α} {b : β}
    (h : e.map f = .ok b) : ∃ a, e = .ok a ∧ f a = b := by
  cases e with
  | error err => simp [Except.map] at h
  | ok a => exact ⟨a, rfl, by simpa [Except.map] using h⟩

theorem length_readAttributes {tag cs after : List Char} {attributes : List Attribute}
    {closed : Bool} (h : readAttributes tag cs = .ok (attributes, closed, after)) :
    after.length < cs.length := by
  fun_induction readAttributes tag cs generalizing attributes closed with
  | case1 => simp at h
  | case2 cs rest hc =>
    have hl := length_trimStart_le cs
    simp only [Except.ok.injEq, Prod.mk.injEq] at h
    obtain ⟨-, -, rfl⟩ := h
    simp only [hc, List.length_cons] at hl
    omega
  | case3 cs rest hc =>
    have hl := length_trimStart_le cs
    simp only [Except.ok.injEq, Prod.mk.injEq] at h
    obtain ⟨-, -, rfl⟩ := h
    simp only [hc, List.length_cons] at hl
    omega
  | case4 cs rest _ hc ih =>
    have hl := length_trimStart_le cs
    have hr := ih h
    simp only [hc, List.length_cons] at hl
    omega
  | case5 cs rest _ _ _ hc ih =>
    have hl := length_trimStart_le cs
    have hr := ih h
    simp only [hc, List.length_cons] at hl
    omega
  | case6 => simp at h
  | case7 =>
    rename_i cs c rest _ _ _ hc _ _ more hr _ tail hv _ ih
    obtain ⟨⟨as, closed', tail'⟩, he, heq⟩ := exists_of_map_ok h
    simp only [Prod.mk.injEq] at heq
    obtain ⟨-, rfl, rfl⟩ := heq
    have h1 := ih he
    have h2 := length_readAttributeValue hv
    have h3 := length_trimStart_le more
    have h4 := length_dropWhile_le isAttributeChar rest
    have h5 := length_trimStart_le (rest.dropWhile isAttributeChar)
    have h6 := length_trimStart_le cs
    simp only [hr, hc, List.length_cons] at h5 h6
    omega
  | case8 =>
    rename_i cs c rest _ _ _ hc _ _ _ ih
    obtain ⟨⟨as, closed', tail'⟩, he, heq⟩ := exists_of_map_ok h
    simp only [Prod.mk.injEq] at heq
    obtain ⟨-, rfl, rfl⟩ := heq
    have h1 := ih he
    have h4 := length_dropWhile_le isAttributeChar rest
    have h5 := length_trimStart_le (rest.dropWhile isAttributeChar)
    have h6 := length_trimStart_le cs
    simp only [hc, List.length_cons] at h6
    omega

theorem length_splitComment? {cs before after : List Char}
    (h : splitComment? cs = some (before, after)) : after.length < cs.length := by
  fun_induction splitComment? cs generalizing before with
  | case1 => simp at h
  | case2 =>
    simp only [Option.some.injEq, Prod.mk.injEq] at h
    simp only [List.length_cons, h.2]
    omega
  | case3 c rest _ ih =>
    obtain ⟨⟨b, a⟩, hs, he⟩ := Option.map_eq_some_iff.1 h
    obtain ⟨rfl, rfl⟩ := Prod.mk.inj he
    exact Nat.lt_succ_of_lt (ih hs)

theorem length_splitBefore_le (word cs : List Char) :
    (splitBefore word cs).2.length ≤ cs.length := by
  induction cs with
  | nil => simp [splitBefore]
  | cons c rest ih =>
    rw [splitBefore]
    split
    · simp
    · exact Nat.le_succ_of_le ih

/-- Puts a piece in front of the others. -/
def addPiece (piece : Piece) (rest : List Piece × Option Cut) : List Piece × Option Cut :=
  (piece :: rest.1, rest.2)

/-- The pieces of a markup text, up to the construct that its end cuts off, if there is one.
Declarations are passed over, and a closing tag after a raw element is dropped with the element's
text. -/
def pieces (cs : List Char) : List Piece × Option Cut :=
  match cs with
  | [] => ([], none)
  | '<' :: '!' :: '-' :: '-' :: body =>
    match _h : splitComment? body with
    | some (text, rest) => addPiece (.comment text) (pieces rest)
    | none => ([], some (.comment cs))
  | '<' :: '/' :: body =>
    match _h : splitAt? '>' body with
    | some (name, rest) => addPiece (.closing (lowered (Text.trim name))) (pieces rest)
    | none => ([], some (.tag cs))
  | '<' :: '!' :: body =>
    match _h : splitAt? '>' body with
    | some (_, rest) => pieces rest
    | none => ([], some (.tag cs))
  | c :: rest =>
    if c = '<' ∧ (rest.head?.any Char.isAlpha) = true then
      let tag := lowered (rest.takeWhile isTagChar)
      match _h : readAttributes cs (rest.dropWhile isTagChar) with
      | .error cut => ([], some cut)
      | .ok (attributes, closed, body) =>
        if closed || isVoid tag then addPiece (.leaf tag attributes) (pieces body)
        else if isRaw tag then
          let content := (splitBefore ('<' :: '/' :: tag.toList) body).1
          match _hb : (splitBefore ('<' :: '/' :: tag.toList) body).2 with
          | [] => ([.raw tag attributes content], none)
          | d :: more =>
            match _hs : splitAt? '>' (d :: more) with
            | some (_, tail) => addPiece (.raw tag attributes content) (pieces tail)
            | none => ([.raw tag attributes content], some (.tag (d :: more)))
        else addPiece (.opening tag attributes) (pieces body)
    else
      addPiece (.text (c :: rest.takeWhile (· ≠ '<'))) (pieces (rest.dropWhile (· ≠ '<')))
termination_by cs.length
decreasing_by
  all_goals simp only [List.length_cons]
  · have := length_splitComment? _h
    omega
  · have := length_splitAt? _h
    omega
  · have := length_splitAt? _h
    omega
  · have := length_readAttributes _h
    have := length_dropWhile_le isTagChar rest
    omega
  · have h1 := length_readAttributes _h
    have h2 := length_dropWhile_le isTagChar rest
    have h3 := length_splitBefore_le ('<' :: '/' :: tag.toList) body
    have h4 := length_splitAt? _hs
    rw [_hb] at h3
    omega
  · have := length_readAttributes _h
    have := length_dropWhile_le isTagChar rest
    omega
  · have := length_dropWhile_le (· ≠ '<') rest
    omega

end LivePages.Markup
