import LivePages.Text.Normal
import LivePages.Url.LabelTable
import LivePages.Url.NameTable

/-! What the parts of a name, between its dots, may hold. -/

namespace LivePages.Url

/-- How a character runs in a line. -/
inductive Direction where
  | leftToRight
  | rightToLeft
  | arabicDigit
  | europeanDigit
  | neutral
  | mark
deriving DecidableEq, Inhabited

/-- Marks whose own direction is from the left. -/
private def isDirectedMark (c : Char) : Bool :=
  Text.covers [(0xCBF, 0xCBF), (0xCC6, 0xCC6), (0x11A07, 0x11A08), (0x11C3F, 0x11C3F)] c

def Direction.ofChar (c : Char) : Direction :=
  if c.toNat = 0x1171E ∨ (Text.isNonspacingMark c ∧ !isDirectedMark c) then .mark
  else if Text.covers arabicDigitRanges c then .arabicDigit
  else if Text.covers europeanDigitRanges c then .europeanDigit
  else if Text.covers neutralRanges c then .neutral
  else if Text.covers rightToLeftRanges c then .rightToLeft
  else .leftToRight

namespace Label

def isNonJoiner (c : Char) : Bool := c.toNat = 0x200C

def isJoiner (c : Char) : Bool := c.toNat = 0x200D

/-- Characters that a label may hold once they are folded. ASCII is not looked at. -/
def isNamed (c : Char) : Bool :=
  c.toNat < 128 || isNonJoiner c || isJoiner c
    || !(Text.covers Text.unprintedRanges c || Text.covers unnamedRanges c)

/-- Letters join across these. -/
private def isTransparent (c : Char) : Bool := Text.isNonspacingMark c || c.toNat = 0x1E94B

/-- Whether the nearest letter, of those given from near to far, is in one of two tables. -/
private def nearestIs (ranges others : List (Nat × Nat)) (cs : List Char) : Bool :=
  (cs.find? fun c => !isTransparent c).any fun c => Text.covers ranges c || Text.covers others c

/-- Whether joiners stand only where they change how letters look. `before` is what comes before,
the last character first. -/
def joinersShow (before : List Char) : List Char → Bool
  | [] => true
  | c :: rest =>
    let separates := nearestIs bothJoiningRanges nextJoiningRanges before
      && nearestIs bothJoiningRanges previousJoiningRanges rest
    let shows := before.head?.any Text.isVowelKiller || (isNonJoiner c && separates)
    (!(isNonJoiner c || isJoiner c) || shows) && joinersShow (c :: before) rest

/-- Whether folded characters make a label. -/
def isValid (label : List Char) : Bool :=
  label.all isNamed && joinersShow [] label && !label.head?.any Text.isMark

/-- Whether a label stays together in a line that runs from the right. -/
def staysTogether (label : List Char) : Bool :=
  let directions := label.map Direction.ofChar
  let last := (directions.reverse.dropWhile (· = .mark)).head?
  match directions with
  | [] => true
  | .leftToRight :: _ =>
    !directions.contains .rightToLeft && !directions.contains .arabicDigit
      && (last = some .leftToRight || last = some .europeanDigit)
  | .rightToLeft :: _ =>
    !directions.contains .leftToRight && last ≠ some .neutral
      && !(directions.contains .arabicDigit && directions.contains .europeanDigit)
  | _ => false

end Label

end LivePages.Url
