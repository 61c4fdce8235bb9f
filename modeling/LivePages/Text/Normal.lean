import LivePages.Text.Basic
import LivePages.Text.ComposeTable
import LivePages.Text.MarkTable
import LivePages.Text.PrintTable

/-! Marks, which belong to the character before them, and one way to write each letter with marks:
taken apart, the marks brought in order, and put together again. Only what can come out of this is
taken apart; a code point that merely repeats another one stays as it is. -/

namespace LivePages.Text

/-! ## Marks -/

/-- Characters that extend the one before them and are no marks: a joiner, the voicing signs of
narrow letters, and tags. -/
private def isOtherExtender (c : Char) : Bool :=
  covers [(0x200C, 0x200C), (0xFF9E, 0xFF9F), (0xE0020, 0xE007F)] c

def isSpacingMark (c : Char) : Bool := covers spacingMarkRanges c

/-- Marks that take no room of their own, above, below or around a letter. -/
def isNonspacingMark (c : Char) : Bool :=
  covers extendingRanges c && !isSpacingMark c && !isOtherExtender c

def isMark (c : Char) : Bool := isSpacingMark c || isNonspacingMark c

/-- The place of a mark among the marks of one letter. Zero is for what stands for itself. -/
def combiningClass (c : Char) : Nat :=
  match combiningRanges.find? fun (first, last, _) => first ≤ c.toNat && c.toNat ≤ last with
  | some (_, _, place) => place
  | none => 0

/-- The marks that take away the vowel of a letter. -/
def isVowelKiller (c : Char) : Bool := combiningClass c = 9

/-! ## Letters with marks -/

/-- The number of vowels that a Korean syllable may have. -/
def vowelCount : Nat := 21

/-- The number of endings that a Korean syllable may have. To have none counts as one. -/
def endingCount : Nat := 28

/-- The number of Korean syllables, which begin in one of 19 ways. -/
def syllableCount : Nat := 19 * vowelCount * endingCount

/-- The letters of a Korean syllable. -/
def syllableLetters (c : Char) : List Char :=
  let i := c.toNat - 0xAC00
  let initial := Char.ofNat (0x1100 + i / (vowelCount * endingCount))
  let vowel := Char.ofNat (0x1161 + i / endingCount % vowelCount)
  if i % endingCount = 0 then [initial, vowel]
  else [initial, vowel, Char.ofNat (0x11A7 + i % endingCount)]

def isSyllable (c : Char) : Bool := 0xAC00 ≤ c.toNat && c.toNat < 0xAC00 + syllableCount

/-- What a character consists of. -/
def decomposed (c : Char) : List Char :=
  if c.toNat < 0xC0 then [c]
  else if isSyllable c then syllableLetters c
  else
    match composites.lookup c.toNat with
    | some parts => parts.map Char.ofNat
    | none => [c]

/-- The syllable of an initial and a vowel, or of a syllable without an ending and an ending. -/
def syllable? (a b : Char) : Option Char :=
  let i := a.toNat
  let j := b.toNat
  if 0x1100 ≤ i ∧ i < 0x1113 ∧ 0x1161 ≤ j ∧ j < 0x1161 + vowelCount then
    some (Char.ofNat (0xAC00 + ((i - 0x1100) * vowelCount + (j - 0x1161)) * endingCount))
  else if isSyllable a ∧ (i - 0xAC00) % endingCount = 0 ∧ 0x11A7 < j ∧ j < 0x11A7 + endingCount then
    some (Char.ofNat (i + (j - 0x11A7)))
  else none

/-- The one character for a character and what follows it. -/
def composite? (a b : Char) : Option Char :=
  if b.toNat < 0x300 then none
  else
    match syllable? a b with
    | some c => some c
    | none =>
      let parts := (decomposed a ++ [b]).map Char.toNat
      (composites.find? fun (_, whole) => whole = parts).map fun (n, _) => Char.ofNat n

/-- Puts a mark in front of the marks of a higher place. -/
def insertMark (c : Char) : List Char → List Char
  | [] => [c]
  | d :: rest =>
    if combiningClass d = 0 ∨ combiningClass c ≤ combiningClass d then c :: d :: rest
    else d :: insertMark c rest

/-- Brings marks in order. Marks of one place stay as they are to each other. -/
def orderMarks : List Char → List Char
  | [] => []
  | c :: rest =>
    if combiningClass c = 0 then c :: orderMarks rest else insertMark c (orderMarks rest)

/-- Puts `starter` together with what follows. `passed` are the marks in between, the last one
first, that could not be put together with it. -/
def composeFrom (starter : Char) (passed : List Char) : List Char → List Char
  | [] => starter :: passed.reverse
  | c :: rest =>
    let isBlocked := passed.head?.any fun d => combiningClass c ≤ combiningClass d
    match if isBlocked then none else composite? starter c with
    | some whole => composeFrom whole passed rest
    | none =>
      if combiningClass c = 0 then starter :: passed.reverse ++ composeFrom c [] rest
      else composeFrom starter (c :: passed) rest

/-- Puts characters together as far as they go. -/
def compose : List Char → List Char
  | [] => []
  | c :: rest => if combiningClass c = 0 then composeFrom c [] rest else c :: compose rest

/-- The composed form of a text. -/
def normalize (cs : List Char) : List Char := compose (orderMarks (cs.flatMap decomposed))

end LivePages.Text
