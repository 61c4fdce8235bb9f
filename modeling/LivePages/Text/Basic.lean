import LivePages.Text.LetterTable

/-! Texts as lists of characters: sets of code points, blanks and letters, the parts of a text, and
its size. The tables of this library follow Unicode 17. -/

namespace LivePages.Text

/-! ## Kinds of characters -/

/-- Whether one of the closed intervals holds the code point of `c`. -/
def covers (ranges : List (Nat × Nat)) (c : Char) : Bool :=
  ranges.any fun (first, last) => first ≤ c.toNat && c.toNat ≤ last

/-- Letters in the sense of the Unicode property `Alphabetic`. -/
def isLetter (c : Char) : Bool :=
  c.isAlpha || (128 ≤ c.toNat && covers letterRanges c)

/-- Characters of the Unicode categories of numbers. -/
def isNumeral (c : Char) : Bool :=
  c.isDigit || (128 ≤ c.toNat && covers numeralRanges c)

def isLetterOrNumeral (c : Char) : Bool := isLetter c || isNumeral c

/-- The code points with the Unicode property `White_Space`, as closed intervals. -/
def blankRanges : List (Nat × Nat) :=
  [(0x9, 0xD), (0x20, 0x20), (0x85, 0x85), (0xA0, 0xA0), (0x1680, 0x1680), (0x2000, 0x200A),
    (0x2028, 0x2029), (0x202F, 0x202F), (0x205F, 0x205F), (0x3000, 0x3000)]

def isBlank (c : Char) : Bool := covers blankRanges c

/-- `cs` without the blanks at its start. -/
def trimStart (cs : List Char) : List Char := cs.dropWhile isBlank

/-- `cs` without the blanks at its end. -/
def trimEnd (cs : List Char) : List Char := (trimStart cs.reverse).reverse

/-- `cs` without the blanks at both ends. -/
def trim (cs : List Char) : List Char := trimEnd (trimStart cs)

/-! ## Parts and sizes -/

/-- The parts of `cs` between the characters at which it is cut, empty ones included. -/
def splitWhere (isCut : Char → Bool) : List Char → List (List Char)
  | [] => [[]]
  | c :: rest =>
    if isCut c then [] :: splitWhere isCut rest
    else
      match splitWhere isCut rest with
      | part :: parts => (c :: part) :: parts
      | [] => [[c]]

/-- The number of bytes of `cs` in UTF-8. Positions in messages are counted so. -/
def byteLength : List Char → Nat
  | [] => 0
  | c :: cs => c.utf8Size + byteLength cs

@[simp] theorem byteLength_append (cs ds : List Char) :
    byteLength (cs ++ ds) = byteLength cs + byteLength ds := by
  induction cs with
  | nil => simp [byteLength]
  | cons c cs ih => simp [byteLength, ih, Nat.add_assoc]

/-! ## Written tables

A table that sends a code point to code points is written as text: a code point with a colon, then
the image of it and of those that follow it, with plus signs inside of an image. -/

/-- The number that digits of base sixteen, the letters in upper case, stand for. -/
def codePoint (digits : List Char) : Nat :=
  digits.foldl (fun n c => 16 * n + (c.toNat - if c.isDigit then 48 else 55)) 0

/-- The entries that the words of a table make, where `next` is the code point of the next one. -/
def tableEntries (next : Nat) : List (List Char) → List (Nat × List Nat)
  | [] => []
  | word :: rest =>
    if word.getLast? = some ':' then tableEntries (codePoint word.dropLast) rest
    else (next, (splitWhere (· = '+') word).map codePoint) :: tableEntries (next + 1) rest

/-- Reads a table, in which words stand between blanks and line breaks. -/
def readTable (text : String) : List (Nat × List Nat) :=
  let words := splitWhere (fun c => c = ' ' || c = '\n') text.toList
  tableEntries 0 (words.filter (· ≠ []))

end LivePages.Text
