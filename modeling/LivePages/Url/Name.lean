import LivePages.Text.Basic
import LivePages.Text.Case
import LivePages.Text.Normal
import LivePages.Url.Label
import LivePages.Url.Punycode

/-! The names of hosts. Two ways to write one name read as the same, in letters of any script. -/

namespace LivePages.Url.Name

/-- The form in which a character of a name is compared: letters in lower case, full-width forms
narrow; invisible characters are left out. -/
def foldChar (c : Char) : List Char :=
  if c.toNat < 128 then [c.toLower]
  else if Text.covers ignoredRanges c then []
  else
    match foldWords.lookup c.toNat, Text.shiftBy foldRuns c with
    | some word, _ => word.map Char.ofNat
    | none, some d => [d]
    | none, none => Text.lowerChar c

private def isAscii (c : Char) : Bool := c.toNat < 128

/-- Reads the label that is written in letters and digits. It must be one that needs this, in the
form in which labels are compared. -/
def readEncoded? (code : List Char) : Option (List Char) :=
  if 2000 < code.length ∨ !code.all isAscii then none
  else
    (Punycode.decode? code).filter fun label =>
      !label.all isAscii && label.all (fun c => foldChar c = [c])
        && Text.normalize label = label && label.take 4 ≠ "xn--".toList

/-- Reads a folded label. -/
def readLabel? (cs : List Char) : Option (List Char) :=
  let label? :=
    match cs with
    | 'x' :: 'n' :: '-' :: '-' :: code => readEncoded? code
    | _ => if cs.all isAscii ∨ cs.length ≤ 1000 then some cs else none
  label?.filter Label.isValid

/-- Whether a name has characters that run from the right. -/
def hasRightToLeft (name : List Char) : Bool :=
  name.any fun c => [.rightToLeft, .arabicDigit].contains (Direction.ofChar c)

/-- The labels of a name, in the form in which names are compared. -/
def readLabels? (cs : List Char) : Option (List (List Char)) := do
  let folded := Text.normalize (cs.flatMap foldChar)
  let labels ← (Text.splitWhere (· = '.') folded).mapM readLabel?
  if hasRightToLeft labels.flatten ∧ !labels.all Label.staysTogether then none
  else some labels

end LivePages.Url.Name
