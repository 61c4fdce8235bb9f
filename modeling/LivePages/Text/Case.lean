import LivePages.Text.Basic
import LivePages.Text.CaseTable

/-! Upper and lower case of texts. A text may change its length, and a capital sigma at the end of
a word becomes a final one. -/

namespace LivePages.Text

/-- The image of `c` under a table of shifted runs. -/
def shiftBy (runs : List (Nat × Nat × Nat × Nat)) (c : Char) : Option Char :=
  (runs.find? fun (first, last, step, _) =>
    first ≤ c.toNat && c.toNat ≤ last && (c.toNat - first) % step = 0).map
      fun (first, _, _, image) => Char.ofNat (image + (c.toNat - first))

private def mapCase (runs : List (Nat × Nat × Nat × Nat)) (words : List (Nat × List Nat))
    (c : Char) : List Char :=
  match words.lookup c.toNat with
  | some word => word.map Char.ofNat
  | none => [(shiftBy runs c).getD c]

/-- The upper case of one character, which may be several. -/
def upperChar (c : Char) : List Char :=
  if c.toNat < 128 then [c.toUpper] else mapCase upperRuns upperWords c

/-- The lower case of one character outside of any word. -/
def lowerChar (c : Char) : List Char :=
  if c.toNat < 128 then [c.toLower] else mapCase lowerRuns lowerWords c

def toUpper (cs : List Char) : List Char := cs.flatMap upperChar

/-- Whether the first character that carries weight for case has a case. -/
private def meetsCased (cs : List Char) : Bool :=
  match cs.dropWhile (covers caselessRanges) with
  | [] => false
  | c :: _ => covers casedRanges c

/-- Lower case after the characters `before` (nearest first): a capital sigma that ends a word
becomes a final sigma. -/
def toLowerAfter (before : List Char) : List Char → List Char
  | [] => []
  | c :: rest =>
    let lower :=
      if c = 'Σ' then
        if meetsCased before && !meetsCased rest then ['ς'] else ['σ']
      else lowerChar c
    lower ++ toLowerAfter (c :: before) rest

def toLower (cs : List Char) : List Char := toLowerAfter [] cs

end LivePages.Text
