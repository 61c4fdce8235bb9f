import LivePages.Text.Basic
import LivePages.Text.PrintTable

namespace LivePages.Text

/-- The digits of `n` in base sixteen, in lower case. -/
def hexDigits (n : Nat) : List Char := Nat.toDigits 16 n

/-- Letters that only fill the place of a Korean letter. -/
def isFiller (c : Char) : Bool :=
  covers [(0x115F, 0x1160), (0x3164, 0x3164), (0xFFA0, 0xFFA0)] c

/-- The signs that follow narrow letters. They extend them and still show apart. -/
def isVoicingSign (c : Char) : Bool := covers [(0xFF9E, 0xFF9F)] c

/-- Whether a character may stand for itself in a quoted text. -/
def isPrinted (c : Char) : Bool :=
  c = ' ' || isVoicingSign c
    || !(covers unprintedRanges c || covers extendingRanges c || isFiller c)

private def quoteChar (c : Char) : List Char :=
  match c with
  | '\x00' => ['\\', '0']
  | '\t' => ['\\', 't']
  | '\r' => ['\\', 'r']
  | '\n' => ['\\', 'n']
  | '"' => ['\\', '"']
  | '\\' => ['\\', '\\']
  | c => if isPrinted c then [c] else ['\\', 'u', '\x7b'] ++ hexDigits c.toNat ++ ['\x7d']

/-- A text between double quotes. Quotes, backslashes and line breaks are escaped, and every
character that would not show is given by its code point. -/
def quoted (s : String) : String :=
  String.ofList ('"' :: s.toList.flatMap quoteChar ++ ['"'])

end LivePages.Text
