import LivePages.Json.Number

/-! JSON texts as values. Arrays and objects nest to a fixed depth, which bounds the reader. -/

namespace LivePages.Json

def isSpace (c : Char) : Bool := c = ' ' || c = '\n' || c = '\t' || c = '\r'

def skipSpace (cs : List Char) : List Char := cs.dropWhile isSpace

def hexValue? (c : Char) : Option Nat :=
  if c.isDigit then some (c.toNat - '0'.toNat)
  else if 'a' ≤ c ∧ c ≤ 'f' then some (c.toNat - 'a'.toNat + 10)
  else if 'A' ≤ c ∧ c ≤ 'F' then some (c.toNat - 'A'.toNat + 10)
  else none

/-- The code unit of four hexadecimal digits. -/
def hexUnit? (a b c d : Char) : Option Nat := do
  return ((← hexValue? a) * 16 + (← hexValue? b)) * 256 + (← hexValue? c) * 16 + (← hexValue? d)

/-- The character that an escape of one letter stands for. -/
def simpleEscape? : Char → Option Char
  | '"' => some '"'
  | '\\' => some '\\'
  | '/' => some '/'
  | 'b' => some '\x08'
  | 'f' => some '\x0c'
  | 'n' => some '\n'
  | 'r' => some '\r'
  | 't' => some '\t'
  | _ => none

/-- Puts a character in front of those that were read. -/
def put (c : Char) : Option (List Char × List Char) → Option (List Char × List Char)
  | some (cs, rest) => some (c :: cs, rest)
  | none => none

/-- The characters of a string up to its closing quote, and what follows it. A character outside the
basic plane is escaped as a pair of surrogates; half a pair is refused. -/
def readChars? : List Char → Option (List Char × List Char)
  | '"' :: rest => some ([], rest)
  | '\\' :: 'u' :: a :: b :: c :: d :: rest =>
    match hexUnit? a b c d with
    | none => none
    | some high =>
      if high < 0xD800 ∨ 0xE000 ≤ high then put (Char.ofNat high) (readChars? rest)
      else
        match rest with
        | '\\' :: 'u' :: e :: f :: g :: h :: more =>
          match hexUnit? e f g h with
          | none => none
          | some low =>
            if high < 0xDC00 ∧ 0xDC00 ≤ low ∧ low < 0xE000 then
              put (Char.ofNat (0x10000 + (high - 0xD800) * 0x400 + (low - 0xDC00)))
                (readChars? more)
            else none
        | _ => none
  | '\\' :: c :: rest =>
    match simpleEscape? c with
    | some d => put d (readChars? rest)
    | none => none
  | c :: rest => if c = '\\' ∨ c < ' ' then none else put c (readChars? rest)
  | [] => none

def readString? (cs : List Char) : Option (String × List Char) :=
  (readChars? cs).map fun (text, rest) => (String.ofList text, rest)

/-- Entries separated by commas up to `close`. The fuel bounds their number. -/
def readEntries? {α : Type} (entry : List Char → Option (α × List Char)) (close : Char) :
    Nat → List Char → Option (List α × List Char)
  | 0, _ => none
  | fuel + 1, cs =>
    match entry cs with
    | none => none
    | some (first, rest) =>
      match skipSpace rest with
      | ',' :: more =>
        (readEntries? entry close fuel more).map fun (es, tail) => (first :: es, tail)
      | c :: more => if c = close then some ([first], more) else none
      | [] => none

/-- Reads a field of an object: a string, a colon and a value. -/
def readField? (value : List Char → Option (Value × List Char)) (cs : List Char) :
    Option ((String × Value) × List Char) :=
  match skipSpace cs with
  | '"' :: rest =>
    match readString? rest with
    | some (key, more) =>
      match skipSpace more with
      | ':' :: tail => (value tail).map fun (v, after) => ((key, v), after)
      | _ => none
    | none => none
  | _ => none

/-- Reads a value with arrays and objects nested at most `depth` deep. An object is built from its
fields in the order of the text. -/
def readValue? (build : List (String × Value) → Value) :
    Nat → List Char → Option (Value × List Char)
  | depth, cs =>
    match skipSpace cs with
    | 'n' :: 'u' :: 'l' :: 'l' :: rest => some (.null, rest)
    | 't' :: 'r' :: 'u' :: 'e' :: rest => some (.bool true, rest)
    | 'f' :: 'a' :: 'l' :: 's' :: 'e' :: rest => some (.bool false, rest)
    | '"' :: rest => (readString? rest).map fun (s, more) => (.str s, more)
    | '[' :: rest =>
      match depth with
      | 0 => none
      | depth + 1 =>
        match skipSpace rest with
        | ']' :: more => some (.arr [], more)
        | more =>
          (readEntries? (readValue? build depth) ']' more.length more).map fun (items, tail) =>
            (.arr items, tail)
    | '\x7b' :: rest =>
      match depth with
      | 0 => none
      | depth + 1 =>
        match skipSpace rest with
        | '\x7d' :: more => some (.obj [], more)
        | more =>
          (readEntries? (readField? (readValue? build depth)) '\x7d' more.length more).map
            fun (fields, tail) => (build fields, tail)
    | start => (readNumber? start).map fun (n, rest) => (.num n, rest)

/-- How deep arrays and objects may nest. -/
def maxDepth : Nat := 127

/-- The value of a text that is nothing but one value. -/
def readAll? (build : List (String × Value) → Value) (s : String) : Option Value :=
  match readValue? build maxDepth s.toList with
  | some (v, rest) => if skipSpace rest = [] then some v else none
  | none => none

/-- The value of a JSON text. -/
def read? (s : String) : Option Value := readAll? Value.ofFields s

/-- The value of a JSON text whose objects keep all their fields in the order of the text. -/
def readInOrder? (s : String) : Option Value := readAll? Value.obj s

end LivePages.Json
