import LivePages.Json.Reader

/-! The four kinds of quoted texts in TOML: with or without escapes, on one line or over several. -/

namespace LivePages.Toml

/-- Whether a character may stand on a line. -/
def isLineChar (c : Char) : Bool := c = '\t' || (' ' ≤ c && c ≠ '\x7f')

def isBlankChar (c : Char) : Bool := c = ' ' || c = '\t'

/-- The character with a number given in hexadecimal digits. -/
def charOfHex? (digits : List Char) : Option Char := do
  let values ← digits.mapM Json.hexValue?
  let n := values.foldl (fun n d => 16 * n + d) 0
  if n.isValidChar then some (Char.ofNat n) else none

private def simpleEscape? : Char → Option Char
  | '"' => some '"'
  | '\\' => some '\\'
  | 'b' => some '\x08'
  | 'e' => some '\x1b'
  | 'f' => some '\x0c'
  | 'n' => some '\n'
  | 'r' => some '\r'
  | 't' => some '\t'
  | _ => none

/-- How many digits follow the letter of an escape by number. -/
private def escapeWidth? : Char → Option Nat
  | 'x' => some 2
  | 'u' => some 4
  | 'U' => some 8
  | _ => none

/-- The character of an escape whose letter is `c`, and how many characters after `c` belong to
it. -/
def escape? (c : Char) (rest : List Char) : Option (Char × Nat) :=
  match escapeWidth? c with
  | some n =>
    if (rest.take n).length = n then (charOfHex? (rest.take n)).map (·, n) else none
  | none => (simpleEscape? c).map (·, 0)

/-- Reads a text in quotes on one line, from after the opening quote. The first `n` characters are
passed over. -/
private def readQuoted? (n : Nat) : List Char → Option (List Char × List Char)
  | [] => none
  | c :: rest =>
    match n with
    | n + 1 => readQuoted? n rest
    | 0 =>
      if c = '"' then some ([], rest)
      else if !isLineChar c then none
      else if c = '\\' then
        match rest with
        | [] => none
        | e :: more => do
          let (d, width) ← escape? e more
          let (cs, tail) ← readQuoted? (width + 1) rest
          return (d :: cs, tail)
      else (readQuoted? 0 rest).map fun (cs, tail) => (c :: cs, tail)

def readText? (cs : List Char) : Option (String × List Char) :=
  (readQuoted? 0 cs).map fun (cs, rest) => (String.ofList cs, rest)

/-- Reads a text in single quotes on one line, from after the opening quote. It has no escapes. -/
def readLiteral? (cs : List Char) : Option (String × List Char) :=
  let isInside := fun c => isLineChar c && c ≠ '\''
  match cs.dropWhile isInside with
  | '\'' :: rest => some (String.ofList (cs.takeWhile isInside), rest)
  | _ => none

/-- Drops the line break that may follow the opening quotes of a text over several lines. -/
def dropFirstBreak : List Char → List Char
  | '\n' :: rest => rest
  | '\x0d' :: '\n' :: rest => rest
  | rest => rest

/-- How many blanks and line breaks follow a backslash at the end of a line. There is at least one
line break. -/
def continuation? (cs : List Char) : Option Nat :=
  match dropFirstBreak (cs.dropWhile isBlankChar), cs.dropWhile isBlankChar with
  | after, before =>
    if after.length = before.length then none
    else some (cs.takeWhile fun c => isBlankChar c || c = '\n' || c = '\x0d').length

/-- The end of a text over several lines: three quotes, and up to two more that belong to the
text. -/
private def closing? (quote : Char) (cs : List Char) : Option (List Char × List Char) :=
  let quotes := cs.takeWhile (· = quote)
  if quotes.length < 3 then none
  else
    let inside := min (quotes.length - 3) 2
    some (List.replicate inside quote, cs.drop (inside + 3))

/-- Reads a text over several lines, from after the opening quotes. Each line break is a line feed.
The first `n` characters are passed over. -/
private def readLines? (quote : Char) (escapes : Bool) (n : Nat) :
    List Char → Option (List Char × List Char)
  | [] => none
  | c :: rest =>
    match n with
    | n + 1 => readLines? quote escapes n rest
    | 0 =>
      match closing? quote (c :: rest) with
      | some found => some found
      | none =>
        if c = '\n' then (readLines? quote escapes 0 rest).map fun (cs, tail) => ('\n' :: cs, tail)
        else if c = '\x0d' ∧ rest.head? = some '\n' then readLines? quote escapes 0 rest
        else if !isLineChar c then none
        else if c = '\\' ∧ escapes then
          match continuation? rest with
          | some width => readLines? quote escapes width rest
          | none =>
            match rest with
            | [] => none
            | e :: more => do
              let (d, width) ← escape? e more
              let (cs, tail) ← readLines? quote escapes (width + 1) rest
              return (d :: cs, tail)
        else (readLines? quote escapes 0 rest).map fun (cs, tail) => (c :: cs, tail)

def readLongText? (cs : List Char) : Option (String × List Char) :=
  (readLines? '"' true 0 (dropFirstBreak cs)).map fun (cs, rest) => (String.ofList cs, rest)

def readLongLiteral? (cs : List Char) : Option (String × List Char) :=
  (readLines? '\'' false 0 (dropFirstBreak cs)).map fun (cs, rest) => (String.ofList cs, rest)

end LivePages.Toml
