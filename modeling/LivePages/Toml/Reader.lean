import LivePages.Toml.Scalar
import LivePages.Toml.Section
import LivePages.Toml.Text

/-! TOML texts as tables. -/

namespace LivePages.Toml

def skipBlanks (cs : List Char) : List Char := cs.dropWhile isBlankChar

/-- Skips blanks, line breaks and comments; `inComment` tells whether a comment goes on. -/
def skipLines? (inComment : Bool) : List Char → Option (List Char)
  | [] => some []
  | '\n' :: rest => skipLines? false rest
  | '\x0d' :: '\n' :: rest => skipLines? false rest
  | c :: rest =>
    if inComment then if isLineChar c then skipLines? true rest else none
    else if c = '#' then skipLines? true rest
    else if isBlankChar c then skipLines? false rest
    else some (c :: rest)

/-- What follows the end of a line, before which only blanks and a comment may stand. -/
def afterLine? (cs : List Char) : Option (List Char) :=
  let rest :=
    match skipBlanks cs with
    | '#' :: comment => comment.dropWhile isLineChar
    | rest => rest
  match rest with
  | [] => some []
  | '\n' :: next => some next
  | '\x0d' :: '\n' :: next => some next
  | _ => none

def isBareChar (c : Char) : Bool := c.isAlphanum || c = '-' || c = '_'

private def readKeyPart? (cs : List Char) : Option (String × List Char) :=
  match cs with
  | '"' :: rest => readText? rest
  | '\'' :: rest => readLiteral? rest
  | _ =>
    let part := cs.takeWhile isBareChar
    if part = [] then none else some (String.ofList part, cs.dropWhile isBareChar)

/-- Reads a key: its parts before the last dot, and the last one. The fuel bounds their number. -/
def readKey? : Nat → List Char → Option ((List String × String) × List Char)
  | 0, _ => none
  | fuel + 1, cs => do
    let (part, rest) ← readKeyPart? cs
    match skipBlanks rest with
    | '.' :: more =>
      let ((path, key), tail) ← readKey? fuel (skipBlanks more)
      return ((part :: path, key), tail)
    | tail => return (([], part), tail)

def isScalarChar (c : Char) : Bool :=
  c.isAlphanum || c = '-' || c = '_' || c = '+' || c = '.' || c = ':'

/-- The characters of a value without quotes or brackets. A blank may stand between a date and a
time of day. -/
private def scalarChars (cs : List Char) : List Char × List Char :=
  let first := cs.takeWhile isScalarChar
  match afterDate? first, cs.dropWhile isScalarChar with
  | some [], ' ' :: c :: rest =>
    if c.isDigit then
      (first ++ ' ' :: (c :: rest).takeWhile isScalarChar, (c :: rest).dropWhile isScalarChar)
    else (first, ' ' :: c :: rest)
  | _, rest => (first, rest)

/-- Elements up to `close`, separated by commas, with blanks, line breaks and comments around them.
The fuel bounds their number. -/
private def readElements? {α : Type} (element : List Char → Option (α × List Char)) (close : Char) :
    Nat → List Char → Option (List α × List Char)
  | 0, _ => none
  | fuel + 1, cs => do
    match ← skipLines? false cs with
    | [] => none
    | c :: rest =>
      if c = close then return ([], rest)
      let (first, after) ← element (c :: rest)
      match ← skipLines? false after with
      | ',' :: more =>
        let (others, tail) ← readElements? element close fuel more
        return (first :: others, tail)
      | d :: tail => if d = close then return ([first], tail) else none
      | [] => none

private def readEntryWith? (value : List Char → Option (Toml × List Char)) (cs : List Char) :
    Option (Entry × List Char) := do
  let ((path, key), rest) ← readKey? (cs.length + 1) cs
  match rest with
  | '=' :: more =>
    let (v, tail) ← value (skipBlanks more)
    return (⟨path, key, v⟩, tail)
  | _ => none

/-- Reads a value with brackets nested at most `depth` deep. -/
def readValue? : Nat → List Char → Option (Toml × List Char)
  | depth, cs =>
    match cs with
    | '"' :: '"' :: '"' :: rest => (readLongText? rest).map fun (s, tail) => (.text s, tail)
    | '"' :: rest => (readText? rest).map fun (s, tail) => (.text s, tail)
    | '\'' :: '\'' :: '\'' :: rest => (readLongLiteral? rest).map fun (s, tail) => (.text s, tail)
    | '\'' :: rest => (readLiteral? rest).map fun (s, tail) => (.text s, tail)
    | '[' :: rest =>
      match depth with
      | 0 => none
      | depth + 1 =>
        (readElements? (readValue? depth) ']' cs.length rest).map fun (items, tail) =>
          (.array items, tail)
    | '\x7b' :: rest =>
      match depth with
      | 0 => none
      | depth + 1 => do
        let (entries, tail) ←
          readElements? (readEntryWith? (readValue? depth)) '\x7d' cs.length rest
        return (.table .braces (← addEntries? [] entries), tail)
    | _ =>
      let (scalar, rest) := scalarChars cs
      (scalar? scalar).map (·, rest)

/-- How deep brackets may nest. -/
def maxDepth : Nat := 80

def readEntry? (cs : List Char) : Option (Entry × List Char) :=
  readEntryWith? (readValue? maxDepth) cs

/-- Reads a header from after its first bracket. -/
def readHeader? (cs : List Char) : Option (Header × List Char) :=
  let (repeats, cs) :=
    match cs with
    | '[' :: rest => (true, rest)
    | _ => (false, cs)
  match readKey? (cs.length + 1) (skipBlanks cs) with
  | none => none
  | some ((path, key), rest) =>
    match repeats, rest with
    | false, ']' :: tail => some (⟨path, key, false⟩, tail)
    | true, ']' :: ']' :: tail => some (⟨path, key, true⟩, tail)
    | _, _ => none

/-- The entries before the first header, and the sections. The fuel bounds the number of lines. -/
def readSections? : Nat → List Char → Option (List Entry × List Section)
  | 0, _ => none
  | fuel + 1, cs => do
    match ← skipLines? false cs with
    | [] => return ([], [])
    | '[' :: rest =>
      let (header, tail) ← readHeader? rest
      let (entries, sections) ← readSections? fuel (← afterLine? tail)
      return ([], ⟨header, entries⟩ :: sections)
    | start =>
      let (entry, tail) ← readEntry? start
      let (entries, sections) ← readSections? fuel (← afterLine? tail)
      return (entry :: entries, sections)

/-- The table of a TOML text. -/
def read? (s : String) : Option (Table Toml) := do
  let cs :=
    match s.toList with
    | '\uFEFF' :: rest => rest
    | cs => cs
  let (entries, sections) ← readSections? (cs.length + 1) cs
  sections.foldlM addSection? (← addEntries? [] entries)

end LivePages.Toml
