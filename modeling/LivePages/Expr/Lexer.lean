import LivePages.Decimal.Reader
import LivePages.Expr.Error
import LivePages.Text.Basic

/-! Expressions as tokens. Each token takes all the characters that belong to it, and only blanks
stand between tokens. -/

namespace LivePages.Expr

/-- Characters that continue a number: digits and points. -/
def isNumberChar (c : Char) : Bool := c.isDigit || c = '.'

def isNameStart (c : Char) : Bool := Text.isLetter c || c = '_' || c = '$'

def isNameChar (c : Char) : Bool := Text.isLetterOrNumeral c || c = '_' || c = '$'

/-- The character that stands for `c` after a backslash. -/
def unescape : Char → Char
  | 'n' => '\n'
  | 't' => '\t'
  | 'r' => '\r'
  | c => c

/-- The characters of a quoted text up to its closing quote, and how many characters they and the
closing quote take up. A backslash escapes the next character. -/
def readQuoted? (quote : Char) : List Char → Option (List Char × Nat)
  | [] => none
  | '\\' :: c :: rest => (readQuoted? quote rest).map fun (cs, n) => (unescape c :: cs, n + 2)
  | c :: rest =>
    if c = quote then some ([], 1)
    else if c = '\\' then none
    else (readQuoted? quote rest).map fun (cs, n) => (c :: cs, n + 1)

/-- Whether a number starts with `c`. -/
def startsNumber (c : Char) (rest : List Char) : Bool :=
  c.isDigit || (c = '.' && (rest.head?.any Char.isDigit))

/-- The token that starts with `c`, and how many more characters of `rest` it takes. -/
def scan (c : Char) (rest : List Char) : Except Malformation (Token × Nat) :=
  if startsNumber c rest then
    let more := rest.takeWhile isNumberChar
    match Decimal.read? (c :: more) with
    | some f => .ok (.number f, more.length)
    | none => .error (.badNumber (String.ofList (c :: more)))
  else if c = '"' ∨ c = '\'' then
    match readQuoted? c rest with
    | some (cs, n) => .ok (.text (String.ofList cs), n)
    | none => .error .openText
  else if isNameStart c then
    let more := rest.takeWhile isNameChar
    .ok (.name (String.ofList (c :: more)), more.length)
  else
    match Mark.longest? (c :: rest) with
    | some m => .ok (.mark m, m.text.length - 1)
    | none => .error (.strayCharacter c)

/-- The tokens of `cs`, which starts at byte `offset`; or where and why there is none. -/
def tokensFrom (offset : Nat) : List Char → Except (Nat × Malformation) (List Located)
  | [] => .ok []
  | c :: rest =>
    if Text.isBlank c then tokensFrom (offset + c.utf8Size) rest
    else
      match scan c rest with
      | .error cause => .error (offset, cause)
      | .ok (token, n) =>
        let next := offset + c.utf8Size + Text.byteLength (rest.take n)
        (tokensFrom next (rest.drop n)).map (⟨token, offset⟩ :: ·)
termination_by cs => cs.length
decreasing_by all_goals simp only [List.length_cons, List.length_drop]; omega

def tokenize (input : String) : Except EvalError (List Located) :=
  (tokensFrom 0 input.toList).mapError fun (offset, cause) => .malformed input offset cause

end LivePages.Expr
