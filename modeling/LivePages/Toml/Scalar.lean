import LivePages.Decimal.Reader
import LivePages.Toml.Basic

/-! Numbers, dates and words of TOML texts. -/

namespace LivePages.Toml

/-- Digits with at most one underscore between two of them. -/
def areDigits (isDigit : Char → Bool) : List Char → Bool
  | [] => false
  | [c] => isDigit c
  | c :: '_' :: rest => isDigit c && areDigits isDigit rest
  | c :: rest => isDigit c && areDigits isDigit rest

/-- The digits of the number before a point or an exponent: a zero comes first only alone. -/
def areWholeDigits (cs : List Char) : Bool :=
  areDigits Char.isDigit cs && (cs.head? ≠ some '0' || cs.length = 1)

def digitValue (c : Char) : Nat :=
  if c.isDigit then c.toNat - '0'.toNat else c.toLower.toNat - 'a'.toNat + 10

def isDigitOf (base : Nat) (c : Char) : Bool :=
  (c.isDigit || ('a' ≤ c.toLower && c.toLower ≤ 'f')) && digitValue c < base

private def natOf (base : Nat) (cs : List Char) : Nat :=
  (cs.filter (· ≠ '_')).foldl (fun n c => base * n + digitValue c) 0

def splitSign : List Char → Bool × List Char
  | '+' :: rest => (false, rest)
  | '-' :: rest => (true, rest)
  | rest => (false, rest)

private def basedInteger? (base : Nat) (digits : List Char) : Option Int :=
  if areDigits (isDigitOf base) digits then some (natOf base digits) else none

/-- Reads an integer: decimal with a sign, or without one in base 16, 8 or 2. Those that do not fit
128 bits are refused. -/
def integer? (cs : List Char) : Option Int := do
  let n ←
    match cs with
    | '0' :: 'x' :: digits => basedInteger? 16 digits
    | '0' :: 'o' :: digits => basedInteger? 8 digits
    | '0' :: 'b' :: digits => basedInteger? 2 digits
    | _ =>
      let (negative, digits) := splitSign cs
      if areWholeDigits digits then
        let n : Int := natOf 10 digits
        some (if negative then -n else n)
      else none
  if -(Nat.pow 2 127 : Int) ≤ n ∧ n < (Nat.pow 2 128 : Int) then some n else none

private def isPlace (c : Char) : Bool := c.isDigit || c = '_'

private def isExponent : List Char → Bool
  | c :: rest => (c = 'e' || c = 'E') && areDigits Char.isDigit (splitSign rest).2
  | [] => false

private def isFloatTail : List Char → Bool
  | '.' :: rest =>
    areDigits Char.isDigit (rest.takeWhile isPlace) &&
      (rest.dropWhile isPlace = [] || isExponent (rest.dropWhile isPlace))
  | rest => isExponent rest

/-- Reads a float: places, an exponent, or both follow the whole digits. One that is too large is
refused. -/
def float? (cs : List Char) : Option Float :=
  let unsigned := (splitSign cs).2
  if unsigned = ['i', 'n', 'f'] ∨ unsigned = ['n', 'a', 'n'] then Decimal.read? cs
  else if areWholeDigits (unsigned.takeWhile isPlace) &&
      isFloatTail (unsigned.dropWhile isPlace) then
    (Decimal.read? (cs.filter (· ≠ '_'))).filter fun f => !f.isInf
  else none

/-- A number of exactly `count` digits from `low` to `high`, and what follows it. -/
def readField? (count low high : Nat) (cs : List Char) : Option (Nat × List Char) :=
  let digits := cs.take count
  let n := Decimal.natOfDigits digits
  if digits.length = count ∧ digits.all Char.isDigit ∧ low ≤ n ∧ n ≤ high then
    some (n, cs.drop count)
  else none

def readMark? (mark : Char) : List Char → Option (List Char)
  | c :: rest => if c = mark then some rest else none
  | [] => none

def isLeapYear (year : Nat) : Bool := (year % 4 = 0 && year % 100 ≠ 0) || year % 400 = 0

def daysOf (year month : Nat) : Nat :=
  if month = 2 then if isLeapYear year then 29 else 28
  else if month = 4 ∨ month = 6 ∨ month = 9 ∨ month = 11 then 30
  else 31

/-- What follows a date. -/
def afterDate? (cs : List Char) : Option (List Char) := do
  let (year, cs) ← readField? 4 0 9999 cs
  let (month, cs) ← readField? 2 1 12 (← readMark? '-' cs)
  let (_, cs) ← readField? 2 1 (daysOf year month) (← readMark? '-' cs)
  return cs

private def afterSeconds? : List Char → Option (List Char)
  | ':' :: cs =>
    match readField? 2 0 60 cs with
    | some (_, '.' :: rest) =>
      if rest.takeWhile Char.isDigit = [] then none else some (rest.dropWhile Char.isDigit)
    | some (_, rest) => some rest
    | none => none
  | cs => some cs

/-- What follows a time of day. Seconds and their fraction may be missing. -/
def afterClock? (cs : List Char) : Option (List Char) := do
  let (_, cs) ← readField? 2 0 23 cs
  let (_, cs) ← readField? 2 0 59 (← readMark? ':' cs)
  afterSeconds? cs

/-- Whether `cs` is an offset from universal time, or nothing. -/
def isOffset : List Char → Bool
  | [] => true
  | c :: rest =>
    if c = 'Z' ∨ c = 'z' then rest = []
    else if c = '+' ∨ c = '-' then
      (do
        let (_, cs) ← readField? 2 0 23 rest
        let (_, cs) ← readField? 2 0 59 (← readMark? ':' cs)
        return cs) = some []
    else false

/-- Whether `cs` is a date, a time of day, or both with or without an offset. -/
def isTime (cs : List Char) : Bool :=
  match afterDate? cs with
  | some [] => true
  | some (c :: rest) => (c = 'T' || c = 't' || c = ' ') && (afterClock? rest).any isOffset
  | none => afterClock? cs = some []

/-- Reads a value without quotes or brackets. -/
def scalar? (cs : List Char) : Option Toml :=
  match String.ofList cs with
  | "true" => some (.boolean true)
  | "false" => some (.boolean false)
  | s =>
    ((integer? cs).map .integer).or <| ((float? cs).map .float).or <|
      if isTime cs then some (.time s) else none

end LivePages.Toml
