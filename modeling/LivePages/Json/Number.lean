import LivePages.Value.Basic

/-! JSON numbers. Floats are scaled with one rounding more than needed, as most fast readers do,
so the last bit may differ from the nearest float. -/

namespace LivePages.Json

/-- The value of the digits at the start of `cs` after `n`, for as long as it stays below `2 ^ 64`:
the value, how many digits were taken, and what follows them. -/
def takeDigits (n count : Nat) : List Char → Nat × Nat × List Char
  | [] => (n, count, [])
  | c :: rest =>
    let next := 10 * n + (c.toNat - '0'.toNat)
    if c.isDigit && next < 0x10000000000000000 then takeDigits next (count + 1) rest
    else (n, count, c :: rest)

def powerOfTen (n : Nat) : Float := Float.ofScientific 1 false n

/-- `f · 10 ^ exponent` in float arithmetic: one multiplication or division by a power of ten, after
as many divisions by `10 ^ 308` as it takes. There is no result above the range of floats. -/
def scaleBy (f : Float) (exponent : Int) : Option Float :=
  if exponent < -308 then
    if f == 0 then some f else scaleBy (f / powerOfTen 308) (exponent + 308)
  else if exponent < 0 then some (f / powerOfTen (-exponent).toNat)
  else if 308 < exponent then
    if f == 0 then some f else none
  else
    let product := f * powerOfTen exponent.toNat
    if product.isInf then none else some product
termination_by (-exponent).toNat

def startsWithDigit : List Char → Bool
  | c :: _ => c.isDigit
  | [] => false

/-- Whether a minus sign stands first, and what follows the sign. -/
def skipSign : List Char → Bool × List Char
  | '+' :: rest => (false, rest)
  | '-' :: rest => (true, rest)
  | rest => (false, rest)

/-- The size of a float whose digits are read: an exponent may follow. -/
def readScaled (n : Nat) (exponent : Int) (cs : List Char) : Option (Float × List Char) :=
  let scaled := fun (e : Int) rest => (scaleBy (UInt64.ofNat n).toFloat e).map (·, rest)
  match cs with
  | c :: rest =>
    if c = 'e' || c = 'E' then
      let (negative, more) := skipSign rest
      if startsWithDigit more then
        let digits := more.takeWhile Char.isDigit
        let size : Int := digits.foldl (fun n c => 10 * n + (c.toNat - '0'.toNat)) 0
        scaled (if negative then exponent - size else exponent + size) (more.dropWhile Char.isDigit)
      else none
    else scaled exponent cs
  | [] => scaled exponent cs

/-- The digits after a point. Those that do not fit 64 bits are passed over. -/
def readPlaces (n : Nat) (exponent : Int) (cs : List Char) : Option (Float × List Char) :=
  let (m, count, rest) := takeDigits n 0 cs
  if startsWithDigit rest || count ≠ 0 then
    readScaled m (exponent - count) (rest.dropWhile Char.isDigit)
  else none

def floatNumber (negative : Bool) : Option (Float × List Char) → Option (Number × List Char)
  | some (f, rest) => some (.float (if negative then -f else f), rest)
  | none => none

/-- The number of an integer text. Minus zero, and what is below the range of 64 bits with a sign,
are floats. -/
def integerNumber (negative : Bool) (n : Nat) : Number :=
  if !negative then .int n
  else if n = 0 ∨ 0x8000000000000000 < n then .float (-(UInt64.ofNat n).toFloat)
  else .int (-(n : Int))

/-- What may follow the digits before the point. -/
def readTail (negative : Bool) (n count : Nat) (cs : List Char) :
    Option (Number × List Char) :=
  match cs with
  | '.' :: rest => floatNumber negative (readPlaces n 0 rest)
  | c :: rest =>
    if c = 'e' || c = 'E' then floatNumber negative (readScaled n 0 cs)
    else if c.isDigit && 0 < count then
      let excess := (cs.takeWhile Char.isDigit).length
      match cs.dropWhile Char.isDigit with
      | '.' :: more => floatNumber negative (readPlaces n excess more)
      | more => floatNumber negative (readScaled n excess more)
    else if c.isDigit then none
    else some (integerNumber negative n, c :: rest)
  | [] => some (integerNumber negative n, [])

/-- Reads a number. Digits alone that fit 64 bits are an integer, all else is a float; only the
digits that fit 64 bits count toward its size. -/
def readNumber? (cs : List Char) : Option (Number × List Char) :=
  let (negative, unsigned) :=
    match cs with
    | '-' :: rest => (true, rest)
    | _ => (false, cs)
  match unsigned with
  | '0' :: rest => readTail negative 0 0 rest
  | c :: _ =>
    if c.isDigit then
      let (n, count, rest) := takeDigits 0 0 unsigned
      readTail negative n count rest
    else none
  | [] => none

end LivePages.Json
