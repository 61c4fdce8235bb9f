import LivePages.Decimal.Shortest

/-! The three ways in which floats are laid out: shown on a page, written in JSON, and with a
fixed number of places. -/

namespace LivePages.Decimal

def digitsOf (n : Nat) : List Char := Nat.toDigits 10 n

/-- `n` in base ten with at least `width` digits. -/
def padded (width n : Nat) : List Char :=
  List.replicate (width - (digitsOf n).length) '0' ++ digitsOf n

/-- `n / 10 ^ places` with exactly `places` digits after the point. -/
def withPlaces (places n : Nat) : List Char :=
  if places = 0 then digitsOf n
  else digitsOf (n / Nat.pow 10 places) ++ '.' :: padded places (n % Nat.pow 10 places)

/-- All digits in their places, without an exponent and without a needless point. -/
def Scaled.positional (s : Scaled) : List Char :=
  if 0 ≤ s.exponent then digitsOf (s.digits * Nat.pow 10 s.exponent.toNat)
  else withPlaces (-s.exponent).toNat s.digits

private def signed (negative : Bool) (cs : List Char) : List Char :=
  if negative then '-' :: cs else cs

/-- The text a finite float shows as: never an exponent, and all digits of a whole number below
`10 ^ 21`. -/
def displayText (f : Float) : String :=
  let b := Binary.ofFloat f
  let size :=
    if b.isWhole && b.numerator / b.denominator < Nat.pow 10 21 then
      digitsOf (b.numerator / b.denominator)
    else (shortest .up f).positional
  String.ofList (signed b.negative size)

/-- The text of a finite float in JSON: from `10 ^ -5` to below `10 ^ 16` positional with at least
one digit after the point, otherwise one digit before the point and a signed exponent. -/
def jsonText (f : Float) : String :=
  let b := Binary.ofFloat f
  let s := shortest .toEven f
  let lead := s.exponent + digitCount s.digits - 1
  let size :=
    if s.digits = 0 then ['0', '.', '0']
    else if -5 ≤ lead ∧ lead < 16 then
      s.positional ++ if 0 ≤ s.exponent then ['.', '0'] else []
    else
      withPlaces (digitCount s.digits - 1) s.digits ++
        'e' :: (if lead < 0 then '-' else '+') :: digitsOf lead.natAbs
  String.ofList (signed b.negative size)

/-- `num / den` rounded to the nearest integer, a half to the even neighbour. -/
def roundHalfEven (num den : Nat) : Nat :=
  let floor := num / den
  let twice := 2 * (num % den)
  if den < twice ∨ (twice = den ∧ floor % 2 = 1) then floor + 1 else floor

/-- The exact value of a finite float, rounded to `places` digits after the point. -/
def fixedText (places : Nat) (f : Float) : String :=
  let b := Binary.ofFloat f
  let n := roundHalfEven (b.numerator * Nat.pow 10 places) b.denominator
  String.ofList (signed b.negative (withPlaces places n))

end LivePages.Decimal
