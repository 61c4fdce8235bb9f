/-! Floats as exact binary numbers. Everything that is written or compared digit by digit goes
through this form. -/

namespace LivePages.Decimal

/-- A finite binary number: `significand · 2 ^ exponent`, with a sign that zero has too. -/
structure Binary where
  negative : Bool
  significand : Nat
  exponent : Int
deriving DecidableEq

/-- The bit above the 52 bits of the fraction of a float, `2 ^ 52`. -/
def implicitBit : Nat := 0x10000000000000

/-- The sign bit of a float, `2 ^ 63`. -/
def signBit : Nat := 0x8000000000000000

/-- The exponent field of a float, which has 11 bits. -/
def exponentField (f : Float) : Nat := f.toBits.toNat / implicitBit % 0x800

/-- The exact value of a finite float. -/
def Binary.ofFloat (f : Float) : Binary :=
  let bits : Nat := f.toBits.toNat
  let fraction : Nat := bits % implicitBit
  if exponentField f = 0 then ⟨signBit ≤ bits, fraction, -1074⟩
  else ⟨signBit ≤ bits, fraction + implicitBit, (exponentField f : Int) - 1075⟩

/-- The float with the given value, for significands below `2 ^ 53`. -/
def Binary.toFloat (b : Binary) : Float :=
  let f := Float.scaleB (UInt64.ofNat b.significand).toFloat b.exponent
  if b.negative then -f else f

/-- Numerator of the size of `b` over `b.denominator`. -/
def Binary.numerator (b : Binary) : Nat := b.significand * Nat.pow 2 b.exponent.toNat

def Binary.denominator (b : Binary) : Nat := Nat.pow 2 (-b.exponent).toNat

def Binary.isWhole (b : Binary) : Bool := b.numerator % b.denominator = 0

/-- Whether a float is a number at all: neither infinite nor `NaN`. -/
def isFinite (f : Float) : Bool := exponentField f ≠ 0x7FF

/-- The remainder of the division of `x` by `y` rounded toward zero. It is exact and has the sign of
`x`; there is none for an infinite `x` or a zero `y`. -/
def remainder (x y : Float) : Float :=
  if !isFinite x || y.isNaN || y == 0 then 0.0 / 0.0
  else if !isFinite y then x
  else
    let a := Binary.ofFloat x
    let b := Binary.ofFloat y
    let e := min a.exponent b.exponent
    let scaled := fun (c : Binary) => c.significand * Nat.pow 2 (c.exponent - e).toNat
    let rest := scaled a % scaled b
    Binary.toFloat ⟨a.negative, rest, e⟩

/-- The float nearest to an integer of at most 64 bits. -/
def ofInt : Int → Float
  | .ofNat n => (UInt64.ofNat n).toFloat
  | .negSucc n => -(UInt64.ofNat (n + 1)).toFloat

end LivePages.Decimal
