import LivePages.Decimal.Binary

/-! The shortest decimal that reads back as a float: on each grid of powers of ten only the two
neighbours of the float can round to it, and the first grid with a hit has the fewest digits. -/

namespace LivePages.Decimal

/-- The decimal number `digits · 10 ^ exponent`. -/
structure Scaled where
  digits : Nat
  exponent : Int
deriving DecidableEq

/-- Which neighbour is taken when both are equally near. -/
inductive Tie where
  | toEven
  | up

/-- The number of digits of `n` in base ten. -/
def digitCount (n : Nat) : Nat := (Nat.toDigits 10 n).length

/-- The exponent of the leading digit of `num / den`, for positive `num`. -/
def leadingExponent (num den : Nat) : Int :=
  if den ≤ num then digitCount (num / den) - 1
  else -(digitCount ((den - 1) / num) : Int)

/-- The reals that round to a float, over one denominator. The ends belong to them iff `closed`. -/
structure Rounding where
  low : Nat
  value : Nat
  high : Nat
  denominator : Nat
  closed : Bool

def Rounding.holds (r : Rounding) (num den : Nat) : Bool :=
  let x := num * r.denominator
  if r.closed then r.low * den ≤ x && x ≤ r.high * den
  else r.low * den < x && x < r.high * den

/-- The interval around a float. Below a power of two the next float is only half as far. -/
def Binary.rounding (b : Binary) : Rounding :=
  let scale := Nat.pow 2 (b.exponent - 2).toNat
  let below := if b.significand = implicitBit ∧ -1074 < b.exponent then 1 else 2
  { low := (4 * b.significand - below) * scale
    value := 4 * b.significand * scale
    high := (4 * b.significand + 2) * scale
    denominator := Nat.pow 2 (2 - b.exponent).toNat
    closed := b.significand % 2 = 0 }

/-- The point nearest to the float among its two neighbours on the grid of `10 ^ exponent`, if one
of them still rounds to it. -/
def Rounding.onGrid (r : Rounding) (tie : Tie) (exponent : Int) : Option Scaled :=
  let up := Nat.pow 10 exponent.toNat
  let down := Nat.pow 10 (-exponent).toNat
  let num := r.value * down
  let den := r.denominator * up
  let floor := num / den
  let rest := num % den
  let holds := fun n => r.holds (n * up) down
  let preferUpper : Bool :=
    if 2 * rest = den then
      match tie with
      | .toEven => floor % 2 = 1
      | .up => true
    else den < 2 * rest
  if rest = 0 then some ⟨floor, exponent⟩
  else
    match holds floor, holds (floor + 1) with
    | true, true => some ⟨if preferUpper then floor + 1 else floor, exponent⟩
    | true, false => some ⟨floor, exponent⟩
    | false, true => some ⟨floor + 1, exponent⟩
    | false, false => none

/-- Moves the zeros at the end of the digits into the exponent. -/
def Scaled.stripZeros (s : Scaled) : Scaled :=
  if h : s.digits ≠ 0 ∧ s.digits % 10 = 0 then
    Scaled.stripZeros ⟨s.digits / 10, s.exponent + 1⟩
  else s
termination_by s.digits
decreasing_by omega

/-- The decimal with the fewest digits that reads back as the size of `f`, and of those the nearest.
Seventeen digits always suffice. -/
def shortest (tie : Tie) (f : Float) : Scaled :=
  let b := Binary.ofFloat f
  if b.significand = 0 then ⟨0, 0⟩
  else
    let lead := leadingExponent b.numerator b.denominator
    let grids := (List.range 17).map fun (n : Nat) => lead - n
    ((grids.findSome? (b.rounding.onGrid tie)).getD ⟨0, 0⟩).stripZeros

end LivePages.Decimal
