/-! Characters written as letters and digits. What is written stands for insertions into the ASCII
characters of a text: how far each is from the one before, first by code point, then by place. -/

namespace LivePages.Url.Punycode

/-- The value of a digit of base 36, in which letters come first. -/
def digitValue? (c : Char) : Option Nat :=
  if c.isDigit then some (c.toNat - '0'.toNat + 26)
  else if c.isAlpha then some (c.toLower.toNat - 'a'.toNat)
  else none

/-- Numbers must fit into 32 bits. -/
def limit : Nat := 0x100000000

/-- Digits below it end a number. `digits` is 36 times the place of the digit, from one. -/
def threshold (digits bias : Nat) : Nat := max 1 (min 26 (digits - bias))

/-- Divides a distance by 35 until it is small, and counts 36 for each time. -/
def scaleDown (distance : Nat) : Nat × Nat :=
  if 455 < distance then
    let (small, count) := scaleDown (distance / 35)
    (small, count + 36)
  else (distance, 0)
termination_by distance
decreasing_by exact Nat.div_lt_self (by omega) (by omega)

/-- The bias for the next distance, so that likely distances are short. -/
def nextBias (distance count : Nat) (isFirst : Bool) : Nat :=
  let near := if isFirst then distance / 700 else distance / 2
  let (small, steps) := scaleDown (near + near / count)
  steps + 36 * small / (small + 38)

/-- Inserts the characters that `cs` stands for into a text. `code` and `place` are those of the
next insertion if all digits were zero, `start` is that place before the digits of this number,
and `weight` and `digits` are for the next digit. -/
def insertAll (code place bias : Nat) (out : List Char) (start weight digits : Nat) :
    List Char → Option (List Char)
  | [] => if digits = 36 then some out else none
  | c :: rest => do
    let d ← digitValue? c
    let place := place + d * weight
    if limit ≤ place then none
    else
      let t := threshold digits bias
      if t ≤ d then
        if limit ≤ weight * (36 - t) then none
        else insertAll code place bias out start (weight * (36 - t)) (digits + 36) rest
      else
        let count := out.length + 1
        let code := code + place / count
        let spot := place % count
        if code.isValidChar then
          let bias := nextBias (place - start) count (start = 0)
          insertAll code (spot + 1) bias (out.insertIdx spot (Char.ofNat code)) (spot + 1) 1 36 rest
        else none

/-- Splits at the last hyphen, if it is not the first character. -/
def splitBasic (cs : List Char) : List Char × List Char :=
  let tail := (cs.reverse.takeWhile (· ≠ '-')).reverse
  let basic := cs.take (cs.length - tail.length - 1)
  if basic = [] then ([], cs) else (basic, tail)

/-- Reads a text in which only letters, digits and hyphens are written. -/
def decode? (cs : List Char) : Option (List Char) :=
  let (basic, tail) := splitBasic cs
  insertAll 0x80 0 72 basic 0 1 36 tail

end LivePages.Url.Punycode
