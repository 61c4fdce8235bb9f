import LivePages.Decimal.Reader
import LivePages.Text.Basic
import LivePages.Url.Name
import LivePages.Url.Percent

/-! The hosts of URLs. Two ways to write one host read as the same. -/

namespace LivePages.Url

/-- The host of a URL: a name, or an address as a number. -/
inductive Host where
  | domain (name : String)
  | ipv4 (address : Nat)
  | ipv6 (address : Nat)
deriving DecidableEq, Inhabited

namespace Host

/-- A number of base 8, 10 or 16, as the start tells. -/
def addressNumber? (cs : List Char) : Option Nat :=
  let (base, digits) :=
    match cs with
    | '0' :: 'x' :: digits => (16, digits)
    | '0' :: 'X' :: digits => (16, digits)
    | '0' :: c :: digits => (8, c :: digits)
    | _ => (10, cs)
  let values := digits.filterMap hexValue?
  if cs = [] ∨ values.length ≠ digits.length ∨ values.any (base ≤ ·) then none
  else some (values.foldl (fun n d => base * n + d) 0)

private def withoutRootDot (parts : List (List Char)) : List (List Char) :=
  if 1 < parts.length ∧ parts.getLast? = some [] then parts.dropLast else parts

/-- Whether the last part of a name is a number, which makes the name an address. -/
def endsInNumber (parts : List (List Char)) : Bool :=
  match (withoutRootDot parts).getLast? with
  | some last => (last ≠ [] && last.all Char.isDigit) || (addressNumber? last).isSome
  | none => false

/-- Reads an address of at most four numbers, of which the last fills all bytes that are left. -/
def readIpv4? (parts : List (List Char)) : Option Nat := do
  let numbers ← (withoutRootDot parts).mapM addressNumber?
  let last ← numbers.getLast?
  let others := numbers.dropLast
  if 3 < others.length ∨ others.any (255 < ·) ∨ Nat.pow 256 (4 - others.length) ≤ last then none
  else some (others.zipIdx.foldl (fun sum (n, i) => sum + n * Nat.pow 256 (3 - i)) last)

private def piece? (cs : List Char) : Option Nat :=
  let values := cs.filterMap hexValue?
  if cs = [] ∨ 4 < cs.length ∨ values.length ≠ cs.length then none
  else some (values.foldl (fun n d => 16 * n + d) 0)

private def byte? (cs : List Char) : Option Nat :=
  let n := Decimal.natOfDigits cs
  if cs ≠ [] ∧ cs.all Char.isDigit ∧ n ≤ 255 ∧ (cs.head? ≠ some '0' ∨ cs.length = 1) then some n
  else none

/-- The pieces of 16 bits on one side of a gap. The last may be written as four bytes. -/
private def pieces? (mayEndInBytes : Bool) : List (List Char) → Option (List Nat)
  | [] => some []
  | [last] =>
    match piece? last, (Text.splitWhere (· = '.') last).mapM byte? with
    | some p, _ => some [p]
    | none, some [a, b, c, d] => if mayEndInBytes then some [256 * a + b, 256 * c + d] else none
    | _, _ => none
  | cs :: rest => do
    let p ← piece? cs
    return p :: (← pieces? mayEndInBytes rest)

private def sidePieces? (mayEndInBytes : Bool) (cs : List Char) : Option (List Nat) :=
  if cs = [] then some [] else pieces? mayEndInBytes (Text.splitWhere (· = ':') cs)

/-- What stands before and after the first two colons in a row. -/
private def splitGap? : List Char → Option (List Char × List Char)
  | ':' :: ':' :: rest => some ([], rest)
  | c :: rest => (splitGap? rest).map fun (before, after) => (c :: before, after)
  | [] => none

/-- Reads an address of eight pieces, with at most one gap of zeros. -/
def readIpv6? (cs : List Char) : Option Nat := do
  let pieces ←
    match splitGap? cs with
    | some (before, after) => do
      let left ← sidePieces? false before
      let right ← sidePieces? true after
      let missing := 8 - (left.length + right.length)
      if missing = 0 then none else pure (left ++ List.replicate missing 0 ++ right)
    | none => sidePieces? true cs
  if pieces.length = 8 then some (pieces.foldl (fun n p => 0x10000 * n + p) 0) else none

/-- Characters that end the host in some place of a URL. -/
def delimiters : List Char := "#/:<>?@[\\]^|".toList

/-- Characters that no name holds. -/
def isForbidden (c : Char) : Bool := c ≤ ' ' || c = '\x7f' || c = '%' || delimiters.contains c

/-- Reads the name or the address of a host that may be compared. -/
def read? (cs : List Char) : Option Host :=
  match cs with
  | '[' :: rest => if rest.getLast? = some ']' then (readIpv6? rest.dropLast).map ipv6 else none
  | _ =>
    match (decodedText? cs).bind Name.readLabels? with
    | none => none
    | some labels =>
      let name := ['.'].intercalate labels
      if name = [] ∨ name.any isForbidden then none
      else if endsInNumber labels then (readIpv4? labels).map ipv4
      else some (domain (String.ofList name))

/-- Reads a host of a scheme of its own, whose name stays as it is. -/
def readVerbatim? (cs : List Char) : Option Host :=
  match cs with
  | '[' :: rest => if rest.getLast? = some ']' then (readIpv6? rest.dropLast).map ipv6 else none
  | _ =>
    if cs.any fun c => c = ' ' || c = '\x00' || delimiters.contains c then none
    else some (domain (String.ofList (percentEncode isControl cs)))

end Host

end LivePages.Url
