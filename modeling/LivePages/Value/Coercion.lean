import LivePages.Decimal.Layout
import LivePages.Decimal.Reader
import LivePages.Text.Basic
import LivePages.Value.Basic

/-! What values count as: conditions, texts and numbers, and the equalities and orders built on
them. Arithmetic that leaves the finite numbers gives null. -/

namespace LivePages

def Number.toFloat : Number → Float
  | int n => Decimal.ofInt n
  | float f => f

namespace Value

/-- The number value of a float. Whole numbers below `2 ^ 53` become integers, and what is not
finite becomes null. -/
def ofFloat (f : Float) : Value :=
  if !Decimal.isFinite f then null
  else
    let b := Decimal.Binary.ofFloat f
    let size := b.numerator / b.denominator
    if b.isWhole && size < 0x20000000000000 then int (if b.negative then -(size : Int) else size)
    else num (.float f)

/-- Whether a condition with this value holds. -/
def truthy : Value → Bool
  | null => false
  | bool b => b
  | num n => n.toFloat != 0
  | str s => s != ""
  | arr _ | obj _ => true

mutual

/-- The text a value interpolates as. -/
def display : Value → String
  | null => "null"
  | bool true => "true"
  | bool false => "false"
  | num (.int n) => toString n
  | num (.float f) => Decimal.displayText f
  | str s => s
  | arr items => String.intercalate "," (displayItems items)
  | obj _ => "[object Object]"

/-- The texts of the items of an array; null items are empty. -/
def displayItems : List Value → List String
  | [] => []
  | null :: rest => "" :: displayItems rest
  | item :: rest => display item :: displayItems rest

end

/-- The number a text reads as, blank text being zero. -/
def numberOfText (s : String) : Option Float :=
  match Text.trim s.toList with
  | [] => some 0
  | cs => Decimal.read? cs

/-- The number a value counts as, if it counts as one. -/
def toNumber : Value → Option Float
  | null => some 0
  | bool b => some (if b then 1 else 0)
  | num n => some n.toFloat
  | str s => numberOfText s
  | arr [] => some 0
  | arr [item] => toNumber item
  | arr _ | obj _ => none

/-- A float operation on two values; null if one of them is not a number. -/
def arithmetic (op : Float → Float → Float) (a b : Value) : Value :=
  match a.toNumber, b.toNumber with
  | some x, some y => ofFloat (op x y)
  | _, _ => null

/-- Whether addition joins texts when this value takes part. -/
def joinsAsText : Value → Bool
  | str _ | arr _ | obj _ => true
  | _ => false

/-- Addition, or concatenation of the texts if one side is a text, an array or an object. -/
def add (a b : Value) : Value :=
  if joinsAsText a || joinsAsText b then str (a.display ++ b.display)
  else arithmetic (· + ·) a b

/-- Numbers by size, all else by structure. -/
def strictEquals : Value → Value → Bool
  | num x, num y => x.toFloat == y.toFloat
  | a, b => a == b

/-- Whether two values count as the same number. -/
def numericEquals (a b : Value) : Bool :=
  match a.toNumber, b.toNumber with
  | some x, some y => x == y
  | _, _ => false

/-- Equality after conversion. Null equals only itself; a text meets an array or an object as text
and a number as a number; a boolean meets everything as a number. -/
def looseEquals : Value → Value → Bool
  | null, null => true
  | null, _ | _, null => false
  | str a, str b => a == b
  | a@(bool _), b | a, b@(bool _) => numericEquals a b
  | a@(num _), b@(str _) | a@(str _), b@(num _) => numericEquals a b
  | a@(arr _), b@(str _) | a@(obj _), b@(str _) => a.display == b.display
  | a@(str _), b@(arr _) | a@(str _), b@(obj _) => a.display == b.display
  | a, b => strictEquals a b

/-- Texts compare by code points, all else as numbers; there is no order if one is not a number. -/
def compare? : Value → Value → Option Ordering
  | str a, str b => some (compareOfLessAndEq a b)
  | a, b =>
    match a.toNumber, b.toNumber with
    | some x, some y =>
      if x < y then some .lt else if x == y then some .eq else if x > y then some .gt else none
    | _, _ => none

end Value

end LivePages
