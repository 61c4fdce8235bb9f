import LivePages.Json.Printer
import LivePages.Text.Quoted
import LivePages.Value.Coercion

/-! The kinds of values that stores hold, and what each of them accepts. -/

namespace LivePages

/-- The kind of value a store holds. -/
inductive StoreType where
  | integer
  | float
  | boolean
  | text
  | integers
  | any
deriving DecidableEq, Inhabited

/-- Why a value does not fit a store: it is of another kind than expected, or an integer outside the
range of 64 bits with a sign. -/
inductive Mismatch where
  | kind (found : Value) (expected : String)
  | range (found : Int)
deriving Inhabited

/-- How a value is named in the message about it. -/
def Value.describe : Value → String
  | null => "null"
  | bool b => "boolean `" ++ (if b then "true" else "false") ++ "`"
  | num (.int n) => "integer `" ++ toString n ++ "`"
  | num (.float f) => "floating point `" ++ Decimal.jsonText f ++ "`"
  | str s => "string " ++ Text.quoted s
  | arr _ => "sequence"
  | obj _ => "map"

def Mismatch.message : Mismatch → String
  | kind found expected => "invalid type: " ++ found.describe ++ ", expected " ++ expected
  | range n => "invalid value: integer `" ++ toString n ++ "`, expected i64"

namespace StoreType

/-- The integer a value is. It must fit 64 bits with a sign. -/
def toInteger : Value → Except Mismatch Value
  | .num (.int n) => if n < 0x8000000000000000 then .ok (.int n) else .error (.range n)
  | v => .error (.kind v "i64")

/-- The integers of a list of values. The first value that does not fit is reported. -/
def toIntegers : List Value → Except Mismatch (List Value)
  | [] => .ok []
  | v :: rest =>
    match toInteger v, toIntegers rest with
    | .error e, _ => .error e
    | _, .error e => .error e
    | .ok n, .ok ns => .ok (n :: ns)

/-- The value a store of this type holds after it is given `v`. Only integers given to a float store
change their form. -/
def accept : StoreType → Value → Except Mismatch Value
  | integer, v => toInteger v
  | float, v =>
    match v with
    | .num n => .ok (.num (.float n.toFloat))
    | _ => .error (.kind v "f64")
  | boolean, v =>
    match v with
    | .bool _ => .ok v
    | _ => .error (.kind v "a boolean")
  | text, v =>
    match v with
    | .str _ => .ok v
    | _ => .error (.kind v "a string")
  | integers, v =>
    match v with
    | .arr items => (toIntegers items).map .arr
    | _ => .error (.kind v "a sequence")
  | any, v => .ok v

end StoreType

end LivePages
