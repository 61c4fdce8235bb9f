import LivePages.Expr.Error
import LivePages.Text.Case

/-! Members and methods of values. -/

namespace LivePages.Value

/-- Whether `part` occurs in `text`. -/
def occursIn (part : List Char) : List Char → Bool
  | [] => part.isEmpty
  | c :: rest => part.isPrefixOf (c :: rest) || occursIn part rest

/-- The item at the position that a name spells, if it does. -/
def itemAt (property : String) (items : List Value) : Value :=
  ((Decimal.readIndex? property.toList).bind fun i => items[i]?).getD null

/-- The characters of a text, each as a text of its own. -/
def characters (s : String) : List Value := s.toList.map fun c => str (String.singleton c)

/-- The member of a value under a name or an index. What is missing is null; null has no members. -/
def member (object : Value) (property : String) : Except EvalError Value :=
  match object with
  | null => .error (.nullAccess property)
  | obj fields => .ok ((fields.lookup property).getD null)
  | arr items => .ok (if property = "length" then nat items.length else itemAt property items)
  | str s => .ok (if property = "length" then nat s.length else itemAt property (characters s))
  | bool _ | num _ => .ok null

def joinSeparator : Value → String
  | null => ","
  | v => v.display

def fixedPlaces : Value → Nat
  | num (.int n) => n.toNat
  | _ => 0

/-- The methods of a text. -/
def textMethod (s : String) (method : String) (arg : Value) : Option Value :=
  let cs := s.toList
  let part := arg.display.toList
  match method with
  | "toUpperCase" => some (str (String.ofList (Text.toUpper cs)))
  | "toLowerCase" => some (str (String.ofList (Text.toLower cs)))
  | "trim" => some (str (String.ofList (Text.trim cs)))
  | "includes" => some (bool (occursIn part cs))
  | "startsWith" => some (bool (part.isPrefixOf cs))
  | "endsWith" => some (bool (part.isSuffixOf cs))
  | _ => none

/-- The methods of an array. -/
def arrayMethod (items : List Value) (method : String) (arg : Value) : Option Value :=
  match method with
  | "includes" => some (bool (items.any fun item => item.strictEquals arg))
  | "indexOf" =>
    some (match items.findIdx? fun item => item.strictEquals arg with
      | some i => nat i
      | none => int (-1))
  | "join" => some (str (String.intercalate (joinSeparator arg) (displayItems items)))
  | _ => none

/-- Calls a method of a value. Of the arguments only the first counts. -/
def callMethod (object : Value) (method : String) (args : List Value) : Except EvalError Value :=
  let arg := args.head?.getD null
  let own :=
    match object with
    | str s => textMethod s method arg
    | arr items => arrayMethod items method arg
    | num n =>
      if method = "toFixed" then some (str (Decimal.fixedText (fixedPlaces arg) n.toFloat))
      else none
    | _ => none
  match object, own with
  | null, _ => .error (.nullAccess method)
  | _, some v => .ok v
  | _, none =>
    if method = "toString" then .ok (str object.display)
    else .error (.notCallable (object.display ++ "." ++ method))

end LivePages.Value
