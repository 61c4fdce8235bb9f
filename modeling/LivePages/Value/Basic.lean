/-! The values of a page. Numbers keep their kind: an integer and a float of one size are equal
for expressions, but not inside of arrays and objects. -/

namespace LivePages

/-- A number is an integer of at most 64 bits or a finite float; `1` and `1.0` stay apart. -/
inductive Number where
  | int (value : Int)
  | float (value : Float)
deriving Inhabited

instance : BEq Number where
  beq
    | .int a, .int b => a == b
    | .float a, .float b => a == b
    | _, _ => false

/-- The values that expressions compute with and stores hold. The fields of an object are sorted by
key, and no key occurs twice. -/
inductive Value where
  | null
  | bool (value : Bool)
  | num (value : Number)
  | str (value : String)
  | arr (items : List Value)
  | obj (fields : List (String × Value))
deriving Inhabited

namespace Value

abbrev int (n : Int) : Value := .num (.int n)

/-- A length or a position as a value. -/
abbrev nat (n : Nat) : Value := int n

mutual

/-- Structural equality: the integer `1` and the float `1.0` differ. -/
def same : Value → Value → Bool
  | null, null => true
  | bool a, bool b => a == b
  | num a, num b => a == b
  | str a, str b => a == b
  | arr as, arr bs => sameItems as bs
  | obj as, obj bs => sameFields as bs
  | _, _ => false

def sameItems : List Value → List Value → Bool
  | [], [] => true
  | a :: as, b :: bs => same a b && sameItems as bs
  | _, _ => false

def sameFields : List (String × Value) → List (String × Value) → Bool
  | [], [] => true
  | (k, a) :: as, (l, b) :: bs => k == l && same a b && sameFields as bs
  | _, _ => false

end

instance : BEq Value := ⟨same⟩

/-- Puts a field in its place in a sorted list of fields, in place of one with the same key. -/
def insertField (key : String) (value : Value) : List (String × Value) → List (String × Value)
  | [] => [(key, value)]
  | (k, v) :: rest =>
    if key < k then (key, value) :: (k, v) :: rest
    else if key = k then (key, value) :: rest
    else (k, v) :: insertField key value rest

/-- The object with the given fields; of two with one key the last counts. -/
def ofFields (fields : List (String × Value)) : Value :=
  obj (fields.foldl (fun sorted (k, v) => insertField k v sorted) [])

end Value

end LivePages
