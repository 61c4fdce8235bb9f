import LivePages.Store.Action
import LivePages.Table

/-! Modules: the names a page or a layout brings with it. A module is a plan, of which each visit
makes an instance of its own. -/

namespace LivePages

/-- An entry of the table of bindings. -/
inductive Binding where
  | value (value : Value)
  | store (store : StoreId)
  | function (call : List Value → Action)
deriving Inhabited

/-- The names that expressions can use. -/
abbrev Bindings := Table Binding

/-- What a module offers to the markup of its page. -/
inductive Export where
  | value (value : Value)
  | store (store : StoreId)
  | function (call : List Value → Action)
  /-- A value that is computed anew for every render. -/
  | computed (compute : Action)
deriving Inhabited

/-- The exports of one module instance, in their order. -/
abbrev Module := Table Export

/-- What the functions of a module instance know about it. -/
structure Instance where
  /-- Tells the instances of all modules apart. -/
  serial : Nat
  /-- The stores of the instance; of two with one name the last. -/
  stores : Table StoreId
deriving Inhabited

/-- How an export is made for a new module instance. -/
inductive Plan where
  | value (value : Value)
  /-- A shared store is made once and belongs to all instances. -/
  | store (type : StoreType) (initial : Value) (persist shared : Bool)
  | function (call : Instance → List Value → Action)
  | computed (compute : Instance → Action)
deriving Inhabited

/-- A module that can be instantiated, known by its path. -/
structure Blueprint where
  path : String
  plans : List (String × Plan)
deriving Inhabited

end LivePages
