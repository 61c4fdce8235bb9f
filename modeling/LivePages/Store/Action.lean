import LivePages.Expr.Error
import LivePages.Store.Basic

/-! What the functions of a page do, as a tree of requests and answers. The tree says nothing
about how requests are met; the client gives it its meaning. -/

namespace LivePages

/-- Identifies a store. -/
abbrev StoreId := Nat

/-- What a function or a listener of a page does, step by step. Each step but the last says how the
action goes on after its answer. -/
inductive Action where
  | finish (result : Except EvalError Value)
  | read (store : StoreId) (next : Value → Action)
  /-- Gives a store a value and calls its listeners; the answer tells why the value does not fit. -/
  | write (store : StoreId) (value : Value) (next : Option Mismatch → Action)
  | listen (store : StoreId) (react : Value → Action) (next : ListenerId → Action)
  | forget (store : StoreId) (listener : ListenerId) (next : Action)
  /-- Asks for the page to be rendered; the answer tells whether it was. -/
  | render (next : Bool → Action)
  /-- Looks up what was kept under a key. -/
  | retrieve (key : String) (next : Value → Action)
  | keep (key : String) (value : Value) (next : Action)
  /-- Adds an entry to the log. -/
  | note (entry : Value) (next : Action)

instance : Inhabited Action := ⟨.finish (.ok .null)⟩

/-- The action that ends with a value. -/
def Action.return (v : Value) : Action := .finish (.ok v)

end LivePages
