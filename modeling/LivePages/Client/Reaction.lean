import LivePages.Client.Basic

/-! Changes of stores and what follows from them. Listeners may change stores again and ask for
renders; both lead back here by way of a reactor. -/

namespace LivePages

/-- How a client answers the two requests that lead to further actions: a change of a store, and a
render. -/
structure Reactor where
  /-- Gives a store a value in the form it takes there, and calls the listeners. -/
  set : StoreId → Value → Client → Client
  /-- Renders the page, if that is possible now. -/
  render : Client → Bool × Client

/-- Carries out an action. -/
def Action.run (r : Reactor) : Action → Client → Except EvalError Value × Client
  | finish result, c => (result, c)
  | read s next, c => (next (c.readStore s)).run r c
  | write s v next, c =>
    match c.accept s v with
    | .ok accepted => (next none).run r (r.set s accepted c)
    | .error e => (next (some e)).run r c
  | listen s react next, c =>
    let (id, c) := c.askHost (Host.subscribe s (.host react))
    (next id).run r c
  | forget s id next, c => next.run r (c.onHost (Host.forget s id))
  | render next, c =>
    let (rendered, c) := r.render c
    (next rendered).run r c
  | retrieve key next, c => (next ((c.memory.get? key).getD .null)).run r c
  | keep key v next, c => next.run r { c with memory := Table.insert key v c.memory }
  | note entry next, c => next.run r { c with log := c.log ++ [entry] }

namespace Client

/-- Carries out an action for its value; an action that fails has none. -/
def compute (r : Reactor) (a : Action) (c : Client) : Value × Client :=
  let (result, c) := a.run r c
  (result.toOption.getD .null, c)

/-- Tells a listener about a new value. A request for a render is heard only by the client that the
listener belongs to. -/
def react (r : Reactor) (listener : Listener) (v : Value) (c : Client) : Client :=
  match listener with
  | .host f => ((f v).run r c).2
  | .slot _ area key => c.onHost (Host.writeText area key (Slot.write v))
  | .rerender client => if client = c.number then (r.render c).2 else c

/-- Tells the given listeners of a store about a value, one after the other. One that has been
removed in the meantime is left out. -/
def notify (r : Reactor) (s : StoreId) (v : Value) : List (ListenerId × Listener) → Client → Client
  | [], c => c
  | (id, listener) :: rest, c =>
    notify r s v rest (if c.isSubscribed s id then c.react r listener v else c)

/-- Changes a store and tells the listeners it has at that moment. -/
def setStore (r : Reactor) (s : StoreId) (v : Value) (c : Client) : Client :=
  let c := c.onHost (Host.onStore s fun store => { store with value := v })
  c.notify r s v (c.listeners s)

/-- Gives a store a value of any form. -/
def offer (r : Reactor) (s : StoreId) (v : Value) (c : Client) : Except Mismatch Unit × Client :=
  match c.accept s v with
  | .ok accepted => (.ok (), r.set s accepted c)
  | .error e => (.error e, c)

/-- Assigns to a name: a store receives the value, anything else is replaced by it. -/
def assign (r : Reactor) (name : String) (v : Value) (c : Client) :
    Except EvalError Unit × Client :=
  match c.bindings.get? name with
  | some (.store s) =>
    let (result, c) := c.offer r s v
    (result.mapError (.typeMismatch name), c)
  | _ => (.ok (), c.bindValue name v)

/-- Calls a bound function. -/
def call (r : Reactor) (name : String) (args : List Value) (c : Client) :
    Except EvalError Value × Client :=
  match c.bindings.get? name with
  | some (.function f) => (f args).run r c
  | some _ => (.error (.notCallable name), c)
  | none => (.error (.unknownBinding name), c)

def lookup (name : String) (c : Client) : Except EvalError Value :=
  match c.bindings.get? name with
  | some b => .ok (c.valueOf b)
  | none => .error (.unknownBinding name)

/-- What expressions see of a client. -/
def surroundings (r : Reactor) : Surroundings Client where
  lookup := lookup
  call := call r
  assign := assign r

end Client

end LivePages
