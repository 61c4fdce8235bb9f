import LivePages.Asset.Registry
import LivePages.Client.Host
import LivePages.Event.Index
import LivePages.Program.Compile
import LivePages.Program.Render
import LivePages.Url.Basic

/-! Clients. A client shows one page of a site at a time, and a visit holds all that the page has
bound. -/

namespace LivePages

/-- Where a client is in a navigation or a render. -/
inductive RenderState where
  | idle | matching | loading | compiling | rendering | indexing
deriving DecidableEq, Inhabited

/-- Everything one visit of a page has bound. It is let go when the page is left. -/
structure Visit where
  route : String
  bound : List String
  subscriptions : List (StoreId × ListenerId)
  computed : List (String × Action)
  /-- The layouts that the page has included so far. -/
  layouts : Table Module
deriving Inhabited

/-- A client that shows the pages of a site, one at a time. -/
structure Client extends Host where
  /-- Tells the clients on one host apart. -/
  number : Nat
  settings : Settings
  /-- The origin of the settings. -/
  origin : Option Url
  assets : AssetSource
  bindings : Bindings
  /-- The route that storage keys start with. -/
  scope : String
  session : AreaId
  durable : AreaId
  loaded : Option (AssetRegistry × LoadReport)
  current : Option Route.Match
  visit : Option Visit
  document : Document
  events : EventRegistry
  state : RenderState
deriving Inhabited

namespace Client

/-- A new client on a host, with two of its storage areas. -/
def new (host : Host) (number : Nat) (settings : Settings) (origin : Option Url)
    (assets : AssetSource) (session durable : AreaId) : Client :=
  { host with
    number, settings, origin, assets, session, durable
    bindings := []
    scope := Route.root
    loaded := none
    current := none
    visit := none
    document := Document.empty
    events := []
    state := .idle }

/-- A client with empty storage and without a site. -/
def bare (settings : Settings) : Client :=
  let host := { Host.empty with areas := [⟨[], false⟩, ⟨[], false⟩] }
  new host 0 settings none ⟨.memory [] [], []⟩ 0 1

def onHost (change : Host → Host) (c : Client) : Client := { c with toHost := change c.toHost }

/-- Runs a host operation that has an answer. -/
def askHost {α : Type} (change : Host → α × Host) (c : Client) : α × Client :=
  let (a, host) := change c.toHost
  (a, { c with toHost := host })

/-- The value of a binding. Functions have none. -/
def valueOf (c : Client) : Binding → Value
  | .value v => v
  | .store s => c.readStore s
  | .function _ => .null

def bind (name : String) (b : Binding) (c : Client) : Client :=
  { c with bindings := Table.insert name b c.bindings }

def bindValue (name : String) (v : Value) (c : Client) : Client := c.bind name (.value v)

def unbind (name : String) (c : Client) : Client :=
  { c with bindings := Table.erase c.bindings name }

end Client

end LivePages
