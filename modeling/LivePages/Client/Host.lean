import LivePages.History
import LivePages.Module
import LivePages.Storage

/-! What outlives a client: the stores of all module instances, storage, and the history. -/

namespace LivePages

/-- Identifies a storage area. -/
abbrev AreaId := Nat

/-- A listener on a store. -/
inductive Listener where
  /-- Put there by a page module itself. -/
  | host (react : Value → Action)
  /-- Keeps the slot of a binding current, on behalf of a client. -/
  | slot (client : Nat) (area : AreaId) (key : String)
  /-- Renders the page of a client again, the client being given by its number. -/
  | rerender (client : Nat)
deriving Inhabited

def Listener.isHost : Listener → Bool
  | host _ => true
  | _ => false

/-- Stored texts in memory, or in memory and in the storage file. -/
structure Area where
  texts : StoredTexts
  onFile : Bool
deriving Inhabited

/-- What lives longer than a client: stores, storage areas and the history. -/
structure Host where
  stores : List (Store Listener)
  areas : List Area
  /-- The content of the storage file, if there is one. -/
  file : Option String
  history : History
  /-- What actions have kept for themselves. -/
  memory : Table Value
  /-- What actions have noted, the oldest first. -/
  log : List Value
  /-- The stores made for the exports of modules, by module path and export. -/
  made : List (String × String × StoreId)
  /-- How many module instances there have been. -/
  instances : Nat
  /-- Whether a chain of notifications grew so long that it was cut off. -/
  exhausted : Bool
deriving Inhabited

namespace Host

def empty : Host := ⟨[], [], none, History.empty, [], [], [], 0, false⟩

def readStore (h : Host) (s : StoreId) : Value := (h.stores[s]?).elim .null Store.value

def onStore (s : StoreId) (change : Store Listener → Store Listener) (h : Host) : Host :=
  { h with stores := h.stores.modify s change }

def isSubscribed (h : Host) (s : StoreId) (id : ListenerId) : Bool :=
  (h.stores[s]?).any fun store => store.isSubscribed id

def listeners (h : Host) (s : StoreId) : List (ListenerId × Listener) :=
  (h.stores[s]?).elim [] Store.listeners

/-- The form a value takes in a store; a store that does not exist takes none. -/
def accept (h : Host) (s : StoreId) (v : Value) : Except Mismatch Value :=
  match h.stores[s]? with
  | some store => store.type.accept v
  | none => .error (.kind v "a store")

def subscribe (s : StoreId) (listener : Listener) (h : Host) : ListenerId × Host :=
  match h.stores[s]? with
  | some store =>
    let (id, store) := store.subscribe listener
    (id, { h with stores := h.stores.set s store })
  | none => (0, h)

def unsubscribe (s : StoreId) (id : ListenerId) (h : Host) : Host :=
  h.onStore s (Store.unsubscribe id)

/-- Removes a listener on behalf of an action. Listeners of clients are out of its reach. -/
def forget (s : StoreId) (id : ListenerId) (h : Host) : Host :=
  h.onStore s fun store =>
    { store with
      listeners := store.listeners.filter fun entry => !(entry.1 = id && entry.2.isHost) }

def addStore (store : Store Listener) (h : Host) : StoreId × Host :=
  (h.stores.length, { h with stores := h.stores ++ [store] })

/-- Opens a storage area. -/
def addArea (area : Area) (h : Host) : AreaId × Host :=
  (h.areas.length, { h with areas := h.areas ++ [area] })

/-- Opens an area on the storage file. -/
def openFile (h : Host) : Except StorageError (AreaId × Host) :=
  (StoredTexts.ofFile (h.file.elim .missing .text)).map fun texts => h.addArea ⟨texts, true⟩

def readText (h : Host) (area : AreaId) (key : String) : Option String :=
  (h.areas[area]?).bind fun a => a.texts.get? key

/-- Changes the texts of an area. An area on file writes the whole file anew. -/
def onTexts (area : AreaId) (change : StoredTexts → StoredTexts) (h : Host) : Host :=
  match h.areas[area]? with
  | none => h
  | some a =>
    let texts := change a.texts
    { h with
      areas := h.areas.set area { a with texts }
      file := if a.onFile then some texts.toFile else h.file }

def writeText (area : AreaId) (key text : String) (h : Host) : Host :=
  h.onTexts area (Table.insert key text)

def removeText (area : AreaId) (key : String) (h : Host) : Host :=
  if (h.readText area key).isSome then h.onTexts area (Table.erase · key) else h

/-- The stores made for an export so far. -/
def storesMade (h : Host) (path name : String) : List StoreId :=
  (h.made.filter fun (p, n, _) => p = path && n = name).map fun (_, _, s) => s

/-- The store for an export of a new instance. A shared one is made only once. -/
def makeStore (path name : String) (type : StoreType) (initial : Value)
    (persist shared : Bool) (h : Host) : StoreId × Host :=
  match (if shared then (h.storesMade path name).head? else none) with
  | some s => (s, h)
  | none =>
    let (s, h) := h.addStore (Store.new type initial persist)
    (s, { h with made := h.made ++ [(path, name, s)] })

/-- The stores for all exports that are stores, in their order. -/
def makeStores (path : String) : List (String × Plan) → Host → List StoreId × Host
  | [], h => ([], h)
  | (name, .store type initial persist shared) :: rest, h =>
    let (s, h) := h.makeStore path name type initial persist shared
    let (stores, h) := makeStores path rest h
    (s :: stores, h)
  | _ :: rest, h => makeStores path rest h

/-- The exports of an instance whose stores have been made, in their order. -/
def exportsOf (i : Instance) : List (String × Plan) → List StoreId → List (String × Export)
  | (name, .store ..) :: rest, s :: stores => (name, .store s) :: exportsOf i rest stores
  | (name, .value v) :: rest, stores => (name, .value v) :: exportsOf i rest stores
  | (name, .function call) :: rest, stores => (name, .function (call i)) :: exportsOf i rest stores
  | (name, .computed compute) :: rest, stores =>
    (name, .computed (compute i)) :: exportsOf i rest stores
  | _, _ => []

def isStorePlan : Plan → Bool
  | .store .. => true
  | _ => false

/-- Makes an instance of a module: first its stores, then the exports that may refer to them. -/
def instantiate (b : Blueprint) (h : Host) : Module × Host :=
  let (stores, h) := makeStores b.path b.plans h
  let names := (b.plans.filter fun (_, plan) => isStorePlan plan).map Prod.fst
  let i : Instance := ⟨h.instances, Table.ofList (names.zip stores)⟩
  (Table.ofList (exportsOf i b.plans stores), { h with instances := h.instances + 1 })

end Host

end LivePages
