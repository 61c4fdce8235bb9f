import LivePages.Client.Reaction

/-! Keeping bindings in storage. The sigil at the start of a name decides whether and where. -/

namespace LivePages.Client

/-- The key under which the slot of a name is stored. -/
def storageKey (c : Client) (name : String) : String := c.scope ++ "/" ++ name

/-- The tier of a plain value, by the sigil its name starts with. -/
def valueTier? (c : Client) (name : String) : Option Tier :=
  let first := name.toList.head?
  if first = some c.settings.bindings.sessionSigil then some .session
  else if first = some c.settings.bindings.durableSigil then some .durable
  else none

/-- The tier of a store. A persistent one without a sigil is durable. -/
def storeTier? (c : Client) (name : String) (persist : Bool) : Option Tier :=
  (c.valueTier? name).or (if persist then some .durable else none)

def area (c : Client) : Tier → AreaId
  | .session => c.session
  | .durable => c.durable

/-- The value in the slot of a name. -/
def load? (c : Client) (name : String) (tier : Tier) : Option Value :=
  (c.readText (c.area tier) (c.storageKey name)).bind Slot.read?

/-- Assigns the stored value to a name. A value that does not fit a store counts as absent. -/
def restore (r : Reactor) (name : String) (tier : Tier) (c : Client) : Bool × Client :=
  match c.load? name tier with
  | none => (false, c)
  | some v =>
    match c.assign r name v with
    | (.ok (), c) => (true, c)
    | (.error _, c) => (false, c)

/-- Writes a value to the slot of a name, and binds it unless the name is bound to a store. -/
def record (name : String) (v : Value) (tier : Tier) (c : Client) : Client :=
  let c := c.onHost (Host.writeText (c.area tier) (c.storageKey name) (Slot.write v))
  match c.bindings.get? name with
  | some (.store _) => c
  | _ => c.bindValue name v

/-- Restores a plain value, or records the given one. -/
def attachValue (r : Reactor) (name : String) (v : Value) (c : Client) : Option Tier × Client :=
  match c.valueTier? name with
  | none => (none, c)
  | some tier =>
    let (restored, c) := c.restore r name tier
    (some tier, if restored then c else c.record name v tier)

/-- Restores the store bound to a name, or records its value; from then on its slot follows every
change. The slot stays the same when the scope changes. -/
def attachStore (r : Reactor) (name : String) (s : StoreId) (c : Client) :
    Option ListenerId × Client :=
  match c.storeTier? name ((c.stores[s]?).any Store.persist) with
  | none => (none, c)
  | some tier =>
    let (restored, c) := c.restore r name tier
    let c := if restored then c else c.record name (c.readStore s) tier
    let (id, c) := c.askHost (Host.subscribe s (.slot c.number (c.area tier) (c.storageKey name)))
    (some id, c)

end LivePages.Client
