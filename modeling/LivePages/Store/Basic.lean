import LivePages.Store.Type

/-! Stores: a value with listeners in the order of their registration. Notification is not here: a
listener may act on any store, so it is a matter of the client. -/

namespace LivePages

abbrev ListenerId := Nat

/-- A value of a certain type that can be listened to. Listeners stand in the order in which they
were registered, each with a number of its own; `ℓ` is what is known about a listener. -/
structure Store (ℓ : Type) where
  type : StoreType
  value : Value
  /-- Whether the value is kept in storage whatever its name is. -/
  persist : Bool
  listeners : List (ListenerId × ℓ)
  nextId : ListenerId

namespace Store

variable {ℓ : Type}

def new (type : StoreType) (value : Value) (persist : Bool) : Store ℓ :=
  ⟨type, value, persist, [], 0⟩

/-- Registers a listener. It is not called for the current value. -/
def subscribe (listener : ℓ) (s : Store ℓ) : ListenerId × Store ℓ :=
  (s.nextId,
    { s with listeners := s.listeners ++ [(s.nextId, listener)], nextId := s.nextId + 1 })

/-- Removes a listener. Removing it again has no effect. -/
def unsubscribe (id : ListenerId) (s : Store ℓ) : Store ℓ :=
  { s with listeners := s.listeners.filter fun entry => entry.1 ≠ id }

def isSubscribed (s : Store ℓ) (id : ListenerId) : Bool := s.listeners.any fun entry => entry.1 = id

end Store

end LivePages
