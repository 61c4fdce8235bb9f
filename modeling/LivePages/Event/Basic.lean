/-! The listeners of a document. -/

namespace LivePages

/-- What the listener of an event does. -/
inductive EventAction where
  /-- Calls the bound function of that name with the value of the field. -/
  | handler (name : String)
  /-- Runs a script. -/
  | script (source : String)
deriving DecidableEq, Inhabited

/-- A listener for an event on an element. -/
structure EventBinding where
  elementId : String
  event : String
  action : EventAction
deriving DecidableEq, Inhabited

def EventBinding.isInput (b : EventBinding) : Bool :=
  match b.action with
  | .handler _ => true
  | .script _ => false

/-- The listeners of a document, at most one for each element and event. -/
abbrev EventRegistry := List EventBinding

namespace EventRegistry

/-- Adds a listener, in the place of one for the same element and event. -/
def register (binding : EventBinding) : EventRegistry → EventRegistry
  | [] => [binding]
  | b :: rest =>
    if b.elementId = binding.elementId ∧ b.event = binding.event then binding :: rest
    else b :: register binding rest

def get? (r : EventRegistry) (elementId event : String) : Option EventBinding :=
  r.find? fun b => b.elementId = elementId && b.event = event

/-- The listeners of one element. -/
def ofElement (r : EventRegistry) (elementId : String) : EventRegistry :=
  r.filter fun b => b.elementId = elementId

end EventRegistry

end LivePages
