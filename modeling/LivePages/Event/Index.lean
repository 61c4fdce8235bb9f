import LivePages.Document
import LivePages.Event.Basic
import LivePages.Settings.Basic
import LivePages.Text.Basic

/-! Finding the listeners of a document. Elements without an id get a number that no other element
has for its id. -/

namespace LivePages

open Markup (Attribute)

/-- The element to focus after indexing. -/
structure FocusTarget where
  elementId : String
  caret : Option Nat
deriving DecidableEq, Inhabited

namespace EventIndex

/-- The least number above `last` whose numeral is not taken. -/
def freshNumber (taken : List String) (last : Nat) : Nat :=
  let candidates := (List.range (taken.length + 1)).map (last + 1 + ·)
  (candidates.find? fun n => !taken.contains (toString n)).getD (last + 1)

/-- The event that an attribute listens to: its name after the sigil. -/
def eventOf? (settings : BindingSettings) (a : Attribute) : Option String :=
  match a.name.toList with
  | c :: rest =>
    if c = settings.eventSigil ∧ rest ≠ [] then some (String.ofList rest) else none
  | [] => none

/-- What the attribute of an event asks for: a handler for input events, otherwise a script. -/
def actionOf (settings : BindingSettings) (event source : String) : EventAction :=
  if settings.isInputEvent event then .handler (String.ofList (Text.trim source.toList))
  else .script source

/-- Registers the listeners among the attributes of an element. -/
def registerAll (settings : BindingSettings) (id : String) (attributes : List Attribute)
    (registry : EventRegistry) : EventRegistry :=
  attributes.foldl (fun registry a =>
    match eventOf? settings a with
    | some event =>
      EventRegistry.register ⟨id, event, actionOf settings event a.valueOrEmpty⟩ registry
    | none => registry) registry

/-- Gives an element without an id the next free number, and registers its listeners. -/
def visit (settings : BindingSettings) (taken : List String) (_tag : String)
    (attributes : List Attribute) (state : Nat × EventRegistry) :
    List Attribute × Nat × EventRegistry :=
  let (last, registry) := state
  match Markup.idOf? attributes with
  | some id => (attributes, last, registerAll settings id attributes registry)
  | none =>
    let n := freshNumber taken last
    let attributes := Markup.setAttribute "id" (toString n) attributes
    (attributes, n, registerAll settings (toString n) attributes registry)

/-- Focuses an element and puts the caret into it, as far as that is possible. -/
def focusOn (target : FocusTarget) (d : Document) : Document :=
  match d.focus? target.elementId with
  | none => d
  | some focused =>
    match target.caret with
    | some offset => (focused.setCaret? offset).getD focused
    | none => focused

/-- Numbers the live elements without an id in document order, collects the listeners of the
document, and focuses the target if it is there. Numbers that are ids already are left out. -/
def index (settings : BindingSettings) (focus : Option FocusTarget) (d : Document) :
    EventRegistry × Document :=
  let taken := Markup.authoredIds d.nodes
  let (nodes, _, registry) := Markup.mapLive (visit settings taken) d.nodes (0, [])
  let d := { d with nodes }
  (registry, focus.elim d (focusOn · d))

end EventIndex

end LivePages
