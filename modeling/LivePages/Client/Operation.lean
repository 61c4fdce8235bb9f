import LivePages.Client.Reactor

/-! What can be asked of a client from outside. -/

namespace LivePages.Client

/-- Opens a client on a host. Without an area for durable texts they are kept in the storage file,
if the settings name one, or else in memory. -/
def create (host : Host) (number : Nat) (settings : Settings) (assets : AssetSource)
    (session : AreaId) (durable : Option AreaId) : Except PageError Client := do
  let origin ←
    match settings.origin with
    | none => pure none
    | some text => (Url.read? text).elim (.error .badOrigin) fun u => .ok (some u)
  let (area, host) ←
    match durable, settings.durableStoragePath with
    | some area, _ => pure (area, host)
    | none, some _ => host.openFile.mapError .storage
    | none, none => pure (host.addArea ⟨[], false⟩)
  return new host number settings origin assets session area

/-- Shows the page of a path. -/
def navigate (path : String) (kind : NavigationKind) : Showing Route.Match :=
  navigateWith reactor path kind

/-- Shows the root page for a start. -/
def start : Showing Route.Match := navigate Route.root .replace

/-- Shows the page of a path to which the history has moved. -/
def popState (path : String) : Showing Route.Match := navigate path .pop

/-- Moves the history and shows the page of the path it comes to, if there is one. -/
def travel (move? : History → Option (String × History)) :
    Showing (Option Route.Match) := do
  match move? (← get).history with
  | none => return none
  | some (path, history) =>
    modify fun c => { c with history }
    return some (← popState path)

def goBack : Showing (Option Route.Match) := travel History.back?

def goForward : Showing (Option Route.Match) := travel History.forward?

/-- The URL of a site without an origin. -/
def localSite : Url := ⟨"http", some (.domain "localhost"), none, .segments [""]⟩

/-- The path a link leads to, if it stays on the site. Without an origin exactly the links that are
not absolute do. -/
def linkPath? (origin : Option Url) (link : String) : Option String := do
  let target ← (origin.getD localSite).join? link
  let stays :=
    match origin with
    | some site => target.origin?.isSome && target.origin? = site.origin?
    | none => (Url.read? link).isNone
  if stays then some target.pathText else none

/-- Follows a link if it stays on the site. The answer is whether it does. -/
def followLink (link : String) : Showing Bool := do
  match linkPath? (← get).origin link with
  | none => return false
  | some path =>
    let _ ← navigate path .push
    return true

/-- Renders the current page again. The answer is whether it was rendered. -/
def render : Showing Bool := requestRender reactor none

/-- The document for a path with the status of a server's answer. A path without a page has a
document too. -/
def serve (path : String) : Showing (String × Nat) := fun c =>
  let (result, c) := popState path c
  match result with
  | .ok _ => (.ok (c.document.toHtml, 200), c)
  | .error e => (if e.isNotFound then .ok (c.document.toHtml, e.status) else .error e, c)

/-- What comes with an event: the value of the field, if it is known, and the caret in it. -/
structure EventInput where
  value : Option String
  caret : Option Nat
deriving DecidableEq, Inhabited

/-- The value of the field an event belongs to. -/
def fieldValue (elementId : String) (input : EventInput) (c : Client) : String :=
  input.value.getD ((c.document.find? elementId).elim "" Markup.Element.fieldValue)

/-- Runs the listener for an event on an element, and renders the page again. After a handler the
focus returns to the element. The answer is whether there is such a listener. -/
def dispatch (elementId event : String) (input : EventInput) : Showing Bool := do
  let c ← get
  match c.events.get? elementId event with
  | none => return false
  | some binding =>
    let focus : Option FocusTarget ←
      match binding.action with
      | .handler name => do
        let _ ← evaluating fun c =>
          c.call reactor name [.str (fieldValue elementId input c)]
        pure (some ⟨elementId, input.caret⟩)
      | .script source => do
        evaluating ((surroundings reactor).evaluator.execute source [])
        pure none
    let _ ← requestRender reactor focus
    return true

/-- Gives a store a value from outside. -/
def setStoreValue (s : StoreId) (v : Value) : Client → Except Mismatch Unit × Client :=
  offer reactor s v

/-- Assigns to a binding from outside. -/
def assignBinding (name : String) (v : Value) : Client → Except EvalError Unit × Client :=
  assign reactor name v

/-- Carries out an action from outside. -/
def perform (a : Action) : Client → Except EvalError Value × Client := a.run reactor

/-- Binds the exports of a module without a page: computed exports as plain values. -/
def bindPlainly : Module → Client → Client
  | [], c => c
  | (name, e) :: rest, c =>
    match e with
    | .value v => bindPlainly rest (c.bindValue name v)
    | .store s => bindPlainly rest (c.bind name (.store s))
    | .function f => bindPlainly rest (c.bind name (.function f))
    | .computed a =>
      let (v, c) := c.compute reactor a
      bindPlainly rest (c.bindValue name v)

/-- Renders markup against the exports of a module, on the root route and without layouts. -/
def renderMarkup (markup : String) (m : Module) : Showing String := do
  modify (bindPlainly m)
  modify fun c => (c.bindValue routeName (.str Route.root)).bindValue contextName
    Route.Match.root.context
  let program ← fun c =>
    let (result, c) := (LayoutSource.ofLookup fun _ => none).compile markup c
    (result.mapError .compile, c)
  evaluating (program.render (surroundings reactor).evaluator)

end LivePages.Client
