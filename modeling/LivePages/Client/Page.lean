import LivePages.Client.Error
import LivePages.Client.Persistence

/-! Showing a page: binding what its module and layouts export, compiling, rendering, and
collecting listeners. Only one render is under way at a time, and requests for another are
dropped. -/

namespace LivePages.Client

/-- The binding that holds the matched route. -/
def routeName : String := "$route"

/-- The binding that holds the params and slugs of the matched route. -/
def contextName : String := "$ctx"

/-- The binding that holds the export values of the included layouts. -/
def layoutsName : String := "$layouts"

/-- Binds an export. A store is attached to its slot and rerenders the page when it changes. -/
def bindExport (r : Reactor) (name : String) (e : Export) (visit : Visit) (c : Client) :
    Visit × Client :=
  let visit := { visit with bound := visit.bound ++ [name] }
  match e with
  | .store s =>
    let c := c.bind name (.store s)
    let (slot, c) := c.attachStore r name s
    let (watch, c) := c.askHost (Host.subscribe s (.rerender c.number))
    let ids := slot.toList ++ [watch]
    ({ visit with subscriptions := visit.subscriptions ++ ids.map fun id => (s, id) }, c)
  | .computed a =>
    let (v, c) := c.compute r a
    ({ visit with computed := visit.computed ++ [(name, a)] }, c.bindValue name v)
  | .function f => (visit, c.bind name (.function f))
  | .value v =>
    let (_, c) := (c.bindValue name v).attachValue r name v
    (visit, c)

/-- Binds the exports of a module in their order. -/
def bindModule (r : Reactor) : Module → Visit → Client → Visit × Client
  | [], visit, c => (visit, c)
  | (name, e) :: rest, visit, c =>
    let (visit, c) := c.bindExport r name e visit
    bindModule r rest visit c

/-- Lets go of everything the current visit has bound. -/
def disposeVisit (c : Client) : Client :=
  match c.visit with
  | none => c
  | some visit =>
    let c := visit.subscriptions.foldl (fun c (s, id) => c.onHost (Host.unsubscribe s id)) c
    let c := visit.bound.foldl (fun c name => c.unbind name) c
    { c.unbind layoutsName with visit := none }

/-- Binds the matched route and what belongs to it. -/
def installContext (m : Route.Match) (c : Client) : Client :=
  let c := (c.bindValue routeName (.str m.route)).bindValue contextName m.context
  { c with scope := m.route, current := some m }

/-- An instance of a module, or an empty module if there is none. -/
def instanceOf (blueprint : Option Blueprint) (c : Client) : Module × Client :=
  match blueprint with
  | some b => c.askHost (Host.instantiate b)
  | none => ([], c)

/-- The value of an export. Functions have none. -/
def exportValue (r : Reactor) (e : Export) (c : Client) : Value × Client :=
  match e with
  | .value v => (v, c)
  | .store s => (c.readStore s, c)
  | .computed a => c.compute r a
  | .function _ => (.null, c)

/-- The values of the exports of a module, without the functions. -/
def snapshotFields (r : Reactor) : Module → Client → List (String × Value) × Client
  | [], c => ([], c)
  | (_, .function _) :: rest, c => snapshotFields r rest c
  | (name, e) :: rest, c =>
    let (v, c) := c.exportValue r e
    let (fields, c) := snapshotFields r rest c
    ((name, v) :: fields, c)

/-- The values of the exports of a module as an object. -/
def snapshot (r : Reactor) (m : Module) (c : Client) : Value × Client :=
  let (fields, c) := c.snapshotFields r m
  (Value.ofFields fields, c)

/-- The values of the exports of several modules, each as an object. -/
def snapshots (r : Reactor) : Table Module → Client → List (String × Value) × Client
  | [], c => ([], c)
  | (name, m) :: rest, c =>
    let (v, c) := c.snapshot r m
    let (fields, c) := snapshots r rest c
    ((name, v) :: fields, c)

/-- Binds the export values of the layouts that the page has included, if there are any. -/
def refreshLayouts (r : Reactor) (c : Client) : Client :=
  match c.visit with
  | none => c
  | some visit =>
    if visit.layouts.isEmpty then c
    else
      let (fields, c) := snapshots r visit.layouts c
      c.bindValue layoutsName (Value.ofFields fields)

/-- Computes the computed exports of the visit again. -/
def refreshComputed (r : Reactor) (c : Client) : Client :=
  match c.visit with
  | none => c
  | some visit =>
    visit.computed.foldl (fun c (name, a) =>
      let (v, c) := c.compute r a
      c.bindValue name v) c

/-- Binds the exports of a layout when the page includes it for the first time. -/
def bindLayout (r : Reactor) (registry : AssetRegistry) (name : String) (c : Client) : Client :=
  match c.visit with
  | none => c
  | some visit =>
    if visit.layouts.contains name then c
    else
      let (m, c) := instanceOf (registry.layoutModules.get? name) c
      let (visit, c) := c.bindModule r m visit
      let visit := { visit with layouts := Table.insert name m visit.layouts }
      { c with visit := some visit }.refreshLayouts r

/-- A step of showing a page, which may fail. -/
abbrev Showing (α : Type) := ExceptT PageError (StateM Client) α

def enter (state : RenderState) : Showing Unit := modify fun c => { c with state }

/-- The layouts of a site. The exports of a layout are bound before it is compiled. -/
def layoutSource (r : Reactor) (registry : AssetRegistry) : LayoutSource Client PageError where
  resolve name :=
    match registry.layoutBodies.get? name with
    | none => pure none
    | some (.error e) => throw (.assetFetch e.path e.status)
    | some (.ok markup) => do
      modify (bindLayout r registry name)
      match Markup.parse markup with
      | .ok nodes => pure (some nodes)
      | .error e => throw (.compile (.parse e))
  report e := .compile e

/-- Puts an evaluation among the steps of showing a page. -/
def evaluating {α : Type} (e : Evaluation Client α) : Showing α := fun c =>
  let (result, c) := e c
  (result.mapError .eval, c)

/-- Puts markup into the document and collects its listeners. -/
def showMarkup (focus : Option FocusTarget) (markup : String) (c : Client) : Client :=
  let (events, document) :=
    EventIndex.index c.settings.bindings focus (c.document.replaceMarkup markup)
  { c with events, document }

/-- Compiles and renders the body of the page, and puts the result into the document. -/
def renderPass (r : Reactor) (registry : AssetRegistry) (body : String)
    (focus : Option FocusTarget) : Showing Unit := do
  enter .compiling
  modify (refreshComputed r)
  modify (refreshLayouts r)
  let program ← (layoutSource r registry).compile body
  enter .rendering
  let html ← evaluating (program.render (surroundings r).evaluator)
  enter .indexing
  modify (showMarkup focus html)

/-- Runs steps and returns to the idle state, whether they succeed or not. -/
def untilIdle {α : Type} (steps : Showing α) : Showing α := fun c =>
  let (result, c) := steps c
  (result, { c with state := .idle })

/-- Renders the current page again. A request during a render, or without a page, is dropped. -/
def requestRender (r : Reactor) (focus : Option FocusTarget) : Showing Bool := do
  let c ← get
  if c.state ≠ .idle then return false
  match c.current, c.loaded with
  | some m, some (registry, _) =>
    match registry.routeBody m.route with
    | .error e => throw (.assetFetch e.path e.status)
    | .ok body => untilIdle (renderPass r registry body focus)
    return true
  | _, _ => return false

/-- The assets of the site, which are loaded once. -/
def loadedAssets : Showing AssetRegistry := do
  let c ← get
  match c.loaded with
  | some (registry, _) => return registry
  | none =>
    match AssetRegistry.load c.assets c.settings.assets with
    | .ok loaded =>
      set { c with loaded := some loaded }
      return loaded.1
    | .error (.asset e) => throw (.assetFetch e.path e.status)
    | .error (.manifest e) => throw (.manifest e)

/-- Leaves the page and shows that there is none. -/
def showNotFound (c : Client) : Client :=
  let c := { c.disposeVisit with current := none }
  showMarkup none c.settings.notFoundMarkup ((c.unbind routeName).unbind contextName)

/-- Binds the page of a match in place of the current one, and renders it. -/
def showPage (r : Reactor) (registry : AssetRegistry) (m : Route.Match) : Showing Unit := do
  enter .loading
  match registry.routeBody m.route with
  | .error e => throw (.assetFetch e.path e.status)
  | .ok body =>
    modify fun c =>
      let c := c.disposeVisit.installContext m
      let (module, c) := instanceOf (registry.routeModules.get? m.route) c
      let (visit, c) := c.bindModule r module ⟨m.route, [], [], [], []⟩
      { c with visit := some visit }
    renderPass r registry body none

/-- Shows the page of a path. Only a navigation that succeeds is recorded in the history. -/
def navigateWith (r : Reactor) (path : String) (kind : NavigationKind) : Showing Route.Match := do
  let m ← untilIdle do
    enter .matching
    let registry ← loadedAssets
    match Route.resolve registry.routes path with
    | .error (.notFound path) =>
      modify showNotFound
      throw (.routeNotFound path)
    | .error e => throw (.manifest e)
    | .ok m =>
      showPage r registry m
      return m
  modify fun c => { c with history := c.history.record kind path }
  return m

end LivePages.Client
