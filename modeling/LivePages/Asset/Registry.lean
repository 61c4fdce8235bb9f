import LivePages.Asset.Source
import LivePages.Route.Manifest
import LivePages.Settings.Basic

/-! Loading all the assets of a site. What cannot be loaded is noted and does not stop the rest. -/

namespace LivePages

/-- What became of the assets of a site, in the order in which they were asked for. -/
structure LoadReport where
  loaded : List String
  failures : List AssetError
deriving Inhabited

def LoadReport.isComplete (r : LoadReport) : Bool := r.failures.isEmpty

def LoadReport.failure? (r : LoadReport) (path : String) : Option AssetError :=
  r.failures.find? fun e => e.path = path

/-- The routes and layouts of a site with their assets. A body that failed to load keeps its error;
a module that failed is left out. -/
structure AssetRegistry where
  routes : List Route.Entry
  routeBodies : Table (Except AssetError String)
  routeModules : Table Blueprint
  layoutBodies : Table (Except AssetError String)
  layoutModules : Table Blueprint
deriving Inhabited

/-- Why the assets of a site cannot be loaded at all. -/
inductive LoadError where
  | asset (cause : AssetError)
  | manifest (cause : Route.RouteError)
deriving Inhabited

/-- What the three manifests of a site say. -/
structure Manifests where
  routes : List String
  layouts : List String
  slugs : Table Route.Slugs

namespace Manifests

/-- Reads a manifest that has been fetched. -/
def readOne {α : Type} (read : String → Except Route.RouteError α)
    (text : Except AssetError String) : Except LoadError α := do
  (read (← text.mapError .asset)).mapError .manifest

def read (answers : AssetAnswers) (settings : AssetSettings) : Except LoadError Manifests := do
  let routes ← readOne Route.readNames (answers.text settings.routesManifestPath)
  let layouts ← readOne Route.readNames (answers.text settings.layoutsManifestPath)
  let slugs ← readOne Route.readSlugs (answers.text settings.slugsManifestPath)
  return ⟨routes, layouts, slugs⟩

/-- The routes that have assets: the root route, listed or not, and the others that are listed. -/
def routeNames (m : Manifests) : List String := Route.root :: m.routes.filter (· ≠ Route.root)

end Manifests

namespace AssetRegistry

/-- Adds what became of an asset to a report. -/
def noteOutcome {α : Type} (path : String) (outcome : Except AssetError α)
    (r : LoadReport) : LoadReport :=
  match outcome with
  | .ok _ => { r with loaded := r.loaded ++ [path] }
  | .error e => { r with failures := r.failures ++ [e] }

/-- Loads the body and the module of each name. What fails does not stop the rest. -/
def loadAll (answers : AssetAnswers) (bodyPath modulePath : String → String) :
    List String → LoadReport → Table (Except AssetError String) → Table Blueprint →
      LoadReport × Table (Except AssetError String) × Table Blueprint
  | [], report, bodies, modules => (report, bodies, modules)
  | name :: rest, report, bodies, modules =>
    let body := answers.text (bodyPath name)
    let module := answers.module (modulePath name)
    let report := noteOutcome (modulePath name) module (noteOutcome (bodyPath name) body report)
    let modules := (module.toOption).elim modules fun m => Table.insert name m modules
    loadAll answers bodyPath modulePath rest report (Table.insert name body bodies) modules

/-- Loads all assets that the manifests name. -/
def loadNamed (answers : AssetAnswers) (settings : AssetSettings) (m : Manifests) :
    AssetRegistry × LoadReport :=
  let (report, routeBodies, routeModules) :=
    loadAll answers settings.routeBody settings.routeScript m.routeNames ⟨[], []⟩ [] []
  let (report, layoutBodies, layoutModules) :=
    loadAll answers settings.layoutBody settings.layoutScript m.layouts report [] []
  (⟨Route.tableOf m.routes m.slugs, routeBodies, routeModules, layoutBodies, layoutModules⟩, report)

/-- Loads the three manifests and then all assets they name. Only a manifest can make this fail. -/
def loadFrom (answers : AssetAnswers) (settings : AssetSettings) :
    Except LoadError (AssetRegistry × LoadReport) :=
  (Manifests.read answers settings).map (loadNamed answers settings)

def load (source : AssetSource) (settings : AssetSettings) :
    Except LoadError (AssetRegistry × LoadReport) := loadFrom source.answers settings

/-- The markup of a route. -/
def routeBody (r : AssetRegistry) (route : String) : Except AssetError String :=
  (r.routeBodies.get? route).getD (.error ⟨route, 404⟩)

end AssetRegistry

end LivePages
