import LivePages.Route.Pattern

/-! The settings of a site, and the file names that follow from them. -/

namespace LivePages

/-- Where the assets of a site lie and how their files are named. -/
structure AssetSettings where
  routesDir : String := "routes"
  layoutsDir : String := "layouts"
  indexKey : String := "index"
  slugsManifest : String := "slugs"
  htmlExt : String := "html"
  scriptExt : String := "js"
  manifestExt : String := "json"
deriving DecidableEq, Inhabited

namespace AssetSettings

def routesManifestPath (s : AssetSettings) : String := s.routesDir ++ "." ++ s.manifestExt

def layoutsManifestPath (s : AssetSettings) : String := s.layoutsDir ++ "." ++ s.manifestExt

def slugsManifestPath (s : AssetSettings) : String := s.slugsManifest ++ "." ++ s.manifestExt

/-- A file of a route. Those of the root route lie in the directory of the routes itself. -/
def routeFile (s : AssetSettings) (route ext : String) : String :=
  if route = Route.root then s.routesDir ++ "/" ++ s.indexKey ++ "." ++ ext
  else s.routesDir ++ "/" ++ route ++ "/" ++ s.indexKey ++ "." ++ ext

def routeBody (s : AssetSettings) (route : String) : String := s.routeFile route s.htmlExt

def routeScript (s : AssetSettings) (route : String) : String := s.routeFile route s.scriptExt

def layoutBody (s : AssetSettings) (name : String) : String :=
  s.layoutsDir ++ "/" ++ name ++ "." ++ s.htmlExt

def layoutScript (s : AssetSettings) (name : String) : String :=
  s.layoutsDir ++ "/" ++ name ++ "." ++ s.scriptExt

end AssetSettings

/-- How bindings and event attributes are named. -/
structure BindingSettings where
  /-- Starts the names of bindings kept for the session. -/
  sessionSigil : Char := '$'
  /-- Starts the names of bindings kept for longer. -/
  durableSigil : Char := '_'
  /-- Starts the names of event attributes. -/
  eventSigil : Char := '@'
  /-- Events whose attribute names a function that is called with the value of the field. -/
  inputEvents : List String := ["input", "change", "submit"]
deriving DecidableEq, Inhabited

def BindingSettings.isInputEvent (s : BindingSettings) (event : String) : Bool :=
  s.inputEvents.contains event

structure Settings where
  assets : AssetSettings := {}
  bindings : BindingSettings := {}
  /-- Links to this origin are followed. Without one only relative links are. -/
  origin : Option String := none
  /-- What is shown when no route matches. -/
  notFoundMarkup : String := "<h1>404</h1><p>Page not found</p>"
  /-- The file of the durable storage, if it is not in memory. -/
  durableStoragePath : Option String := none
deriving DecidableEq, Inhabited

end LivePages
