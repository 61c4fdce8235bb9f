import LivePages.Json.Reader
import LivePages.Route.Match

/-! The manifests that list the routes of a site and their slugs. -/

namespace LivePages.Route

/-- The texts of a list, if it holds nothing else. -/
def texts? : List Value → Option (List String)
  | [] => some []
  | .str s :: rest => (texts? rest).map (s :: ·)
  | _ => none

/-- A manifest of routes or layouts: a JSON list of texts. -/
def readNames (json : String) : Except RouteError (List String) :=
  match Json.readInOrder? json with
  | some (.arr items) => (texts? items).elim (.error .malformedManifest) .ok
  | _ => .error .malformedManifest

/-- The slug positions in the fields of an object. -/
def positions? : List (String × Value) → Option (List (String × Nat))
  | [] => some []
  | (name, .num (.int (.ofNat n))) :: rest => (positions? rest).map ((name, n) :: ·)
  | _ => none

/-- The patterns in the fields of an object, with their slug positions. -/
def slugMaps? : List (String × Value) → Option (List (String × Slugs))
  | [] => some []
  | (pattern, .obj fields) :: rest =>
    match positions? fields, slugMaps? rest with
    | some positions, some more => some ((pattern, Table.ofList positions) :: more)
    | _, _ => none
  | _ => none

/-- A manifest of slugs: a JSON object with the slug positions of each pattern. -/
def readSlugs (json : String) : Except RouteError (Table Slugs) :=
  match Json.readInOrder? json with
  | some (.obj fields) =>
    ((slugMaps? fields).map Table.ofList).elim (.error .malformedManifest) .ok
  | _ => .error .malformedManifest

/-- The table of routes, in the order of the manifest. A pattern without slugs in the manifest has
none. -/
def tableOf (routes : List String) (slugs : Table Slugs) : List Entry :=
  routes.map fun pattern => Entry.of pattern ((slugs.get? pattern).getD [])

end LivePages.Route
