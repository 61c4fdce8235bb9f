import LivePages.Table
import LivePages.Text.Basic

/-! Patterns of routes: their segments, the named positions among these, and the errors of routes. -/

namespace LivePages.Route

/-- The pattern of the root route. -/
def root : String := "/"

/-- The segments of a path: its parts between slashes, without the empty ones. -/
def segments (path : String) : List String :=
  ((Text.splitWhere (· = '/') path.toList).filter (· ≠ [])).map String.ofList

/-- Characters that mark a segment of a pattern as a slug. -/
def slugMarks : List Char := ['<', '>', '|', '[', ']']

/-- Whether a segment of a pattern accepts any text. -/
def isSlug (segment : String) : Bool := segment.toList.any slugMarks.contains

/-- The positions of the slugs of a pattern by name, in the order of their declaration. -/
abbrev Slugs := Table Nat

/-- Why a path or a pattern is refused. -/
inductive RouteError where
  | notFound (path : String)
  | invalidPattern (pattern reason : String)
  | malformedManifest
deriving DecidableEq, Inhabited

def RouteError.message : RouteError → String
  | notFound path => "Route not found: " ++ path
  | invalidPattern pattern reason => "Invalid route " ++ pattern ++ ": " ++ reason
  | malformedManifest => "Invalid manifest"

/-- The status a server would answer with. -/
def RouteError.status : RouteError → Nat
  | notFound _ => 404
  | _ => 500

/-- The slugs of the segments from `position` on, added to those before. -/
def placeSlugs (pattern : String) (slugs : Slugs) (position : Nat) (afterSlug : Bool) :
    List String → Except RouteError Slugs
  | [] => .ok slugs
  | segment :: rest =>
    if !isSlug segment then placeSlugs pattern slugs (position + 1) false rest
    else if position = 0 then
      .error (.invalidPattern pattern "a route cannot start with a slug")
    else if afterSlug then .error (.invalidPattern pattern "slugs cannot be adjacent")
    else placeSlugs pattern (Table.insert segment position slugs) (position + 1) true rest

/-- The slugs of a pattern: every marked segment under its own text. A pattern starts with no slug,
and no two slugs are neighbours. Positions count the empty parts of the pattern too. -/
def Slugs.derive (pattern : String) : Except RouteError Slugs :=
  placeSlugs pattern [] 0 false ((Text.splitWhere (· = '/') pattern.toList).map String.ofList)

def Slugs.hasPosition (slugs : Slugs) (position : Nat) : Bool :=
  slugs.any fun (_, p) => p = position

end LivePages.Route
