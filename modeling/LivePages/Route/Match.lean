import LivePages.Route.Pattern
import LivePages.Value.Basic

/-! Matching a path against the registered patterns: the longest pattern wins, then the first. -/

namespace LivePages.Route

/-- A registered pattern. -/
structure Entry where
  pattern : String
  segments : List String
  slugs : Slugs
deriving DecidableEq, Inhabited

def Entry.of (pattern : String) (slugs : Slugs) : Entry := ⟨pattern, Route.segments pattern, slugs⟩

/-- Whether any segment of a request fits at that position. -/
def Entry.isVariable (e : Entry) (position : Nat) : Bool :=
  e.slugs.hasPosition position || (e.segments[position]?).any isSlug

/-- What a request path leads to. -/
structure Match where
  route : String
  /-- The segments of the request after the route. -/
  params : List String
  /-- The values of the slugs. -/
  slugs : Table String
deriving DecidableEq, Inhabited

def Match.root : Match := ⟨Route.root, [], []⟩

def Match.isRoot (m : Match) : Bool := m.route = Route.root

/-- Whether a request starts with segments that fit the entry. -/
def Entry.accepts (e : Entry) (request : List String) : Bool :=
  e.pattern ≠ root && !e.segments.isEmpty && e.segments.length ≤ request.length &&
    ((e.segments.zip request).zipIdx.all fun ((segment, asked), position) =>
      e.isVariable position || segment = asked)

/-- The match of an entry that accepts the request. -/
def Entry.resolve (e : Entry) (request : List String) : Match :=
  { route := e.pattern
    params := request.drop e.segments.length
    slugs := e.slugs.filterMap fun (name, position) => (request[position]?).map (name, ·) }

/-- Of two candidates the longer one, of equally long ones the first. -/
def longer (best : Option Entry) (e : Entry) : Option Entry :=
  match best with
  | none => some e
  | some current => if current.segments.length < e.segments.length then some e else some current

/-- Resolves a path: the longest entry that accepts it, and of those the one registered first. A
path without segments leads to the root route. -/
def resolve (table : List Entry) (path : String) : Except RouteError Match :=
  let request := Route.segments path
  if request.isEmpty then .ok Match.root
  else
    match (table.filter fun e => e.accepts request).foldl longer none with
    | some e => .ok (e.resolve request)
    | none => .error (.notFound path)

/-- The value templates see for a match: its params and slugs. -/
def Match.context (m : Match) : Value :=
  Value.ofFields
    [("params", .arr (m.params.map .str)),
      ("slugs", Value.ofFields (m.slugs.map fun (name, value) => (name, .str value)))]

end LivePages.Route
