import LivePages.Module
import LivePages.Route.Pattern

/-! Where markup and modules come from. -/

namespace LivePages

/-- Why an asset cannot be loaded. -/
structure AssetError where
  path : String
  status : Nat
deriving DecidableEq, Inhabited

/-- Where the texts of a site come from: from memory, with loads that are made to fail, or from the
files of a directory. -/
inductive TextSource where
  | memory (texts : Table String) (failures : Table Nat)
  | files (texts : Table String)
deriving Inhabited

structure AssetSource where
  texts : TextSource
  modules : Table Blueprint
deriving Inhabited

/-- What there is at each path when the assets of a site are loaded. -/
structure AssetAnswers where
  text : String → Except AssetError String
  module : String → Except AssetError Blueprint

namespace AssetSource

/-- The place that a name leads to. Places are named from the directory of the site; those outside
of it start with dots. -/
def step (here : List String) (name : String) : List String :=
  if name = "." then here
  else if name ≠ ".." ∨ here.getLast?.all (· = "..") then here ++ [name]
  else here.dropLast

/-- The places on a path, the last one first. -/
def places (path : String) : List (List String) :=
  (Route.segments path).foldl (fun passed name => step (passed.headD []) name :: passed) [[]]

/-- Follows names through the given places. A name inside a file is an error of its own kind, and so
are a name that is too long and a path that ends at a directory. -/
def follow (files : List (List String × String)) (known : List (List String))
    (path : String) : List String → List String → Except AssetError String
  | here, [] =>
    match files.lookup here with
    | some text => if path.endsWith "/" then .error ⟨path, 500⟩ else .ok text
    | none => .error ⟨path, 500⟩
  | here, name :: rest =>
    let next := step here name
    if (files.lookup here).isSome ∨ 255 < name.utf8ByteSize then .error ⟨path, 500⟩
    else if next.all (· = "..") ∨ known.contains next then follow files known path next rest
    else .error ⟨path, 404⟩

/-- The text at a path of a directory with the given files, of which the later ones replace the
earlier. Outside of it there are only directories on the way up. -/
def readFile (texts : Table String) (path : String) : Except AssetError String :=
  if path.toList.contains '\x00' ∨ 4096 ≤ path.utf8ByteSize then .error ⟨path, 500⟩
  else
    let files := texts.reverse.map fun (file, text) => ((places file).headD [], text)
    let start := if path.startsWith "/" then [".."] else []
    follow files (texts.flatMap fun (file, _) => places file) path start (Route.segments path)

def fetchText (source : AssetSource) (path : String) : Except AssetError String :=
  match source.texts with
  | .memory texts failures =>
    match failures.get? path, texts.get? path with
    | some status, _ => .error ⟨path, status⟩
    | none, some text => .ok text
    | none, none => .error ⟨path, 404⟩
  | .files texts => readFile texts path

def loadModule (source : AssetSource) (path : String) : Except AssetError Blueprint :=
  let found := (source.modules.get? path).elim (.error ⟨path, 404⟩) .ok
  match source.texts with
  | .memory _ failures => (failures.get? path).elim found fun status => .error ⟨path, status⟩
  | .files _ => found

def answers (source : AssetSource) : AssetAnswers := ⟨source.fetchText, source.loadModule⟩

end AssetSource

end LivePages
