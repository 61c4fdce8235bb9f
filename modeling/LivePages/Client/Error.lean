import LivePages.Expr.Error
import LivePages.Program.Basic
import LivePages.Route.Pattern
import LivePages.Storage

/-! Why a page is not shown. -/

namespace LivePages

/-- Why a page cannot be shown, or a client cannot be set up. -/
inductive PageError where
  | assetFetch (path : String) (status : Nat)
  | routeNotFound (path : String)
  | manifest (cause : Route.RouteError)
  | compile (cause : CompileError)
  | eval (cause : EvalError)
  | storage (cause : StorageError)
  | badOrigin
deriving Inhabited

namespace PageError

def message : PageError → String
  | assetFetch path status => "Failed to fetch " ++ path ++ " (status " ++ toString status ++ ")"
  | routeNotFound path => (Route.RouteError.notFound path).message
  | manifest cause => "Router error: " ++ cause.message
  | compile cause => "Compile error: " ++ cause.message
  | eval cause => "Evaluation error: " ++ cause.message
  | storage _ => "Storage error"
  | badOrigin => "Invalid origin"

/-- The status a server would answer with. -/
def status : PageError → Nat
  | assetFetch _ status => status
  | routeNotFound _ => 404
  | _ => 500

def isNotFound : PageError → Bool
  | routeNotFound _ => true
  | _ => false

end PageError

end LivePages
