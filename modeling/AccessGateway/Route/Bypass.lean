import AccessGateway.Document.Reader
import AccessGateway.Route.Conflict
import AccessGateway.Route.Search
import AccessGateway.Text.Ascii

/-
  Requests that are let through unchecked. A bypass list is a set of methods and patterns; a
  request passes if a pattern of its own method matches its path. Verbs are written in any letter
  case, and the patterns of one method may not conflict.
-/

namespace AccessGateway

/-- The verbs of each route, in ascending order of the routes. -/
abbrev BypassConfig := Table (List String)

namespace BypassConfig

/-- Reads verbs by route. -/
def read : Reader BypassConfig := Reader.table (Reader.list Reader.text)

/-- The written verbs by route. -/
def toJson (c : BypassConfig) : Json := Json.ofTable (c.map Json.ofTexts)

end BypassConfig

/-- Why a bypass configuration is refused. -/
inductive BypassError where
  | invalidMethod (verb route : String)
  | invalidRoute (route : String) (reason : PatternError)
deriving DecidableEq, Repr

/-- The text of a refusal. -/
def BypassError.message : BypassError → String
  | invalidMethod verb route =>
    "Invalid method '" ++ verb ++ "' for '" ++ route ++ "': invalid HTTP method"
  | invalidRoute route reason =>
    "Failed to insert bypass pattern '" ++ route ++ "': " ++ reason.message

/-- The requests that are let through: a method and a pattern each. -/
structure BypassList where
  routes : List (String × Pattern)
deriving DecidableEq, Inhabited, Repr

namespace BypassList

/-- Nothing is let through. -/
def empty : BypassList := ⟨[]⟩

/-- Whether nothing is let through. -/
def isEmpty (b : BypassList) : Bool := b.routes.isEmpty

/-- The patterns of a method. -/
def patterns (b : BypassList) (method : String) : List Pattern :=
  (b.routes.filter fun e => e.1 == method).map Prod.snd

/-- The list with one more pattern. -/
def insert (b : BypassList) (method route : String) : Except PatternError BypassList :=
  match Pattern.parse route with
  | .error e => .error e
  | .ok p =>
    match Pattern.join (b.patterns method) p with
    | .error e => .error e
    | .ok ps =>
      .ok ⟨(b.routes.filter fun e => e.1 != method) ++ ps.map fun q => (method, q)⟩

/-- The list with a route for each of its verbs. -/
def addVerbs (route : String) : List String → BypassList → Except BypassError BypassList
  | [], b => .ok b
  | verb :: r, b =>
    if !Ascii.isToken (Ascii.upper verb) then .error (.invalidMethod verb route)
    else
      match b.insert (Ascii.upper verb) route with
      | .error e => .error (.invalidRoute route e)
      | .ok b => addVerbs route r b

/-- The list with routes and their verbs. -/
def addRoutes : List (String × List String) → BypassList → Except BypassError BypassList
  | [], b => .ok b
  | (route, verbs) :: r, b =>
    match addVerbs route verbs b with
    | .error e => .error e
    | .ok b => addRoutes r b

/-- The list of a configuration. -/
def ofConfig (c : BypassConfig) : Except BypassError BypassList := addRoutes c.entries empty

/-- Whether a request passes. -/
def letsThrough (b : BypassList) (method path : String) : Bool :=
  Patterns.anyMatch (b.patterns method) path

end BypassList

end AccessGateway
