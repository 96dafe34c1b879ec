import AccessGateway.Identity

/-
  The question an authorization provider is asked: may this user do this action on this
  resource? Requests without an identity are asked about as the anonymous user.
-/

namespace AccessGateway

/-- The thing an action is done on. -/
structure Resource where
  type : String
  id : Option String
deriving DecidableEq, Inhabited, Repr

/-- The question whether a user may do an action on a resource. -/
structure AuthorizationContext where
  user : String
  resource : Resource
  action : String
deriving DecidableEq, Inhabited, Repr

/-- The user id of requests without an identity. -/
def anonymousUser : String := "Anonymous"

/-- The user id that is asked about for an identity. -/
def userOf : Option Identity → String
  | none => anonymousUser
  | some x => x.userId

namespace Resource

/-- The form of a written resource. -/
def layout : Layout Resource where
  typeName := "AuthzResource"
  fields := [
    .needed "type" Reader.text fun v x => { x with type := v },
    .optional "id" (Reader.nullable Reader.text) fun v x => { x with id := v }]
  closed := false
  blank := ⟨"", none⟩

/-- The written resource; an id that is missing is left out. -/
def toJson (x : Resource) : Json :=
  .object <|
    (match x.id with
      | none => []
      | some i => [("id", .text i)]) ++ [("type", .text x.type)]

/-- The description of a resource. -/
def describe (x : Resource) : String :=
  "AuthzResource \x7b resource_type: " ++ Quoted.text x.type ++ ", id: " ++
    Quoted.optional x.id ++ " \x7d"

end Resource

namespace AuthorizationContext

/-- The form of a record whose only field is an id. -/
def idLayout (typeName : String) : Layout String where
  typeName := typeName
  fields := [.needed "id" Reader.text fun v _ => v]
  closed := false
  blank := ""

/-- The form of a written question. -/
def layout (dialect : Dialect) : Layout AuthorizationContext where
  typeName := "AuthorizationContext"
  fields := [
    .needed "user" ((idLayout "AuthzUser").read dialect) fun v x => { x with user := v },
    .needed "resource" (Resource.layout.read dialect) fun v x => { x with resource := v },
    .needed "action" ((idLayout "AuthzAction").read dialect) fun v x => { x with action := v }]
  closed := false
  blank := ⟨"", ⟨"", none⟩, ""⟩

/-- Reads a question. -/
def read (dialect : Dialect) : Reader AuthorizationContext := (layout dialect).read dialect

/-- A record whose only field is an id. -/
def idJson (id : String) : Json := .object [("id", .text id)]

/-- The written question. -/
def toJson (x : AuthorizationContext) : Json :=
  .object [("action", idJson x.action), ("resource", x.resource.toJson), ("user", idJson x.user)]

end AuthorizationContext

end AccessGateway
