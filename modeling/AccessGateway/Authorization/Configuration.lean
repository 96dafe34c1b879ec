import AccessGateway.Document.Reader

/-
  Who holds which role and what the roles grant, as it is configured.
-/

namespace AccessGateway

/-- A user and the role the user holds. What is written about credentials here plays no part in
authorization. -/
structure UserEntry where
  id : String
  role : Option String
  tokens : List Json
deriving Inhabited

/-- The written actions that a role grants. -/
structure Role where
  actions : List String
deriving DecidableEq, Inhabited, Repr

/-- Users in order, and roles by name. -/
structure AuthorizationConfig where
  users : List UserEntry
  roles : Table Role
deriving Inhabited

namespace UserEntry

/-- The form of a written user. -/
def layout : Layout UserEntry where
  typeName := "UserConfig"
  fields := [
    .needed "id" Reader.text fun v x => { x with id := v },
    .optional "role" (Reader.nullable Reader.text) fun v x => { x with role := v },
    (Field.optional "tokens" (Reader.list Reader.any)
      fun v x => { x with tokens := v }).orNamed "credentials"]
  closed := false
  blank := ⟨"", none, []⟩

/-- The written user. -/
def toJson (x : UserEntry) : Json :=
  .object [("id", .text x.id), ("role", Json.ofText? x.role), ("tokens", .list x.tokens)]

end UserEntry

namespace Role

/-- The form of a written role. -/
def layout : Layout Role where
  typeName := "RoleConfig"
  fields := [.optional "actions" (Reader.list Reader.text) fun v x => { x with actions := v }]
  closed := false
  blank := ⟨[]⟩

/-- The written role. -/
def toJson (x : Role) : Json := .object [("actions", Json.ofTexts x.actions)]

end Role

namespace AuthorizationConfig

/-- No users and no roles. -/
def empty : AuthorizationConfig := ⟨[], Table.empty⟩

/-- The form of a written configuration. -/
def layout (dialect : Dialect) : Layout AuthorizationConfig where
  typeName := "AuthzConfiguration"
  fields := [
    .optional "users" (Reader.list (UserEntry.layout.read dialect))
      fun v x => { x with users := v },
    .optional "roles_mapping" (Reader.table (Role.layout.read dialect))
      fun v x => { x with roles := v }]
  closed := false
  blank := empty

/-- Reads a configuration. -/
def read (dialect : Dialect) : Reader AuthorizationConfig := (layout dialect).read dialect

/-- The written configuration. -/
def toJson (x : AuthorizationConfig) : Json :=
  .object [
    ("roles_mapping", Json.ofTable (x.roles.map Role.toJson)),
    ("users", .list (x.users.map UserEntry.toJson))]

end AuthorizationConfig

end AccessGateway
