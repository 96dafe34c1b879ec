import AccessGateway.Document.Reader

/-
  Who a request comes from: the user id that policies grant to, the tenant and the databases the
  authentication provider knows of.
-/

namespace AccessGateway

/-- An authenticated user. -/
structure Identity where
  userId : String
  tenant : Option String
  databases : List String
deriving DecidableEq, Inhabited, Repr

namespace Identity

/-- The form of a written identity. -/
def layout : Layout Identity where
  typeName := "Identity"
  fields := [
    .needed "user_id" Reader.text fun v x => { x with userId := v },
    .optional "tenant" (Reader.nullable Reader.text) fun v x => { x with tenant := v },
    .optional "databases" (Reader.list Reader.text) fun v x => { x with databases := v }]
  closed := false
  blank := ⟨"", none, []⟩

/-- Reads an identity. -/
def read (dialect : Dialect) : Reader Identity := layout.read dialect

/-- The written identity; a tenant or databases that are missing are left out. -/
def toJson (x : Identity) : Json :=
  .object <|
    (if x.databases.isEmpty then [] else [("databases", Json.ofTexts x.databases)]) ++
    (match x.tenant with
      | none => []
      | some t => [("tenant", .text t)]) ++
    [("user_id", .text x.userId)]

/-- The description of an identity. -/
def describe (x : Identity) : String :=
  "Identity \x7b user_id: " ++ Quoted.text x.userId ++ ", tenant: " ++ Quoted.optional x.tenant ++
    ", databases: " ++ Quoted.list x.databases ++ " \x7d"

end Identity

end AccessGateway
