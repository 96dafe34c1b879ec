import AccessGateway.Authorization.Context
import AccessGateway.Text.Split

/-
  Actions. A role action is a resource type and an action, written with one colon between them;
  `parse` accepts exactly the texts that `render` writes of two parts that are not empty and
  hold no colon, and tells any other text as it is. A data action is one of the operations on
  tenants, databases and collections, each with its resource type and its name.
-/

namespace AccessGateway

/-- A grant of a role: an action on a type of resource. -/
structure RoleAction where
  resourceType : String
  action : String
deriving DecidableEq, Inhabited, Repr

/-- A text that is refused because it writes no role action. -/
structure RoleActionError where
  text : String
deriving DecidableEq, Repr

namespace RoleAction

/-- The written role action. -/
def render (x : RoleAction) : String := x.resourceType ++ ":" ++ x.action

/-- The role action that a text writes. -/
def parse (s : String) : Except RoleActionError RoleAction :=
  match splitOnce ':' s.toList with
  | none => .error ⟨s⟩
  | some (t, a) =>
    if t.isEmpty ∨ a.isEmpty ∨ ':' ∈ a then .error ⟨s⟩
    else .ok ⟨String.ofList t, String.ofList a⟩

/-- The role action that a text writes, if it writes one. -/
def parse? (s : String) : Option RoleAction := (parse s).toOption

/-- What is said of a text that writes no role action. -/
def malformed (s : String) : String :=
  "malformed role action '" ++ s ++ "': expected 'resource_type:action'"

end RoleAction

/-- The text of a refusal. -/
def RoleActionError.message (e : RoleActionError) : String := RoleAction.malformed e.text

/-- An operation on tenants, databases and collections. -/
inductive DataAction where
  | createTenant
  | getTenant
  | createDatabase
  | getDatabase
  | reset
  | listCollections
  | createCollection
  | getOrCreateCollection
  | getCollection
  | deleteCollection
  | updateCollection
  | add
  | delete
  | get
  | query
  | peek
  | update
  | upsert
  | count
deriving DecidableEq, Inhabited, Repr

namespace DataAction

/-- Every data action, in order. -/
def all : List DataAction := [
  createTenant, getTenant, createDatabase, getDatabase, reset, listCollections, createCollection,
  getOrCreateCollection, getCollection, deleteCollection, updateCollection, add, delete, get,
  query, peek, update, upsert, count]

/-- The name of a data action. -/
def name : DataAction → String
  | createTenant => "create_tenant"
  | getTenant => "get_tenant"
  | createDatabase => "create_database"
  | getDatabase => "get_database"
  | reset => "reset"
  | listCollections => "list_collections"
  | createCollection => "create_collection"
  | getOrCreateCollection => "get_or_create_collection"
  | getCollection => "get_collection"
  | deleteCollection => "delete_collection"
  | updateCollection => "update_collection"
  | add => "add"
  | delete => "delete"
  | get => "get"
  | query => "query"
  | peek => "peek"
  | update => "update"
  | upsert => "upsert"
  | count => "count"

/-- The type of the resources that a data action is done on. -/
def resourceType : DataAction → String
  | createTenant | getTenant => "tenant"
  | createDatabase | getDatabase | reset | listCollections | createCollection
  | getOrCreateCollection => "db"
  | _ => "collection"

/-- The grant that allows a data action. -/
def roleAction (a : DataAction) : RoleAction := ⟨a.resourceType, a.name⟩

/-- The data action of a name. -/
def ofName? (s : String) : Option DataAction := all.find? fun a => a.name == s

/-- What is said of a text that names no data action. -/
def unknown (s : String) : String := "unknown data action '" ++ s ++ "'"

end DataAction

namespace Resource

/-- A tenant. -/
def tenant (id : String) : Resource := ⟨"tenant", some id⟩

/-- A database. -/
def database (id : String) : Resource := ⟨"db", some id⟩

/-- A collection. -/
def collection (id : String) : Resource := ⟨"collection", some id⟩

end Resource

end AccessGateway
