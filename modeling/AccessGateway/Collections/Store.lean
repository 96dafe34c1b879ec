import AccessGateway.Authorization.Action
import AccessGateway.Json.Basic

/-
  Collections of records by name, and the six operations on them. An operation gives a result or
  an error and leaves a store; one that fails leaves the store as it was.
-/

namespace AccessGateway

/-- The records of each collection. -/
abbrev Store := Table (List Json)

/-- The database that holds the collections. -/
def defaultDatabase : String := "default_database"

/-- An operation on collections. -/
inductive CollectionOperation where
  | list
  | create
  | get
  | delete
  | add
  | count
deriving DecidableEq, Inhabited, Repr

namespace CollectionOperation

/-- The data action that an operation does. -/
def action : CollectionOperation → DataAction
  | list => .listCollections
  | create => .createCollection
  | get => .getCollection
  | delete => .deleteCollection
  | add => .add
  | count => .count

/-- The name of an operation. -/
def name (op : CollectionOperation) : String := op.action.name

end CollectionOperation

/-- The arguments of an operation. -/
structure CollectionArgs where
  collection : Option String
  records : List Json
deriving Inhabited

/-- Why an operation on a store fails. -/
inductive StoreError where
  | nameRequired
  | notFound (name : String)
  | alreadyExists (name : String)
deriving DecidableEq, Repr

namespace Store

/-- The names of the collections as a result. -/
def listed (s : Store) : Json := Json.ofTexts s.keys

/-- What an operation does to a collection. -/
def applyTo (s : Store) (op : CollectionOperation) (name : String) (records : List Json) :
    Except StoreError Json × Store :=
  match op, s.get? name with
  | .list, _ => (.ok s.listed, s)
  | .create, some _ => (.error (.alreadyExists name), s)
  | .create, none =>
    (.ok (.object [("database", .text defaultDatabase), ("name", .text name)]), s.insert name [])
  | _, none => (.error (.notFound name), s)
  | .get, some old =>
    (.ok (.object [("count", Json.ofNat old.length), ("database", .text defaultDatabase),
      ("name", .text name)]), s)
  | .delete, some _ => (.ok (.object [("deleted", .text name)]), s.erase name)
  | .add, some old =>
    (.ok (.object [("added", Json.ofNat records.length)]), s.insert name (old ++ records))
  | .count, some old => (.ok (Json.ofNat old.length), s)

/-- What an operation does to a store. Only listing needs no name. -/
def apply (s : Store) (op : CollectionOperation) (args : CollectionArgs) :
    Except StoreError Json × Store :=
  match op, args.collection with
  | .list, _ => (.ok s.listed, s)
  | _, none => (.error .nameRequired, s)
  | op, some name => applyTo s op name args.records

end Store

end AccessGateway
