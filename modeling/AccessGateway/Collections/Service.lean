import AccessGateway.Api.Error
import AccessGateway.Collections.Store
import AccessGateway.Hook.Dispatcher

/-
  The collections service. Every operation passes its guard first; then the hooks see the
  arguments, the operation is done on the store, and the hooks see the result. The guard of an
  operation on one collection asks about that collection, the others about the database.
-/

namespace AccessGateway

/-- The hooks around operations on collections. -/
abbrev CollectionHooks := Dispatcher CollectionArgs Json

/-- Why the service gives no result. -/
inductive ServiceError where
  | authorization (e : AuthorizationError)
  | hook (e : HookError)
  | store (e : StoreError)
deriving DecidableEq, Repr

/-- The text of a store error. -/
def StoreError.message : StoreError → String
  | nameRequired => "collection name is required"
  | notFound name => "collection '" ++ name ++ "' not found"
  | alreadyExists name => "collection '" ++ name ++ "' already exists"

namespace ServiceError

/-- The text of an error. -/
def message : ServiceError → String
  | authorization e => e.message
  | hook e => e.message
  | store e => e.message

/-- The error of a handler that an error of the service becomes. -/
def toApiError : ServiceError → ApiError
  | authorization e => .authorization e
  | hook e => .internal e.message
  | store .nameRequired => .badRequest StoreError.nameRequired.message
  | store (.notFound name) => .notFound (StoreError.notFound name).message
  | store (.alreadyExists name) => .conflict (StoreError.alreadyExists name).message

end ServiceError

/-- The resource of a call on a collection. -/
def collectionResource (_ : String) (args : CollectionArgs) : Resource :=
  ⟨"collection", args.collection⟩

/-- The guard in front of an operation. -/
def CollectionOperation.guard (op : CollectionOperation) : Guard CollectionArgs :=
  { operation := op.name
    action := op.name
    resource :=
      match op with
      | .list | .create => .fixed (.database defaultDatabase)
      | _ => .dynamic collectionResource
    missingScope := .allow }

/-- The operation on the store, as the hooks are put around it. -/
def CollectionOperation.onStore (op : CollectionOperation) (args : CollectionArgs) :
    StateM Store (Except ServiceError Json) := fun s =>
  let r := s.apply op args
  (r.1.mapError .store, r.2)

/-- What a call of the service leaves: its result, the store, and what was done for it. -/
structure ServiceRun where
  result : Except ServiceError Json
  store : Store
  guardEvents : List (GuardEvent CollectionArgs)
  hookEvents : List (HookEvent CollectionArgs Json)

/-- A call of the service: an operation and its arguments. -/
structure CollectionCall where
  operation : CollectionOperation
  args : CollectionArgs
deriving Inhabited

namespace CollectionCall

/-- Lists the collections. -/
def list : CollectionCall := ⟨.list, ⟨none, []⟩⟩

/-- Calls an operation on a collection. -/
def on (op : CollectionOperation) (name : String) : CollectionCall := ⟨op, ⟨some name, []⟩⟩

/-- Adds records to a collection. -/
def add (name : String) (records : List Json) : CollectionCall := ⟨.add, ⟨some name, records⟩⟩

/-- Runs a call on a store. -/
def run (c : CollectionCall) (hooks : CollectionHooks) (scope : Option Scope) (s : Store) :
    ServiceRun :=
  match c.operation.guard.check scope c.args with
  | (.error e, events) => ⟨.error (.authorization e), s, events, []⟩
  | (.ok (), events) =>
    let r := (hooks.run c.operation.name c.args .hook c.operation.onStore).run s
    ⟨r.1.1, r.2, events, r.1.2⟩

end CollectionCall

end AccessGateway
