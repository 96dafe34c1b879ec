import AccessGateway.Collections.Store
import AccessGateway.Http.Message
import AccessGateway.Text.Split

/-
  The places that the server answers at, and what it does there. A place on one collection has
  the name of the collection as one segment of its path, which is kept as it is written.
-/

namespace AccessGateway

/-- A place that the server answers at. -/
inductive Endpoint where
  | root
  | heartbeat
  | version
  | collections
  | collection (written : String)
  | add (written : String)
  | count (written : String)
deriving DecidableEq, Repr

/-- What a request to a place asks for. An operation on one collection has its name as it is
written. -/
inductive Task where
  | describe
  | heartbeat
  | version
  | operate (op : CollectionOperation) (written : Option String)
deriving DecidableEq, Repr

namespace Endpoint

/-- The place under a path. The name of a collection may be empty only where something follows
it. -/
def ofPath? (path : String) : Option Endpoint :=
  match (pieces '/' path.toList).map String.ofList with
  | ["", "api", "v1"] => some root
  | ["", "api", "v1", "heartbeat"] => some heartbeat
  | ["", "api", "v1", "version"] => some version
  | ["", "api", "v1", "collections"] => some collections
  | ["", "api", "v1", "collections", n] => if n = "" then none else some (collection n)
  | ["", "api", "v1", "collections", n, "add"] => some (add n)
  | ["", "api", "v1", "collections", n, "count"] => some (count n)
  | _ => none

/-- The tasks at a place by method. -/
def tasks : Endpoint → List (String × Task)
  | root => [("GET", .describe)]
  | heartbeat => [("GET", .heartbeat)]
  | version => [("GET", .version)]
  | collections => [("GET", .operate .list none), ("POST", .operate .create none)]
  | collection n => [("GET", .operate .get (some n)), ("DELETE", .operate .delete (some n))]
  | add n => [("POST", .operate .add (some n))]
  | count n => [("GET", .operate .count (some n))]

/-- The method whose task a method asks for: `HEAD` asks for that of `GET`. -/
def servedAs (method : String) : String := if method = "HEAD" then "GET" else method

/-- The task at a place for a method. -/
def task? (e : Endpoint) (method : String) : Option Task := Entries.get? (servedAs method) e.tasks

/-- The methods that a place knows, as an `allow` header names them. -/
def methods (e : Endpoint) : String :=
  ",".intercalate ((Entries.names e.tasks).map fun m => if m = "GET" then "GET,HEAD" else m)

end Endpoint

/-- The task of a request. -/
def Task.ofRequest? (r : Request) : Option Task :=
  (Endpoint.ofPath? r.path).bind fun e => e.task? r.method

/-- The methods that are named in the response to a request for a place that does not know its
method. -/
def Endpoint.allowed? (r : Request) : Option String :=
  (Endpoint.ofPath? r.path).bind fun e =>
    match e.task? r.method with
    | some _ => none
    | none => some e.methods

end AccessGateway
