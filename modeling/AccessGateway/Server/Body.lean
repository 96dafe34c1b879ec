import AccessGateway.Collections.Service
import AccessGateway.Document.JsonText
import AccessGateway.Http.MediaType
import AccessGateway.Server.Endpoint
import AccessGateway.Text.Percent

/-
  How a request becomes a call of the collections service: the name of the collection from the
  path, and what else is needed from the body. What cannot be understood is answered in plain
  text. The name is looked at before the body, and of the body its type first, then its size.
-/

namespace AccessGateway

/-- Why a request is not understood. -/
inductive Misunderstanding where
  | nameNotText
  | notJson
  | tooLong
  | malformedBody
  | mismatchedBody
deriving DecidableEq, Repr

namespace Misunderstanding

/-- The status that tells of a misunderstanding. -/
def status : Misunderstanding → Nat
  | nameNotText => 400
  | notJson => 415
  | tooLong => 413
  | malformedBody => 400
  | mismatchedBody => 422

/-- What a client is told of a misunderstanding. -/
def message : Misunderstanding → String
  | nameNotText => "Invalid URL: Invalid UTF-8 in " ++ Mismatch.ticked "name"
  | notJson => "Expected request with " ++ Mismatch.ticked "Content-Type: application/json"
  | tooLong => "Failed to buffer the request body"
  | malformedBody => "Failed to parse the request body as JSON"
  | mismatchedBody => "Failed to deserialize the JSON body into the target type"

/-- The response to a misunderstanding. -/
def response (e : Misunderstanding) : Response := .plain e.status e.message

end Misunderstanding

/-- The body of a request for a new collection. -/
structure NewCollection where
  name : String
deriving Inhabited

/-- The form of a written request for a new collection. -/
def NewCollection.layout : Layout NewCollection where
  typeName := "CreateCollectionRequest"
  fields := [.needed "name" Reader.text fun v x => { x with name := v }]
  closed := false
  blank := ⟨""⟩

/-- The body of a request with new records. -/
structure NewRecords where
  records : List Json
deriving Inhabited

/-- The form of a written request with new records. -/
def NewRecords.layout : Layout NewRecords where
  typeName := "AddRequest"
  fields := [.needed "records" (Reader.list Reader.any) fun v x => { x with records := v }]
  closed := false
  blank := ⟨[]⟩

/-- The number of bytes that a body may have. -/
def Request.bodyLimit : Nat := 2097152

/-- Reads the body of a request. -/
def Request.readBody {α : Type} (r : Request) (l : Layout α) : Except Misunderstanding α :=
  if r.hasJsonBody then
    if bodyLimit < r.body.utf8ByteSize then .error .tooLong
    else
      match JsonText.read (l.read .jsonText) r.body with
      | .ok a => .ok a
      | .error .malformed => .error .malformedBody
      | .error (.mismatched _ _) => .error .mismatchedBody
  else .error .notJson

namespace CollectionCall

/-- The call of an operation with a name that is known. -/
def ofBody (op : CollectionOperation) (name : String) (r : Request) :
    Except Misunderstanding CollectionCall :=
  match op with
  | .add => (r.readBody NewRecords.layout).map fun b => add name b.records
  | op => .ok (on op name)

/-- The call of an operation. -/
def ofRequest (op : CollectionOperation) (written : Option String) (r : Request) :
    Except Misunderstanding CollectionCall :=
  match written with
  | some w =>
    match Percent.decodeText? w with
    | some name => ofBody op name r
    | none => .error .nameNotText
  | none =>
    match op with
    | .create => (r.readBody NewCollection.layout).map fun b => on .create b.name
    | op => .ok ⟨op, ⟨none, []⟩⟩

end CollectionCall

end AccessGateway
