import AccessGateway.Document.Reader
import AccessGateway.Http.Message

/-
  Problem documents: how the gateway tells a client what went wrong.
-/

namespace AccessGateway

/-- A problem document. -/
structure Problem where
  type : String
  title : String
  status : Nat
  detail : String
  instanceUri : Option String
deriving DecidableEq, Inhabited, Repr

namespace Problem

/-- The form of a written problem. -/
def layout : Layout Problem where
  typeName := "Problem"
  fields := [
    .needed "type" Reader.text fun v x => { x with type := v },
    .needed "title" Reader.text fun v x => { x with title := v },
    .needed "status" (Reader.natBelow 65536 "u16") fun v x => { x with status := v },
    .needed "detail" Reader.text fun v x => { x with detail := v },
    .optional "instance" (Reader.nullable Reader.text) fun v x => { x with instanceUri := v }]
  closed := false
  blank := ⟨"", "", 0, "", none⟩

/-- Reads a problem. -/
def read (dialect : Dialect) : Reader Problem := layout.read dialect

/-- The written problem; an instance that is missing is left out. -/
def toJson (p : Problem) : Json :=
  .object <|
    ("detail", .text p.detail) ::
    (match p.instanceUri with
      | none => []
      | some i => [("instance", .text i)]) ++
    [("status", Json.ofNat p.status), ("title", .text p.title), ("type", .text p.type)]

/-- Whether a number is the status of a response. -/
def isStatus (n : Nat) : Bool := 100 ≤ n && n ≤ 999

/-- A problem of no particular type. -/
def of (status : Nat) (title detail : String) : Problem :=
  ⟨"about:blank", title, status, detail, none⟩

/-- The request says nothing that proves whom it comes from. -/
def unauthorized (detail : String) : Problem := of 401 "Unauthorized" detail

/-- The user may not do this. -/
def forbidden (detail : String) : Problem := of 403 "Forbidden" detail

/-- The fault is with the server. -/
def internal (detail : String) : Problem := of 500 "Internal Server Error" detail

/-- The status of the response with a problem. -/
def statusCode (p : Problem) : Nat := if isStatus p.status then p.status else 500

/-- The type of the content of a response with a problem. -/
def contentType : String := "application/problem+json"

/-- The response with a problem. -/
def response (p : Problem) : Response :=
  ⟨p.statusCode, some contentType, .json p.toJson, none⟩

end Problem

end AccessGateway
