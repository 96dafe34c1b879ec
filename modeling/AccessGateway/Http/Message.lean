import AccessGateway.Http.Uri
import AccessGateway.Json.Basic

/-
  HTTP requests and responses. The names of headers are kept in small letters, and the headers of
  one name keep their order. A header value is readable if it holds only tabs and printable
  ASCII characters.
-/

namespace AccessGateway

/-- The headers of a message in order. -/
structure Headers where
  entries : List (String × String)
deriving DecidableEq, Inhabited, Repr

namespace Headers

/-- A character that no header value holds. -/
def isControl (c : Char) : Bool := (c.toNat < 0x20 && c != '\t') || c.toNat == 0x7F

/-- The headers of a list of names and values. -/
def ofPairs : List (String × String) → Except RequestError Headers
  | [] => .ok ⟨[]⟩
  | (k, v) :: r =>
    if !Ascii.isToken k then .error .invalidHeaderName
    else if v.toList.any isControl then .error .invalidHeaderValue
    else (ofPairs r).map fun h => ⟨(Ascii.lower k, v) :: h.entries⟩

/-- The values under a name in order. -/
def all (h : Headers) (name : String) : List String :=
  (h.entries.filter fun e => e.1 == Ascii.lower name).map Prod.snd

/-- The first value under a name. -/
def first? (h : Headers) (name : String) : Option String := (h.all name).head?

/-- Whether there is a header of a name. -/
def contains (h : Headers) (name : String) : Bool := (h.first? name).isSome

end Headers

/-- Whether a header value can be read as text. -/
def isReadableValue (v : String) : Bool := v.toList.all Ascii.isReadable

/-- A request with its body. -/
structure Request where
  method : String
  uri : Uri
  headers : Headers
  body : String
deriving Inhabited, Repr

namespace Request

/-- The request of its written parts. -/
def ofParts (method uri : String) (headers : List (String × String)) (body : String) :
    Except RequestError Request :=
  if !Ascii.isToken method then .error .invalidMethod
  else
    match Uri.parse uri with
    | .error e => .error e
    | .ok u =>
      match Headers.ofPairs headers with
      | .error e => .error e
      | .ok h => .ok ⟨method, u, h, body⟩

/-- The path of a request. -/
def path (r : Request) : String := r.uri.path

end Request

/-- The content of a response. -/
inductive Content where
  | nothing
  | text (s : String)
  | json (v : Json)

/-- A response: its status, the type of its content, the content, and the methods that its
`allow` header names. -/
structure Response where
  status : Nat
  contentType : Option String
  content : Content
  allow : Option String

namespace Response

/-- A response without content. -/
def bare (status : Nat) : Response := ⟨status, none, .nothing, none⟩

/-- A response with a JSON value. -/
def json (status : Nat) (v : Json) : Response := ⟨status, some "application/json", .json v, none⟩

/-- A response with a plain text. -/
def plain (status : Nat) (s : String) : Response :=
  ⟨status, some "text/plain; charset=utf-8", .text s, none⟩

/-- The response without its content, which keeps its type. -/
def withoutContent (r : Response) : Response := { r with content := .nothing }

/-- The response as it is sent in answer to a method: `HEAD` asks for no content, and nothing
follows a `CONNECT` that succeeded. -/
def answering (r : Response) (method : String) : Response :=
  if method = "HEAD" ∨ (method = "CONNECT" ∧ 200 ≤ r.status ∧ r.status < 300) then
    r.withoutContent
  else r

/-- The response with an `allow` header, unless it has none to give. -/
def withAllow (r : Response) : Option String → Response
  | none => r
  | some methods => { r with allow := some methods }

end Response

end AccessGateway
