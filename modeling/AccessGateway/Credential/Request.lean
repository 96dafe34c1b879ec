import AccessGateway.Credential.Source
import AccessGateway.Entries
import AccessGateway.Http.Message
import AccessGateway.Text.Percent

/-
  The two transports that carry credentials: lists of headers, cookies, parameters and metadata
  in memory, and an HTTP request. Of several values in memory under one key the last counts; of
  several headers, cookies or parameters of an HTTP request the first.
-/

namespace AccessGateway

/-- Credentials in memory. -/
structure MemoryRequest where
  headers : List (String × String)
  cookies : List (String × String)
  params : List (String × String)
  metadata : Option (List (String × String))
deriving Inhabited, Repr

namespace MemoryRequest

/-- The last value under a key. -/
def last? (key : String) (l : List (String × String)) : Option String :=
  Entries.get? key l.reverse

/-- The look-ups in memory. -/
def credentials (r : MemoryRequest) : CredentialRequest
  | .header, key =>
    .ok (last? (Ascii.lower key) (r.headers.map fun e => (Ascii.lower e.1, e.2)))
  | .cookie, key => .ok (last? key r.cookies)
  | .urlParam, key => .ok (last? key r.params)
  | .metadata, key =>
    match r.metadata with
    | none => .error (.unsupportedKind .metadata)
    | some l => .ok (last? key l)

end MemoryRequest

namespace Cookie

/-- A quote around the value of a cookie. -/
def isQuote (c : Char) : Bool := c.toNat == 0x22

/-- The name and the value of a piece of a cookie header; the value loses the quotes around it. -/
def pair? (piece : List Char) : Option (String × String) :=
  (splitOnce '=' (trim piece)).map fun p =>
    (String.ofList p.1, String.ofList (trimBy isQuote p.2))

/-- The cookies of a cookie header. -/
def pairs (value : String) : List (String × String) := (pieces ';' value.toList).filterMap pair?

/-- The value of the first cookie of a name in several cookie headers. Headers that cannot be
read have no cookies. -/
def find? (values : List String) (name : String) : Option String :=
  Entries.get? name ((values.filter isReadableValue).flatMap pairs)

end Cookie

/-- The look-ups in an HTTP request. HTTP has no metadata. -/
def httpCredentials (headers : Headers) (uri : Uri) : CredentialRequest
  | .header, key =>
    match headers.first? key with
    | none => .ok none
    | some v => if isReadableValue v then .ok (some v) else .error (.unreadable .header key)
  | .cookie, key => .ok (Cookie.find? (headers.all "cookie") key)
  | .urlParam, key =>
    match uri.query with
    | none => .ok none
    | some q => .ok (Entries.get? key (Form.pairs q))
  | .metadata, _ => .error (.unsupportedKind .metadata)

/-- The look-ups in a request. -/
def Request.credentials (r : Request) : CredentialRequest := httpCredentials r.headers r.uri

end AccessGateway
