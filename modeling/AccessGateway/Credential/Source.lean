import AccessGateway.Document.Reader
import AccessGateway.Text.Ascii
import AccessGateway.Text.Blank

/-
  Credentials of a request. A transport answers look-ups by kind and key; a source names the
  place of a credential and a scheme such as `Bearer `. `extract` looks the value up, takes the
  scheme off without regard to ASCII letter case and trims the rest; a value without the scheme
  and an empty one count as absent.
-/

namespace AccessGateway

/-- The places where a request carries credentials. Not every transport has metadata. -/
inductive CredentialKind where
  | header
  | cookie
  | urlParam
  | metadata
deriving DecidableEq, Inhabited, Repr

namespace CredentialKind

/-- The name of a kind. -/
def name : CredentialKind → String
  | header => "header"
  | cookie => "cookie"
  | urlParam => "url_param"
  | metadata => "metadata"

/-- The kinds by name. -/
def named : List (String × CredentialKind) :=
  [header, cookie, urlParam, metadata].map fun k => (k.name, k)

end CredentialKind

/-- Why a credential was not looked up. -/
inductive CredentialError where
  | unsupportedKind (kind : CredentialKind)
  | unreadable (kind : CredentialKind) (key : String)
deriving DecidableEq, Repr

/-- The text of a credential error. -/
def CredentialError.message : CredentialError → String
  | unsupportedKind kind =>
    "credential kind '" ++ kind.name ++ "' is not supported by this transport"
  | unreadable kind key => "unreadable " ++ kind.name ++ " credential '" ++ key ++ "'"

/-- A request as far as credentials go: the value under a kind and a key. -/
abbrev CredentialRequest := CredentialKind → String → Except CredentialError (Option String)

/-- The place of a credential, and the scheme in front of it. -/
structure CredentialSource where
  kind : CredentialKind
  key : String
  scheme : Option String
deriving DecidableEq, Inhabited, Repr

namespace CredentialSource

/-- A bearer token in the authorization header. -/
def bearer : CredentialSource := ⟨.header, "authorization", some "Bearer "⟩

/-- The form of a written source. -/
def layout (dialect : Dialect) : Layout CredentialSource where
  typeName := "CredentialSource"
  fields := [
    .needed "kind" (Reader.variant dialect CredentialKind.named) fun v x => { x with kind := v },
    .needed "key" Reader.text fun v x => { x with key := v },
    .optional "prefix" (Reader.nullable Reader.text) fun v x => { x with scheme := v }]
  closed := true
  blank := ⟨.header, "", none⟩

/-- Reads a source. -/
def read (dialect : Dialect) : Reader CredentialSource := (layout dialect).read dialect

/-- The written source. -/
def toJson (x : CredentialSource) : Json :=
  .object [("key", .text x.key), ("kind", .text x.kind.name), ("prefix", Json.ofText? x.scheme)]

/-- What follows a scheme, without regard to ASCII letter case. -/
def dropScheme? (scheme value : List Char) : Option (List Char) :=
  if Ascii.sameIgnoringCase (value.take scheme.length) scheme then
    some (value.drop scheme.length)
  else none

/-- The credential in a value that was found. -/
def credentialIn (scheme : Option String) (value : String) : Option String :=
  match dropScheme? (scheme.getD "").toList value.toList with
  | none => none
  | some rest => if (trim rest).isEmpty then none else some (String.ofList (trim rest))

/-- The credential of a request. -/
def extract (x : CredentialSource) (request : CredentialRequest) :
    Except CredentialError (Option String) :=
  match request x.kind x.key with
  | .error e => .error e
  | .ok none => .ok none
  | .ok (some value) => .ok (credentialIn x.scheme value)

end CredentialSource

end AccessGateway
