import AccessGateway.Authentication.Provider
import AccessGateway.Files
import AccessGateway.Text.Base64
import AccessGateway.Text.Blank

/-
  Authentication by user name and password. The credential is the base64 text of the name, a
  colon and the password; the first colon separates them. Users are configured one by one or in
  a file of lines `name:password`, in which blank lines and lines that start with a number sign
  are passed over.
-/

namespace AccessGateway

/-- A user with a password. The user id of the identity is the name unless another is given. -/
structure BasicUser where
  username : String
  password : String
  userId : Option String
  tenant : Option String
  databases : List String
deriving DecidableEq, Inhabited, Repr

/-- The configuration of users with passwords. -/
structure BasicAuthConfig where
  users : List BasicUser
  credentialsFile : Option String
deriving DecidableEq, Inhabited, Repr

namespace BasicUser

/-- A user with nothing but a name and a password. -/
def plain (username password : String) : BasicUser := ⟨username, password, none, none, []⟩

/-- The form of a written user. -/
def layout : Layout BasicUser where
  typeName := "BasicUser"
  fields := [
    .needed "username" Reader.text fun v x => { x with username := v },
    .needed "password" Reader.text fun v x => { x with password := v },
    .optional "user_id" (Reader.nullable Reader.text) fun v x => { x with userId := v },
    .optional "tenant" (Reader.nullable Reader.text) fun v x => { x with tenant := v },
    .optional "databases" (Reader.list Reader.text) fun v x => { x with databases := v }]
  closed := true
  blank := plain "" ""

/-- Whom a user is known as. -/
def identity (u : BasicUser) : Identity := ⟨u.userId.getD u.username, u.tenant, u.databases⟩

end BasicUser

namespace BasicAuthConfig

/-- The form of a written configuration. -/
def layout (dialect : Dialect) : Layout BasicAuthConfig where
  typeName := "BasicAuthConfig"
  fields := [
    .optional "users" (Reader.list (BasicUser.layout.read dialect))
      fun v x => { x with users := v },
    .optional "credentials_file" (Reader.nullable Reader.path)
      fun v x => { x with credentialsFile := v }]
  closed := true
  blank := ⟨[], none⟩

/-- Reads a configuration. -/
def read (dialect : Dialect) : Reader BasicAuthConfig := (layout dialect).read dialect

end BasicAuthConfig

/-- Why a configuration of users with passwords is refused. -/
inductive BasicAuthError where
  | unreadableFile (path : String) (fault : FileFault)
  | malformedLine (path : String) (number : Nat)
  | emptyUsername
  | repeatedUser (username : String)
deriving DecidableEq, Repr

namespace BasicAuthError

/-- The text of a refusal and of the errors behind it. -/
def chain : BasicAuthError → List String
  | unreadableFile path fault =>
    ["failed to read credentials file '" ++ path ++ "'", fault.message]
  | malformedLine path number =>
    ["invalid credentials at " ++ path ++ ":" ++ toString number ++
      ": expected 'username:password'"]
  | emptyUsername => ["empty username configured"]
  | repeatedUser username => ["user '" ++ username ++ "' configured more than once"]

end BasicAuthError

/-- Whether two lists of octets are equal. Every octet of the shorter one is compared, wherever
the first difference is: differences of octets and of the lengths are gathered in one number. -/
def constantTimeEq (expected given : List UInt8) : Bool :=
  (expected.zip given).foldl (fun acc p => acc ||| (p.1 ^^^ p.2).toNat)
    (expected.length ^^^ given.length) == 0

/-- A password and whom it belongs to. -/
structure Account where
  password : String
  identity : Identity
deriving DecidableEq, Inhabited, Repr

/-- Authenticates by user name and password. -/
structure BasicAuth where
  accounts : List (String × Account)
deriving Repr

namespace BasicAuth

/-- Whether a line of a credentials file is passed over. -/
def isIgnored (line : List Char) : Bool := line.isEmpty || line.head? == some '#'

/-- The users of the lines of a credentials file, the first of which has the given number. -/
def readLines (path : String) : Nat → List (List Char) → Except BasicAuthError (List BasicUser)
  | _, [] => .ok []
  | n, l :: r =>
    if isIgnored (trim l) then readLines path (n + 1) r
    else
      match splitOnce ':' (trim l) with
      | none => .error (.malformedLine path n)
      | some (u, p) =>
        (readLines path (n + 1) r).map (BasicUser.plain (String.ofList u) (String.ofList p) :: ·)

/-- The users of a credentials file. -/
def readFile (files : Files) (path : String) : Except BasicAuthError (List BasicUser) :=
  match files.readText path with
  | .error f => .error (.unreadableFile path f)
  | .ok s => readLines path 1 (lines s.toList)

/-- The accounts of users, given the names before. -/
def collect (seen : List String) : List BasicUser →
    Except BasicAuthError (List (String × Account))
  | [] => .ok []
  | u :: r =>
    if u.username = "" then .error .emptyUsername
    else if u.username ∈ seen then .error (.repeatedUser u.username)
    else (collect (u.username :: seen) r).map ((u.username, ⟨u.password, u.identity⟩) :: ·)

/-- The users of the credentials file of a configuration, if it names one. -/
def fileUsers (files : Files) (c : BasicAuthConfig) : Except BasicAuthError (List BasicUser) :=
  match c.credentialsFile with
  | none => .ok []
  | some path => readFile files path

/-- The service of a configuration. The users of the file come after the others. -/
def ofConfig (files : Files) (c : BasicAuthConfig) : Except BasicAuthError BasicAuth :=
  match fileUsers files c with
  | .error e => .error e
  | .ok more => (collect [] (c.users ++ more)).map fun as => ⟨as⟩

/-- The number of users. -/
def userCount (s : BasicAuth) : Nat := s.accounts.length

/-- The name and the password in a base64 text. -/
def decodePayload? (payload : String) : Option (String × String) := do
  let octets ← Base64.decode? (trim payload.toList)
  let cs ← Utf8.decode? octets
  let p ← splitOnce ':' cs
  some (String.ofList p.1, String.ofList p.2)

/-- Whom a base64 text of a name and a password stands for. -/
def verify (s : BasicAuth) (payload : String) : Option Identity := do
  let p ← decodePayload? payload
  let a ← Entries.get? p.1 s.accounts
  if constantTimeEq (Utf8.ofText a.password) (Utf8.ofText p.2) then some a.identity else none

/-- The place of the credential. -/
def source : CredentialSource := ⟨.header, "authorization", some "Basic "⟩

/-- Authenticates a request. -/
def authenticator (s : BasicAuth) : Authenticator := .ofSource source s.verify

end BasicAuth

end AccessGateway
