import AccessGateway.Authentication.Provider

/-
  Authentication by fixed tokens. Either every token stands for one identity, or each configured
  token stands for its own. A configuration with a blank token or with one token twice is
  refused.
-/

namespace AccessGateway

/-- Which tokens are accepted. -/
inductive TokenMode where
  | acceptAll
  | staticTokens
deriving DecidableEq, Inhabited, Repr

namespace TokenMode

/-- The name of a mode. -/
def name : TokenMode → String
  | acceptAll => "accept_all"
  | staticTokens => "static_tokens"

/-- The modes by name. -/
def named : List (String × TokenMode) := [acceptAll, staticTokens].map fun m => (m.name, m)

end TokenMode

/-- A token and whom it stands for. -/
structure TokenEntry where
  token : String
  identity : Identity
deriving DecidableEq, Inhabited, Repr

/-- The configuration of fixed tokens. -/
structure StaticTokenConfig where
  mode : TokenMode
  source : CredentialSource
  defaultIdentity : Identity
  tokens : List TokenEntry
deriving DecidableEq, Inhabited, Repr

namespace StaticTokenConfig

/-- The form of a configured identity. -/
def identityLayout : Layout Identity where
  typeName := "IdentityConfig"
  fields := [
    .optional "user_id" Reader.text fun v x => { x with userId := v },
    .optional "tenant" (Reader.nullable Reader.text) fun v x => { x with tenant := v },
    .optional "databases" (Reader.list Reader.text) fun v x => { x with databases := v }]
  closed := true
  blank := ⟨"default_user", none, []⟩

/-- The form of a configured token. -/
def tokenLayout (dialect : Dialect) : Layout TokenEntry where
  typeName := "TokenMapping"
  fields := [
    .needed "token" Reader.text fun v x => { x with token := v },
    .needed "identity" (identityLayout.read dialect) fun v x => { x with identity := v }]
  closed := true
  blank := ⟨"", identityLayout.blank⟩

/-- The configuration when nothing is written. -/
def default : StaticTokenConfig := ⟨.acceptAll, .bearer, identityLayout.blank, []⟩

/-- The form of a written configuration. -/
def layout (dialect : Dialect) : Layout StaticTokenConfig where
  typeName := "StaticTokenConfig"
  fields := [
    .optional "mode" (Reader.variant dialect TokenMode.named) fun v x => { x with mode := v },
    .optional "source" (CredentialSource.read dialect) fun v x => { x with source := v },
    .optional "default_identity" (identityLayout.read dialect)
      fun v x => { x with defaultIdentity := v },
    .optional "tokens" (Reader.list ((tokenLayout dialect).read dialect))
      fun v x => { x with tokens := v }]
  closed := true
  blank := default

/-- Reads a configuration. -/
def read (dialect : Dialect) : Reader StaticTokenConfig := (layout dialect).read dialect

end StaticTokenConfig

/-- Why a configuration of fixed tokens is refused. -/
inductive StaticTokenError where
  | emptyToken (user : String)
  | repeatedToken (lastUser : String)
deriving DecidableEq, Repr

/-- The text of a refusal. -/
def StaticTokenError.message : StaticTokenError → String
  | emptyToken user => "empty token configured for user '" ++ user ++ "'"
  | repeatedToken user => "token configured more than once (last for user '" ++ user ++ "')"

/-- Authenticates by fixed tokens. -/
structure StaticTokens where
  mode : TokenMode
  source : CredentialSource
  defaultIdentity : Identity
  identities : List (String × Identity)
deriving Repr

namespace StaticTokens

/-- The identities by token, given the tokens before. -/
def collect (seen : List String) : List TokenEntry →
    Except StaticTokenError (List (String × Identity))
  | [] => .ok []
  | e :: r =>
    if (trim e.token.toList).isEmpty then .error (.emptyToken e.identity.userId)
    else if e.token ∈ seen then .error (.repeatedToken e.identity.userId)
    else (collect (e.token :: seen) r).map ((e.token, e.identity) :: ·)

/-- The service of a configuration. -/
def ofConfig (c : StaticTokenConfig) : Except StaticTokenError StaticTokens :=
  (collect [] c.tokens).map fun ids => ⟨c.mode, c.source, c.defaultIdentity, ids⟩

/-- Whom a token stands for. -/
def identify (s : StaticTokens) (token : String) : Option Identity :=
  if token = "" then none
  else
    match s.mode with
    | .acceptAll => some s.defaultIdentity
    | .staticTokens => Entries.get? token s.identities

/-- Authenticates a request. -/
def authenticator (s : StaticTokens) : Authenticator := .ofSource s.source s.identify

end StaticTokens

end AccessGateway
