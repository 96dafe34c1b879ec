import AccessGateway.Text.Ascii
import AccessGateway.Text.Split
import AccessGateway.Text.Utf8

/-
  Request targets. A target is a path with a query (`/a?b`), a full URI, the asterisk, or a bare
  authority. A fragment is dropped. What is refused, and with which error, is decided by the
  first character that does not fit.
-/

namespace AccessGateway

/-- Why a request cannot be made. -/
inductive RequestError where
  | invalidMethod
  | invalidHeaderName
  | invalidHeaderValue
  | emptyTarget
  | targetTooLong
  | schemeTooLong
  | invalidCharacter
  | invalidAuthority
  | invalidFormat
deriving DecidableEq, Repr

/-- The text of a request error. -/
def RequestError.message : RequestError → String
  | invalidMethod => "invalid HTTP method"
  | invalidHeaderName => "invalid HTTP header name"
  | invalidHeaderValue => "failed to parse header value"
  | emptyTarget => "empty string"
  | targetTooLong => "uri too long"
  | schemeTooLong => "scheme too long"
  | invalidCharacter => "invalid uri character"
  | invalidAuthority => "invalid authority"
  | invalidFormat => "invalid format"

/-- The target of a request: its path, which is empty if the target is a bare authority, and its
query. -/
structure Uri where
  path : String
  query : Option String
deriving DecidableEq, Inhabited, Repr

namespace Uri

/-- A character of a path. Characters that should be percent-coded are let through if clients
are known to send them as they are. -/
def isPathChar (c : Char) : Bool :=
  let n := c.toNat
  n == 0x21 || n == 0x22 || (0x24 ≤ n && n ≤ 0x3B) || n == 0x3D || (0x40 ≤ n && n ≤ 0x5F) ||
    0x61 ≤ n

/-- A character of a query. -/
def isQueryChar (c : Char) : Bool :=
  let n := c.toNat
  n == 0x21 || (0x24 ≤ n && n ≤ 0x3B) || n == 0x3D || (0x3F ≤ n && n != 0x7F)

/-- A character of an authority other than the marks that are counted there. -/
def isAuthorityChar (c : Char) : Bool :=
  c.isAlphanum || "!$&'()*+,-.;=_~".toList.contains c

/-- A character of a scheme. -/
def isSchemeChar (c : Char) : Bool := c.isAlphanum || "+-.~".toList.contains c

/-- The query of a target behind its question mark. -/
def readQuery (cs : List Char) : Except RequestError String :=
  let q := cs.takeWhile (· != '#')
  if q.all isQueryChar then .ok (String.ofList q) else .error .invalidCharacter

/-- A path, which is a slash if it is empty, and a query. -/
def readPath (cs : List Char) : Except RequestError Uri :=
  let p := cs.takeWhile fun c => c != '?' && c != '#'
  let path := if p.isEmpty then "/" else String.ofList p
  if p.all isPathChar then
    match cs.drop p.length with
    | '?' :: r => (readQuery r).map fun q => ⟨path, some q⟩
    | _ => .ok ⟨path, none⟩
  else .error .invalidCharacter

/-- What was counted in an authority so far. -/
structure Marks where
  colons : Nat
  opened : Bool
  closed : Bool
  percent : Bool
  afterAt : Bool

/-- Goes through an authority up to a slash, a question mark or a number sign and gives what
follows. -/
def scanAuthority (m : Marks) : List Char → Except RequestError (Marks × List Char)
  | [] => .ok (m, [])
  | c :: r =>
    if c = '/' ∨ c = '?' ∨ c = '#' then .ok (m, c :: r)
    else if c = ':' then
      if 8 ≤ m.colons then .error .invalidAuthority
      else scanAuthority { m with colons := m.colons + 1, afterAt := false } r
    else if c = '[' then
      if m.percent ∨ m.opened then .error .invalidAuthority
      else scanAuthority { m with opened := true, afterAt := false } r
    else if c = ']' then
      if !m.opened ∨ m.closed then .error .invalidAuthority
      else scanAuthority
        { m with closed := true, colons := 0, percent := false, afterAt := false } r
    else if c = '@' then
      scanAuthority { m with colons := 0, percent := false, afterAt := true } r
    else if c = '%' then scanAuthority { m with percent := true, afterAt := false } r
    else if isAuthorityChar c then scanAuthority { m with afterAt := false } r
    else .error .invalidCharacter

/-- What follows the authority at the front of a text. An authority may not end in an at sign,
has at most one colon outside brackets, and no percent sign behind its user. -/
def skipAuthority (cs : List Char) : Except RequestError (List Char) :=
  match scanAuthority ⟨0, false, false, false, false⟩ cs with
  | .error e => .error e
  | .ok (m, rest) =>
    if m.opened != m.closed ∨ 1 < m.colons ∨ m.afterAt ∨ m.percent then
      .error .invalidAuthority
    else .ok rest

/-- What follows the scheme at the front of a text, if there is one. A text of three characters
is too short for one. -/
def skipScheme? (cs : List Char) : Except RequestError (Option (List Char)) :=
  let known (s : String) : Bool := Ascii.sameIgnoringCase (cs.take s.length) s.toList
  if known "http://" then .ok (some (cs.drop 7))
  else if known "https://" then .ok (some (cs.drop 8))
  else if cs.length ≤ 3 then .ok none
  else
    let scheme := cs.takeWhile isSchemeChar
    match cs.drop scheme.length with
    | ':' :: '/' :: '/' :: r =>
      if 64 < scheme.length then .error .schemeTooLong else .ok (some r)
    | _ => .ok none

/-- The target that a text writes. -/
def parse (s : String) : Except RequestError Uri :=
  let cs := s.toList
  if 65534 < Utf8.size cs then .error .targetTooLong
  else
    match cs with
    | [] => .error .emptyTarget
    | ['*'] => .ok ⟨"*", none⟩
    | '/' :: _ => readPath cs
    | [c] =>
      match skipAuthority [c] with
      | .error e => .error e
      | .ok rest => if rest.isEmpty then .ok ⟨"", none⟩ else .error .invalidCharacter
    | _ =>
      match skipScheme? cs with
      | .error e => .error e
      | .ok none =>
        match skipAuthority cs with
        | .error e => .error e
        | .ok rest => if rest.isEmpty then .ok ⟨"", none⟩ else .error .invalidFormat
      | .ok (some []) => .error .emptyTarget
      | .ok (some r) =>
        match skipAuthority r with
        | .error e => .error e
        | .ok rest => if rest.length = r.length then .error .invalidFormat else readPath rest

end Uri

end AccessGateway
