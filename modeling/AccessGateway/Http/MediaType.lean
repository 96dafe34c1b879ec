import AccessGateway.Http.Message

/-
  Media types as a content type header writes them: `type/subtype+suffix; name=value`. Letter
  case does not count. The parameters are only asked to be well-formed.
-/

namespace AccessGateway

/-- A media type without its parameters. -/
structure MediaType where
  type : String
  subtype : String
  suffix : Option String
deriving DecidableEq, Inhabited, Repr

namespace MediaType

/-- How far the reading of parameters has come. -/
inductive ParameterState where
  /-- Before a name. -/
  | ready
  | name
  /-- Behind an equals sign. -/
  | assigned
  | value
  /-- Behind an opening quote. -/
  | opened
  | quoted
  /-- Behind a closing quote. -/
  | closed
deriving DecidableEq, Repr

/-- A character that may stand inside a quoted value. -/
def isQuotable (c : Char) : Bool := 0x20 ≤ c.toNat && c.toNat != 0x7F

/-- The state behind one more character, unless the character may not stand there. A quote right
behind an opening one does not close it. -/
def ParameterState.next (c : Char) : ParameterState → Option ParameterState
  | ready =>
    if c = ' ' then some ready else if Ascii.isTokenChar c then some name else none
  | name =>
    if c = '=' then some assigned else if Ascii.isTokenChar c then some name else none
  | assigned =>
    if c.toNat = 0x22 then some opened else if Ascii.isTokenChar c then some value else none
  | value =>
    if c = ';' then some ready else if Ascii.isTokenChar c then some value else none
  | opened => if isQuotable c then some quoted else none
  | quoted =>
    if c.toNat = 0x22 then some closed else if isQuotable c then some quoted else none
  | closed => if c = ';' then some ready else if c = ' ' then some closed else none

/-- Whether parameters may end in a state. -/
def ParameterState.isFinal : ParameterState → Bool
  | ready => true
  | assigned => true
  | value => true
  | closed => true
  | _ => false

/-- Whether a text is a list of parameters. -/
def areParameters (cs : List Char) : Bool :=
  match cs.foldl (fun s c => s.bind (·.next c)) (some ParameterState.ready) with
  | some s => s.isFinal
  | none => false

/-- The subtype and the suffix of a text with plus signs. The suffix is behind the last plus sign
that is not the first character. -/
def splitSuffix (cs : List Char) : List Char × Option (List Char) :=
  match splitOnce '+' cs.reverse with
  | some (after, before) =>
    if before.isEmpty then (cs, none) else (before.reverse, some after.reverse)
  | none => (cs, none)

/-- The media type that a text writes, in small letters. -/
def parse? (s : String) : Option MediaType :=
  match splitOnce '/' s.toList with
  | none => none
  | some (type, r) =>
    let sub := r.takeWhile Ascii.isTokenChar
    let sound : Bool :=
      match r.drop sub.length with
      | [] => true
      | c :: parameters => c == ';' && !sub.isEmpty && areParameters parameters
    if type.isEmpty || !type.all Ascii.isTokenChar || !sound then none
    else
      let lowered (cs : List Char) : String := String.ofList (cs.map Char.toLower)
      let p := splitSuffix sub
      some ⟨lowered type, lowered p.1, p.2.map lowered⟩

/-- Whether content of a type is JSON. -/
def isJson (t : MediaType) : Bool :=
  t.type == "application" && (t.subtype == "json" || t.suffix == some "json")

end MediaType

/-- Whether a request says that its body is JSON. -/
def Request.hasJsonBody (r : Request) : Bool :=
  match r.headers.first? "content-type" with
  | some v => isReadableValue v && ((MediaType.parse? v).any MediaType.isJson)
  | none => false

end AccessGateway
