import AccessGateway.Decimal
import AccessGateway.Document.Basic
import AccessGateway.Entries

/-
  The values of settings. They are those of JSON, and beside them single characters, integers of
  up to 128 bits and numbers that no digits write. Settings lie in layers: `overlay` joins objects
  member by member, and everywhere else what lies above hides what lies below.
-/

namespace AccessGateway

/-- The value of a setting. -/
inductive Setting where
  | null
  | bool (b : Bool)
  | integer (n : Int)
  | real (x : Binary64)
  /-- A number that is infinite or not a number. -/
  | boundless
  | character (c : Char)
  | text (s : String)
  | list (items : List Setting)
  | object (members : List (String × Setting))
deriving Inhabited

namespace Setting

/-- The object of a list of members; of two members with one name the later stays. -/
def ofMembers (ms : List (String × Setting)) : Setting := .object (Table.ofList ms).entries

/-- What a decimal number is as a setting. -/
def ofDecimal : Decimal → Setting
  | .finite x => .real x
  | .infinite _ => .boundless
  | .indefinite => .boundless

mutual

/-- The document of a setting. An integer that does not fit has no JSON value, a number without
digits is null, and a character is a text. -/
def toDocument : Setting → Document
  | .null => .null
  | .bool b => .bool b
  | .integer n =>
    if Number.fits n then .number (some (.integer n))
    else .foreign (Number.integer n).describe none
  | .real x => .number (some (.real x))
  | .boundless => .foreign "floating point" (some .null)
  | .character c => .foreign "character" (some (.text (String.singleton c)))
  | .text s => .text (some s)
  | .list items => .list (itemDocuments items) true
  | .object members => .object (memberDocuments members) true

/-- The documents of a list of settings. -/
def itemDocuments : List Setting → List Document
  | [] => []
  | v :: r => toDocument v :: itemDocuments r

/-- The members of the document of an object. -/
def memberDocuments : List (String × Setting) → List (Option String × Document)
  | [] => []
  | (k, v) :: r => (some k, toDocument v) :: memberDocuments r

end

mutual

/-- The first setting with the second laid over it. -/
def overlay (base : Setting) : Setting → Setting
  | .object above =>
    match base with
    | .object below => .object (overlayMembers below above)
    | _ => .object above
  | v => v

/-- The members of the first list with those of the second laid over them. -/
def overlayMembers (below : List (String × Setting)) :
    List (String × Setting) → List (String × Setting)
  | [] => below
  | (k, v) :: r =>
    let joined :=
      match Entries.get? k below with
      | some old => overlay old v
      | none => v
    overlayMembers (Table.insertEntry k joined below) r

end

/-- A setting under names, the outermost first. -/
def nested : List String → Setting → Setting
  | [], v => v
  | k :: r, v => .object [(k, nested r v)]

end Setting

end AccessGateway
