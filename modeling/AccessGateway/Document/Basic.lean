import AccessGateway.Json.Basic
import AccessGateway.Text.Quoted

/-
  Documents: data as some format writes it, before a type is asked of it. A document keeps what
  a finished JSON value no longer shows: repeated names, the place where a text breaks off, and
  scalars that have a form but no value (`text none`, `number none`) or that JSON does not have
  (`foreign`). A typed reader goes through a document in the order in which it is written and
  stops at the first `Fault`.
-/

namespace AccessGateway

/-- Data as written. -/
inductive Document where
  | null
  | bool (b : Bool)
  /-- A number, or a number beyond the greatest one. -/
  | number (n : Option Number)
  /-- A text, or one with half of a surrogate pair. -/
  | text (s : Option String)
  /-- An unquoted scalar: its characters, and the value it has when no type is asked of it. -/
  | plain (written : String) (meaning : Json)
  /-- A scalar that JSON does not have: how a message names it, and what stands for it where any
  value is read, if anything does. -/
  | foreign (found : String) (value : Option Json)
  /-- Items; the text may break off after them. -/
  | list (items : List Document) (closed : Bool)
  /-- Members in order; the text may break off after them. -/
  | object (members : List (Option String × Document)) (closed : Bool)
  /-- A list or an object nested deeper than the format allows, and whether it is complete. -/
  | deep (complete : Bool)
  /-- Text that is no value. -/
  | broken
deriving Inhabited

/-- The formats a document comes in. They differ in whether a list may stand for a record, its
items being the fields in order, and in what becomes of items beyond the last field: in a value
in memory they have the wrong number, in JSON text they are malformed, and in layered settings
they are passed over. In YAML a list never stands for a record. -/
inductive Dialect where
  | value
  | jsonText
  | layered
  | yaml
deriving DecidableEq

/-- What a document does that its type does not allow. -/
inductive Mismatch where
  | invalidType (found expected : String)
  | invalidValue (found expected : String)
  | unknownField (name : String) (expected : List String)
  | missingField (name : String)
  | duplicateField (name : String)
  | unknownVariant (name : String) (expected : List String)
  | invalidLength (found : Nat) (expected : String)
  /-- A number that no value stands for. -/
  | outOfRange
deriving DecidableEq

/-- Why a document was not read. -/
inductive Fault where
  /-- The text is not well-formed where it was looked at. -/
  | malformed
  /-- The value under a path of names has the wrong shape. -/
  | mismatched (path : List String) (mismatch : Mismatch)
deriving DecidableEq

namespace Mismatch

/-- A name as a message shows it. -/
def ticked (s : String) : String := "`" ++ s ++ "`"

/-- The names that would have been right. -/
def alternatives : List String → String
  | [] => "there are no fields"
  | [a] => "expected " ++ ticked a
  | [a, b] => "expected " ++ ticked a ++ " or " ++ ticked b
  | names => "expected one of " ++ ", ".intercalate (names.map ticked)

/-- The text of a mismatch. -/
def message : Mismatch → String
  | invalidType found expected => "invalid type: " ++ found ++ ", expected " ++ expected
  | invalidValue found expected => "invalid value: " ++ found ++ ", expected " ++ expected
  | unknownField name expected => "unknown field " ++ ticked name ++ ", " ++ alternatives expected
  | missingField name => "missing field " ++ ticked name
  | duplicateField name => "duplicate field " ++ ticked name
  | unknownVariant name expected =>
    "unknown variant " ++ ticked name ++ ", " ++ alternatives expected
  | invalidLength found expected =>
    "invalid length " ++ toString found ++ ", expected " ++ expected
  | outOfRange => "number out of range"

end Mismatch

namespace Fault

/-- The text of a fault. -/
def message : Fault → String
  | malformed => "malformed document"
  | mismatched _ m => m.message

/-- The fault seen from one level further out. -/
def under (name : String) : Fault → Fault
  | malformed => malformed
  | mismatched path m => mismatched (name :: path) m

end Fault

/-- How a message names a number. -/
def Number.describe : Number → String
  | .integer n => "integer " ++ Mismatch.ticked (toString n)
  | .real x => "floating point " ++ Mismatch.ticked x.render

/-- How a message names a JSON value. -/
def Json.describe : Json → String
  | .null => "null"
  | .bool b => "boolean " ++ Mismatch.ticked (if b then "true" else "false")
  | .number n => n.describe
  | .text s => "string " ++ Quoted.text s
  | .list _ => "sequence"
  | .object _ => "map"

namespace Document

mutual

/-- The document of a JSON value. -/
def ofJson : Json → Document
  | .null => .null
  | .bool b => .bool b
  | .number n => .number (some n)
  | .text s => .text (some s)
  | .list items => .list (ofItems items) true
  | .object members => .object (ofMembers members) true

/-- The documents of a list of JSON values. -/
def ofItems : List Json → List Document
  | [] => []
  | v :: r => ofJson v :: ofItems r

/-- The members of a document of the members of a JSON object. -/
def ofMembers : List (String × Json) → List (Option String × Document)
  | [] => []
  | (k, v) :: r => (some k, ofJson v) :: ofMembers r

end

mutual

/-- The JSON value of a document, or the first part that has none. Of two members with one name
the later stays. -/
def toJson : Document → Except Fault Json
  | .null => .ok .null
  | .bool b => .ok (.bool b)
  | .number (some n) => .ok (.number n)
  | .number none => .error .malformed
  | .text (some s) => .ok (.text s)
  | .text none => .error .malformed
  | .plain _ meaning => .ok meaning
  | .foreign _ (some v) => .ok v
  | .foreign _ none => .error (.mismatched [] .outOfRange)
  | .list items closed => do
    let vs ← itemsToJson 0 items
    if closed then .ok (.list vs) else .error .malformed
  | .object members closed => do
    let ms ← membersToJson members
    if closed then .ok (Json.ofMembers ms) else .error .malformed
  | .deep _ => .error .malformed
  | .broken => .error .malformed

/-- The JSON values of a list of documents, the first under the given number. -/
def itemsToJson : Nat → List Document → Except Fault (List Json)
  | _, [] => .ok []
  | i, d :: r => do
    let v ← (toJson d).mapError (Fault.under (toString i))
    let vs ← itemsToJson (i + 1) r
    .ok (v :: vs)

/-- The JSON values of the members of a document. -/
def membersToJson : List (Option String × Document) → Except Fault (List (String × Json))
  | [] => .ok []
  | (none, _) :: _ => .error .malformed
  | (some k, d) :: r => do
    let v ← (toJson d).mapError (Fault.under k)
    let vs ← membersToJson r
    .ok ((k, v) :: vs)

end

mutual

/-- Whether a document is well-formed to its end. This is all that is asked of a part that
nobody reads. -/
def complete : Document → Bool
  | .list items closed => completeItems items && closed
  | .object members closed => completeMembers members && closed
  | .deep whole => whole
  | .broken => false
  | _ => true

/-- Whether every item is well-formed to its end. -/
def completeItems : List Document → Bool
  | [] => true
  | d :: r => complete d && completeItems r

/-- Whether every member is well-formed to its end. -/
def completeMembers : List (Option String × Document) → Bool
  | [] => true
  | (_, d) :: r => complete d && completeMembers r

end

/-- How a message names what was found; a scalar without a value has no name. -/
def describe? : Document → Option String
  | .null => some Json.null.describe
  | .bool b => some (Json.bool b).describe
  | .number n => n.map Number.describe
  | .text s => s.map fun t => (Json.text t).describe
  | .plain _ meaning => some meaning.describe
  | .foreign found _ => some found
  | .list _ _ => some "sequence"
  | .object _ _ => some "map"
  | .deep _ => some "sequence"
  | .broken => none

/-- The fault of a document where something else was expected. -/
def unexpected (d : Document) (expected : String) : Fault :=
  match d.describe? with
  | some found => .mismatched [] (.invalidType found expected)
  | none => .malformed

end Document

end AccessGateway
