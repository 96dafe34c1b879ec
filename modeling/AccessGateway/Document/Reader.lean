import AccessGateway.Document.Basic

/-
  Typed readers. A reader takes a document to a value or to the first fault in the order of
  writing. Records are described by their fields: `Layout.read` takes the members as they come,
  then asks for the fields that are missing, in the order of the layout.
-/

namespace AccessGateway

/-- A reader of one type. -/
abbrev Reader (α : Type) := Document → Except Fault α

namespace Reader

variable {α σ : Type}

/-- Reads a text, which a message calls by the given name. -/
def textAs (expected : String) : Reader String
  | .text (some s) => .ok s
  | .plain written meaning =>
    match meaning with
    | .null => .error (Document.unexpected (.plain written meaning) expected)
    | _ => .ok written
  | .foreign _ (some (.text s)) => .ok s
  | d => .error (d.unexpected expected)

/-- Reads a text. -/
def text : Reader String := textAs "a string"

/-- Reads the path of a file. -/
def path : Reader String := textAs "path string"

/-- Reads any value. -/
def any : Reader Json := Document.toJson

/-- Reads a natural number below a bound. -/
def natBelow (bound : Nat) (expected : String) : Reader Nat
  | .number (some (.integer n)) =>
    if 0 ≤ n ∧ n < bound then .ok n.toNat
    else .error (.mismatched [] (.invalidValue (Number.integer n).describe expected))
  | d => .error (d.unexpected expected)

/-- Reads null as nothing and anything else as something. -/
def nullable (inner : Reader α) : Reader (Option α)
  | .null => .ok none
  | .plain written meaning =>
    match meaning with
    | .null => .ok none
    | _ => (inner (.plain written meaning)).map some
  | d => (inner d).map some

/-- Reads items in order, the first under the given number. -/
def items (inner : Reader α) : Nat → List Document → Except Fault (List α)
  | _, [] => .ok []
  | i, d :: r =>
    match inner d with
    | .error f => .error (f.under (toString i))
    | .ok a => (items inner (i + 1) r).map (a :: ·)

/-- Reads a list. -/
def list (inner : Reader α) : Reader (List α)
  | .list ds closed =>
    match items inner 0 ds with
    | .error f => .error f
    | .ok as => if closed then .ok as else .error .malformed
  | .plain written meaning =>
    match meaning with
    | .null => .ok []
    | _ => .error (Document.unexpected (.plain written meaning) "a sequence")
  | d => .error (d.unexpected "a sequence")

/-- Reads members into a table; of two members with one name the later stays. -/
def entries (inner : Reader α) : List (Option String × Document) → Table α →
    Except Fault (Table α)
  | [], t => .ok t
  | (none, _) :: _, _ => .error .malformed
  | (some k, d) :: r, t =>
    match inner d with
    | .error f => .error (f.under k)
    | .ok a => entries inner r (t.insert k a)

/-- Reads a table. -/
def table (inner : Reader α) : Reader (Table α)
  | .object ms closed =>
    match entries inner ms Table.empty with
    | .error f => .error f
    | .ok t => if closed then .ok t else .error .malformed
  | .plain written meaning =>
    match meaning with
    | .null => .ok Table.empty
    | _ => .error (Document.unexpected (.plain written meaning) "a map")
  | d => .error (d.unexpected "a map")

/-- Reads the variant that a member names; null stands under the name. -/
def member (variants : List (String × α)) (k : String) (d : Document) : Except Fault α :=
  match Entries.get? k variants with
  | none => .error (.mismatched [] (.unknownVariant k (Entries.names variants)))
  | some a =>
    match d with
    | .null => .ok a
    | d => .error (d.unexpected "unit")

/-- Reads the name of one of several variants. An object with the name as its only member stands
for the name. In layered settings the first member counts, and its name belongs to the path of
what is wrong with it. -/
def variant (dialect : Dialect) (variants : List (String × α)) : Reader α
  | .text (some s) =>
    match Entries.get? s variants with
    | some a => .ok a
    | none => .error (.mismatched [] (.unknownVariant s (Entries.names variants)))
  | .object [] whole =>
    if dialect = .layered then .error (Document.unexpected (.object [] whole) "string or map")
    else .error (.mismatched [] (.invalidValue "map" "map with a single key"))
  | .object ((some k, d) :: r) whole =>
    if dialect = .layered then (member variants k d).mapError (Fault.under k)
    else if r.isEmpty ∧ whole then member variants k d
    else .error (.mismatched [] (.invalidValue "map" "map with a single key"))
  | d => .error (d.unexpected "string or map")

end Reader

/-- A field of a record: the names it goes by, whether it must be there, and how its value
changes the record read so far. -/
structure Field (σ : Type) where
  name : String
  aliases : List String
  required : Bool
  read : Document → Except Fault (σ → σ)

namespace Field

variable {σ α : Type}

/-- A field that may be missing. -/
def optional (name : String) (reader : Reader α) (set : α → σ → σ) : Field σ :=
  ⟨name, [], false, fun d => (reader d).map set⟩

/-- A field that must be there. -/
def needed (name : String) (reader : Reader α) (set : α → σ → σ) : Field σ :=
  ⟨name, [], true, fun d => (reader d).map set⟩

/-- The field under one more name. -/
def orNamed (f : Field σ) (other : String) : Field σ := { f with aliases := other :: f.aliases }

/-- Whether the field goes by a name. -/
def answersTo (f : Field σ) (k : String) : Bool := f.name == k || f.aliases.contains k

end Field

/-- The form of a record: what messages call it, its fields in order, whether other names are
refused, and the record before any field is read. -/
structure Layout (σ : Type) where
  typeName : String
  fields : List (Field σ)
  closed : Bool
  blank : σ

namespace Layout

variable {σ : Type}

/-- Reads members in order. A member of a field that was read before is refused by its name
alone; a value that no field takes is only asked to be well-formed. -/
def members (l : Layout σ) : List (Option String × Document) → List String → σ →
    Except Fault (List String × σ)
  | [], seen, acc => .ok (seen, acc)
  | (none, _) :: _, _, _ => .error .malformed
  | (some k, d) :: r, seen, acc =>
    match l.fields.find? (·.answersTo k) with
    | none =>
      if l.closed then .error (.mismatched [k] (.unknownField k (l.fields.map (·.name))))
      else if d.complete then members l r seen acc
      else .error .malformed
    | some f =>
      if seen.contains f.name then .error (.mismatched [] (.duplicateField f.name))
      else
        match f.read d with
        | .error e => .error (e.under k)
        | .ok set => members l r (f.name :: seen) (set acc)

/-- The first field that must be there and was not read. -/
def missing? (l : Layout σ) (seen : List String) : Option (Field σ) :=
  l.fields.find? fun f => f.required && !seen.contains f.name

/-- Reads an object as a record. -/
def object (l : Layout σ) (ms : List (Option String × Document)) (whole : Bool) :
    Except Fault σ :=
  match members l ms [] l.blank with
  | .error f => .error f
  | .ok (seen, acc) =>
    if whole then
      match l.missing? seen with
      | some f => .error (.mismatched [] (.missingField f.name))
      | none => .ok acc
    else .error .malformed

/-- What a message says a record is as a list. -/
def listed (l : Layout σ) : String :=
  "struct " ++ l.typeName ++ " with " ++ toString l.fields.length ++
    (if l.fields.length = 1 then " element" else " elements")

/-- Reads items as the fields in order. The items left over come with the record. -/
def positions (l : Layout σ) (whole : Bool) : List (Field σ) → Nat → List Document → σ →
    Except Fault (List Document × σ)
  | [], _, rest, acc => .ok (rest, acc)
  | f :: fs, i, [], acc =>
    if !whole then .error .malformed
    else if f.required then .error (.mismatched [] (.invalidLength i l.listed))
    else positions l whole fs i [] acc
  | f :: fs, i, d :: rest, acc =>
    match f.read d with
    | .error e => .error (e.under (toString i))
    | .ok set => positions l whole fs (i + 1) rest (set acc)

/-- Reads a list as a record. -/
def list (l : Layout σ) (dialect : Dialect) (ds : List Document) (whole : Bool) :
    Except Fault σ :=
  match positions l whole l.fields 0 ds l.blank with
  | .error f => .error f
  | .ok (rest, acc) =>
    if !whole then .error .malformed
    else if rest.isEmpty then .ok acc
    else
      match dialect with
      | .value => .error (.mismatched [] (.invalidLength ds.length "fewer elements in array"))
      | .layered => .ok acc
      | _ => .error .malformed

/-- Reads a record. -/
def read (l : Layout σ) (dialect : Dialect) : Reader σ
  | .object ms whole => object l ms whole
  | .list ds whole =>
    if dialect = .yaml then .error (Document.unexpected (.list ds whole) ("struct " ++ l.typeName))
    else list l dialect ds whole
  | .plain written meaning =>
    match meaning with
    | .null => object l [] true
    | _ => .error (Document.unexpected (.plain written meaning) ("struct " ++ l.typeName))
  | d => .error (d.unexpected ("struct " ++ l.typeName))

end Layout

end AccessGateway
