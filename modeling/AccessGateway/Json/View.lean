import AccessGateway.Entries
import AccessGateway.Json.Basic

/-
  Looking into a JSON value that is known to have a certain shape. What is missing or has another
  shape is taken for an empty value.
-/

namespace AccessGateway.Json

/-- The member of a name. -/
def member? (k : String) : Json → Option Json
  | .object ms => Entries.get? k ms
  | _ => none

/-- The member of a name, unless it is null. -/
def given? (k : String) (j : Json) : Option Json :=
  match j.member? k with
  | some .null => none
  | x => x

/-- The member of a name, or null. -/
def get (k : String) (j : Json) : Json := (j.member? k).getD .null

/-- A text, if it is one. -/
def toText? : Json → Option String
  | .text s => some s
  | _ => none

/-- A text. -/
def toText (j : Json) : String := j.toText?.getD ""

/-- The items of a list. -/
def toItems : Json → List Json
  | .list xs => xs
  | _ => []

/-- The texts of a list. -/
def toTexts (j : Json) : List String := j.toItems.map toText

/-- The members of an object. -/
def toMembers : Json → List (String × Json)
  | .object ms => ms
  | _ => []

/-- An integer. -/
def toInt : Json → Int
  | .number (.integer n) => n
  | _ => 0

/-- A natural number. -/
def toNat (j : Json) : Nat := j.toInt.toNat

/-- A truth value. -/
def toBool : Json → Bool
  | .bool b => b
  | _ => false

mutual

/-- The texts inside a value. -/
def texts : Json → List String
  | .text s => [s]
  | .list items => textsOfItems items
  | .object members => textsOfMembers members
  | _ => []

/-- The texts inside the items of a list. -/
def textsOfItems : List Json → List String
  | [] => []
  | v :: r => texts v ++ textsOfItems r

/-- The texts inside the members of an object, apart from their names. -/
def textsOfMembers : List (String × Json) → List String
  | [] => []
  | (_, v) :: r => texts v ++ textsOfMembers r

end

end AccessGateway.Json
