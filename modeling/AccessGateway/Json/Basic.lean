import AccessGateway.Binary64
import AccessGateway.Table
import AccessGateway.Text.Ascii

/-
  JSON values. Integers are kept apart from numbers written with a point or an exponent. The
  members of an object that is built with `Json.ofMembers` stand in ascending order of their
  names, each name once; `compact` writes a value without blanks.
-/

namespace AccessGateway

/-- A number: an integer of at most 64 bits, or a binary64 number. -/
inductive Number where
  | integer (n : Int)
  | real (x : Binary64)
deriving DecidableEq, Inhabited

/-- Whether an integer has at most 64 bits, with or without a sign. -/
def Number.fits (n : Int) : Bool := -9223372036854775808 ≤ n && n < 18446744073709551616

/-- The text of a number. -/
def Number.render : Number → String
  | .integer n => toString n
  | .real x => x.render

/-- A JSON value. -/
inductive Json where
  | null
  | bool (b : Bool)
  | number (n : Number)
  | text (s : String)
  | list (items : List Json)
  | object (members : List (String × Json))
deriving Inhabited

namespace Json

/-- The object of a list of members; of two members with one name the later stays. -/
def ofMembers (ms : List (String × Json)) : Json := .object (Table.ofList ms).entries

/-- The object of a table. -/
def ofTable (t : Table Json) : Json := .object t.entries

/-- The list of a list of texts. -/
def ofTexts (xs : List String) : Json := .list (xs.map .text)

/-- A text, or null. -/
def ofText? : Option String → Json
  | none => .null
  | some s => .text s

/-- A natural number. -/
def ofNat (n : Nat) : Json := .number (.integer n)

/-- How a character is written inside the quotes of a JSON text. -/
def escape (c : Char) : List Char :=
  if c.toNat = 0x22 then ['\\', c]
  else if c = '\\' then ['\\', '\\']
  else if c = '\n' then ['\\', 'n']
  else if c = '\r' then ['\\', 'r']
  else if c = '\t' then ['\\', 't']
  else if c.toNat = 8 then ['\\', 'b']
  else if c.toNat = 12 then ['\\', 'f']
  else if c.toNat < 0x20 then
    ['\\', 'u', '0', '0', Ascii.hexDigit (c.toNat / 16), Ascii.hexDigit (c.toNat % 16)]
  else [c]

/-- The text in quotes. -/
def quote (s : String) : String := "\"" ++ String.ofList (s.toList.flatMap escape) ++ "\""

mutual

/-- The value written without blanks. -/
def compact : Json → String
  | .null => "null"
  | .bool b => if b then "true" else "false"
  | .number n => n.render
  | .text s => quote s
  | .list items => "[" ++ compactItems items ++ "]"
  | .object members => "\x7b" ++ compactMembers members ++ "\x7d"

/-- The items with commas between them. -/
def compactItems : List Json → String
  | [] => ""
  | [v] => compact v
  | v :: r => compact v ++ "," ++ compactItems r

/-- The members with commas between them. -/
def compactMembers : List (String × Json) → String
  | [] => ""
  | [(k, v)] => quote k ++ ":" ++ compact v
  | (k, v) :: r => quote k ++ ":" ++ compact v ++ "," ++ compactMembers r

end

end Json

end AccessGateway
