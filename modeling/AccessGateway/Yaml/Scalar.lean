import AccessGateway.Decimal
import AccessGateway.Entries
import AccessGateway.Json.Basic
import AccessGateway.Text.Blank

/-
  The value of an unquoted YAML scalar that no type is asked of. There are two ways to take it.
  The strict one knows a few words in three spellings each, integers of up to 128 bits, of which a
  decimal one has no needless zero, and finite decimal numbers. The lenient one knows more words
  for truth values, takes every word in any letter case, passes over underscores between the
  digits of an integer, and takes every decimal number, a word or one that is too large too. What
  is nothing of this is a text.
-/

namespace AccessGateway.Yaml

/-- The value of an unquoted scalar. -/
inductive Scalar where
  | null
  | bool (b : Bool)
  | integer (n : Int)
  | decimal (x : Decimal)
  | text (s : String)

/-- Whether a text starts with a sign, and what is left behind it. -/
def signed (cs : List Char) : Option Bool × List Char :=
  match cs with
  | '-' :: r => (some true, r)
  | '+' :: r => (some false, r)
  | r => (none, r)

/-- The value of digits in a base. -/
def digitsValue? (base : Nat) (cs : List Char) : Option Nat :=
  if cs.isEmpty then none
  else
    cs.foldl (fun n c => do
      let n ← n
      let d ← Ascii.hexValue? c
      if d < base then some (base * n + d) else none) (some 0)

/-- The base of an integer by the letter behind a zero. -/
def bases : List (Char × Nat) := [('x', 16), ('o', 8), ('b', 2)]

/-- The base of an integer without a sign, and its digits. -/
def baseAndDigits (cs : List Char) : Nat × List Char :=
  match cs with
  | '0' :: c :: r =>
    match bases.find? fun b => b.1 = c with
    | some b => (b.2, r)
    | none => (10, cs)
  | _ => (10, cs)

/-- A number below zero, if the flag says so. -/
def negate (negative : Bool) (n : Nat) : Int := if negative then -(n : Int) else n

namespace Scalar

/-- Whether a text is a number with a needless zero in front. -/
def needlessZero (cs : List Char) : Bool :=
  let ds := (signed cs).2
  ds.head? = some '0' && 1 < ds.length && ds.all Char.isDigit

/-- The words for null in the strict way. -/
def strictNulls : List String := ["", "~", "null", "Null", "NULL"]

/-- The words for truth values in the strict way. -/
def strictTruths : List (String × Bool) := [
  ("true", true), ("True", true), ("TRUE", true),
  ("false", false), ("False", false), ("FALSE", false)]

/-- The words for numbers without digits in the strict way. -/
def strictDecimals : List (String × Decimal) := [
  (".inf", .infinite false), (".Inf", .infinite false), (".INF", .infinite false),
  ("+.inf", .infinite false), ("+.Inf", .infinite false), ("+.INF", .infinite false),
  ("-.inf", .infinite true), ("-.Inf", .infinite true), ("-.INF", .infinite true),
  (".nan", .indefinite), (".NaN", .indefinite), (".NAN", .indefinite)]

/-- The least integer of 128 bits. -/
def least : Int := -170141183460469231731687303715884105728

/-- What the integers of 128 bits without a sign lie below. -/
def bound : Int := 340282366920938463463374607431768211456

/-- The integer that a text is in the strict way. -/
def strictInteger? (cs : List Char) : Option Int :=
  let s := signed cs
  let b := baseAndDigits s.2
  if b.1 = 10 ∧ needlessZero cs then none
  else
    (digitsValue? b.1 b.2).bind fun n =>
      let v := negate (s.1 = some true) n
      if least ≤ v ∧ v < bound then some v else none

/-- The decimal number that a text is in the strict way. -/
def strictDecimal? (s : String) : Option Decimal :=
  match Entries.get? s strictDecimals with
  | some x => some x
  | none =>
    if needlessZero s.toList then none
    else
      match Decimal.read? s.toList with
      | some (.finite x) => some (.finite x)
      | _ => none

/-- The value of an unquoted scalar in the strict way. -/
def strict (s : String) : Scalar :=
  if strictNulls.contains s then .null
  else
    match Entries.get? s strictTruths, strictInteger? s.toList, strictDecimal? s with
    | some b, _, _ => .bool b
    | none, some n, _ => .integer n
    | none, none, some x => .decimal x
    | none, none, none => .text s

/-- The words for null in the lenient way, in small letters. -/
def lenientNulls : List String := ["", "~", "null"]

/-- The words for truth values in the lenient way, in small letters. -/
def lenientTruths : List (String × Bool) := [
  ("true", true), ("yes", true), ("y", true), ("on", true),
  ("false", false), ("no", false), ("n", false), ("off", false)]

/-- The words for numbers without digits in the lenient way, in small letters. -/
def lenientDecimals : List (String × Decimal) := [
  (".inf", .infinite false), ("+.inf", .infinite false), ("-.inf", .infinite true),
  (".nan", .indefinite), ("+.nan", .indefinite), ("-.nan", .indefinite)]

/-- Whether an unquoted scalar is null in the lenient way. -/
def isLenientNull (s : String) : Bool := lenientNulls.contains (Ascii.lower s)

/-- The integer that a text is in the lenient way, if it has at most 64 bits. -/
def lenientInteger? (cs : List Char) : Option Int :=
  let s := signed cs
  let b := baseAndDigits (s.2.take 2 |>.map Char.toLower |>.append (s.2.drop 2))
  (digitsValue? b.1 (b.2.filter (· != '_'))).bind fun n =>
    let v := negate (s.1 = some true) n
    if Number.fits v then some v else none

/-- The value of an unquoted scalar in the lenient way. -/
def lenient (s : String) : Scalar :=
  if isLenientNull s then .null
  else
    let core := trim s.toList
    let word := Ascii.lower (String.ofList core)
    match Entries.get? word lenientTruths, lenientInteger? core,
      Entries.get? word lenientDecimals, Decimal.read? core with
    | some b, _, _, _ => .bool b
    | none, some n, _, _ => .integer n
    | none, none, some x, _ => .decimal x
    | none, none, none, some x => .decimal x
    | none, none, none, none => .text s

/-- The JSON value of a scalar. A number without digits is its word. -/
def toJson : Scalar → Json
  | .null => .null
  | .bool b => .bool b
  | .integer n => .number (.integer n)
  | .decimal (.finite x) => .number (.real x)
  | .decimal (.infinite false) => .text ".inf"
  | .decimal (.infinite true) => .text "-.inf"
  | .decimal .indefinite => .text ".nan"
  | .text s => .text s

end Scalar

end AccessGateway.Yaml
