import AccessGateway.Settings.Value
import AccessGateway.Text.Blank
import AccessGateway.Yaml.Scalar

/-
  The value of a text that comes from the environment. `true` and `false`, numbers, quoted texts,
  single characters in quotes, lists in brackets and objects in braces are what they look like; a
  text of any other form stands for itself.
-/

namespace AccessGateway.Literal

/-- A blank between the parts of a value. -/
def isSpace (c : Char) : Bool :=
  c == ' ' || c == '\t' || c == '\n' || c == '\r' || c.toNat == 0x0C

/-- The text from its first character that is no blank. -/
def skip (cs : List Char) : List Char := cs.dropWhile isSpace

/-- A character of an unquoted value. -/
def isBare (c : Char) : Bool := !(",\x7b\x7d[]".toList.contains c)

/-- A character of an unquoted name. -/
def isNameChar (c : Char) : Bool := c.isAlphanum || c == '_' || c == '-'

/-- The character that a letter stands for behind a backslash. -/
def escaped? (c : Char) : Option Char :=
  if c.toNat = 0x22 ∨ c = '\\' then some c
  else if c = 'b' then some (Char.ofNat 8)
  else if c = 'f' then some (Char.ofNat 12)
  else if c = 'n' then some '\n'
  else if c = 'r' then some '\r'
  else if c = 't' then some '\t'
  else none

/-- The character whose number hexadecimal digits write. -/
def numbered? (digits : List Char) : Option Char :=
  (Yaml.digitsValue? 16 digits).bind fun n =>
    if n.isValidChar then some (Char.ofNat n) else none

/-- The text behind an opening quote and what follows the closing one. The number bounds the
length. -/
def quoted : Nat → List Char → Option (List Char × List Char)
  | 0, _ => none
  | _, [] => none
  | n + 1, '\\' :: c :: r =>
    let size := if c = 'u' then 4 else if c = 'U' then 8 else 0
    if size = 0 then do
      let x ← escaped? c
      let p ← quoted n r
      some (x :: p.1, p.2)
    else if r.length < size then none
    else do
      let x ← numbered? (r.take size)
      let p ← quoted n (r.drop size)
      some (x :: p.1, p.2)
  | n + 1, c :: r =>
    if c.toNat = 0x22 then some ([], r)
    else if c = '\\' ∨ (c.toNat < 0x20 ∧ c ≠ '\t') ∨ c.toNat = 0x7F then none
    else (quoted n r).map fun p => (c :: p.1, p.2)

/-- The integer that a text writes, if it fits into 64 bits with or without a sign. -/
def integer? (cs : List Char) : Option Int :=
  let s := Yaml.signed cs
  (Yaml.digitsValue? 10 s.2).bind fun n =>
    let v := Yaml.negate (s.1 = some true) n
    if Number.fits v then some v else none

/-- The value of an unquoted text. Only a number with a point is a decimal one. -/
def bare (cs : List Char) : Setting :=
  match (if cs.contains '.' then Decimal.read? cs else none), integer? cs with
  | some x, _ => .ofDecimal x
  | none, some n => .integer n
  | none, none => .text (String.ofList cs)

/-- The rest of a text behind a word. -/
def afterWord? (w : String) (cs : List Char) : Option (List Char) :=
  if w.toList.isPrefixOf cs then some (cs.drop w.length) else none

/-- The name of a member and what follows it. -/
def memberName (cs : List Char) : Option (String × List Char) :=
  match cs with
  | [] => none
  | c :: r =>
    if c.toNat = 0x22 then (quoted (r.length + 1) r).map fun p => (String.ofList p.1, p.2)
    else
      let name := cs.takeWhile isNameChar
      if name.isEmpty then none else some (String.ofList name, cs.drop name.length)

mutual

/-- The value at the front of a text, between blanks, and what follows it. The number bounds the
nesting. -/
def value : Nat → List Char → Option (Setting × List Char)
  | 0, _ => none
  | n + 1, cs => (unspaced n (skip cs)).map fun p => (p.1, skip p.2)

/-- The value at the very front of a text and what follows it. -/
def unspaced (n : Nat) (cs : List Char) : Option (Setting × List Char) :=
  match afterWord? "true" cs, afterWord? "false" cs, cs with
  | some r, _, _ => some (.bool true, r)
  | none, some r, _ => some (.bool false, r)
  | none, none, '[' :: r => (items n r).map fun p => (.list p.1, p.2)
  | none, none, '\x7b' :: r => (members n r).map fun p => (Setting.ofMembers p.1, p.2)
  | none, none, '\x22' :: r =>
    (quoted (r.length + 1) r).map fun p => (.text (String.ofList p.1), p.2)
  | none, none, '\x27' :: c :: '\x27' :: r => some (.character c, r)
  | none, none, '\x27' :: _ => none
  | none, none, cs =>
    let word := cs.takeWhile isBare
    some (bare (trim word), cs.drop word.length)

/-- The items of a list and what follows its closing bracket. -/
def items : Nat → List Char → Option (List Setting × List Char)
  | _, ']' :: r => some ([], r)
  | 0, _ => none
  | n + 1, cs => do
    let v ← value n cs
    match v.2 with
    | ',' :: r => (items n r).map fun p => (v.1 :: p.1, p.2)
    | ']' :: r => some ([v.1], r)
    | _ => none

/-- The members of an object and what follows its closing brace. -/
def members : Nat → List Char → Option (List (String × Setting) × List Char)
  | _, '\x7d' :: r => some ([], r)
  | 0, _ => none
  | n + 1, cs => do
    let k ← memberName (skip cs)
    match skip k.2 with
    | '=' :: r =>
      let v ← value n r
      match v.2 with
      | ',' :: r => (members n r).map fun p => ((k.1, v.1) :: p.1, p.2)
      | '\x7d' :: r => some ([(k.1, v.1)], r)
      | _ => none
    | _ => none

end

/-- The value of a text. -/
def read (s : String) : Setting :=
  match value (2 * s.length + 2) s.toList with
  | some (v, []) => v
  | _ => .text s

end AccessGateway.Literal
