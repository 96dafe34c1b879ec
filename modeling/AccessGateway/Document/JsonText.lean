import AccessGateway.Document.Reader

/-
  JSON text as documents. `scan` reads one value from the front of a text and always gives a
  document: where the text is no JSON the document breaks off. What has the form of a number or
  of a text but no value (a number beyond the greatest one, half of a surrogate pair) is kept
  without a value, and lists and objects inside 127 others are marked as too deep.
-/

namespace AccessGateway.JsonText

/-- A character that may stand between the parts of a JSON text. -/
def isSpace (c : Char) : Bool := c == ' ' || c == '\t' || c == '\n' || c == '\r'

/-- The text from its first character that is no space. -/
def skip (cs : List Char) : List Char := cs.dropWhile isSpace

/-- A part of a quoted text: a character, or a code unit written by its number. -/
inductive Piece where
  | char (c : Char)
  | unit (n : Nat)
deriving DecidableEq

/-- The characters of the pieces, unless half of a surrogate pair stands alone. -/
def join? : List Piece → Option (List Char)
  | [] => some []
  | .char c :: r => (join? r).map (c :: ·)
  | [.unit n] => if 0xD800 ≤ n ∧ n < 0xE000 then none else some [Char.ofNat n]
  | .unit n :: .char c :: r =>
    if 0xD800 ≤ n ∧ n < 0xE000 then none else (join? r).map fun cs => Char.ofNat n :: c :: cs
  | .unit n :: .unit m :: r =>
    if 0xDC00 ≤ n ∧ n < 0xE000 then none
    else if 0xD800 ≤ n ∧ n < 0xDC00 then
      if 0xDC00 ≤ m ∧ m < 0xE000 then
        (join? r).map (Char.ofNat (0x10000 + (n - 0xD800) * 0x400 + (m - 0xDC00)) :: ·)
      else none
    else (join? (.unit m :: r)).map (Char.ofNat n :: ·)

/-- The character that a letter stands for behind a backslash. -/
def escaped? (c : Char) : Option Char :=
  if c.toNat = 0x22 ∨ c = '\\' ∨ c = '/' then some c
  else if c = 'b' then some (Char.ofNat 8)
  else if c = 'f' then some (Char.ofNat 12)
  else if c = 'n' then some '\n'
  else if c = 'r' then some '\r'
  else if c = 't' then some '\t'
  else none

/-- The number that four hexadecimal digits write. -/
def unit? (a b c d : Char) : Option Nat := do
  let w ← Ascii.hexValue? a
  let x ← Ascii.hexValue? b
  let y ← Ascii.hexValue? c
  let z ← Ascii.hexValue? d
  some (((w * 16 + x) * 16 + y) * 16 + z)

/-- The pieces of a quoted text behind its opening quote, and what follows the closing one. -/
def quotedPieces : List Char → Option (List Piece × List Char)
  | [] => none
  | '\\' :: 'u' :: a :: b :: c :: d :: r => do
    let n ← unit? a b c d
    let q ← quotedPieces r
    some (.unit n :: q.1, q.2)
  | '\\' :: e :: r => do
    let c ← escaped? e
    let q ← quotedPieces r
    some (.char c :: q.1, q.2)
  | c :: r =>
    if c.toNat = 0x22 then some ([], r)
    else if c.toNat < 0x20 ∨ c = '\\' then none
    else (quotedPieces r).map fun q => (.char c :: q.1, q.2)

/-- The text behind an opening quote, if its pieces have one, and what follows it. -/
def quoted (cs : List Char) : Option (Option String × List Char) :=
  (quotedPieces cs).map fun q => ((join? q.1).map String.ofList, q.2)

/-- A number as written: its sign, the digits before and behind the point, and the exponent. -/
structure Numeral where
  negative : Bool
  whole : List Char
  fraction : Option (List Char)
  exponent : Option Int
deriving DecidableEq

/-- The digits at the front of a text, and the rest. -/
def digits (cs : List Char) : List Char × List Char :=
  (cs.takeWhile Char.isDigit, cs.dropWhile Char.isDigit)

/-- The exponent behind the letter that starts it. -/
def exponentDigits (cs : List Char) : Option (Int × List Char) :=
  let signed : Bool × List Char :=
    match cs with
    | '+' :: r => (false, r)
    | '-' :: r => (true, r)
    | _ => (false, cs)
  let d := digits signed.2
  if d.1.isEmpty then none
  else
    let n : Int := Ascii.decimalValue d.1
    some (if signed.1 then -n else n, d.2)

/-- The number at the front of a text. A number has no needless zero in front and a digit on
both sides of its point. -/
def numeral (cs : List Char) : Option (Numeral × List Char) := do
  let negative := cs.head? = some '-'
  let w := digits (if negative then cs.drop 1 else cs)
  if w.1.isEmpty ∨ (w.1.head? = some '0' ∧ 1 < w.1.length) then none
  else
    let f : Option (Option (List Char) × List Char) :=
      match w.2 with
      | '.' :: r =>
        let d := digits r
        if d.1.isEmpty then none else some (some d.1, d.2)
      | r => some (none, r)
    let f ← f
    match f.2 with
    | e :: r =>
      if e = 'e' ∨ e = 'E' then
        let x ← exponentDigits r
        some (⟨negative, w.1, f.1, some x.1⟩, x.2)
      else some (⟨negative, w.1, f.1, none⟩, f.2)
    | [] => some (⟨negative, w.1, f.1, none⟩, [])

/-- Appends digits to a number as long as it stays below 2^64. Also gives how many were left
over. -/
def absorb : Nat → List Char → Nat × Nat
  | n, [] => (n, 0)
  | n, c :: r =>
    let m := 10 * n + (c.toNat - '0'.toNat)
    if m < 18446744073709551616 then absorb m r else (n, r.length + 1)

/-- The number that is meant: an integer if it is written without point and exponent and fits
64 bits with its sign, otherwise the significand of the digits below 2^64 scaled by ten. -/
def Numeral.number? (x : Numeral) : Option Number :=
  let w := absorb 0 x.whole
  let scaled (significand : Nat) (k : Int) : Option Number :=
    (Binary64.ofScientific? x.negative significand k).map .real
  match x.fraction, x.exponent with
  | none, none =>
    if w.2 ≠ 0 then scaled w.1 w.2
    else if !x.negative then some (.integer w.1)
    else if w.1 = 0 ∨ 9223372036854775808 < w.1 then scaled w.1 0
    else some (.integer (-(w.1 : Int)))
  | fraction, exponent =>
    let behind := fraction.getD []
    let f := absorb w.1 behind
    scaled f.1 ((w.2 : Int) - ((behind.length : Int) - (f.2 : Int)) + exponent.getD 0)

/-- The greatest number of lists and objects around one another. -/
def depthLimit : Nat := 127

/-- A list or an object inside the given number of others. -/
def atDepth (depth : Nat) (d : Document) : Document :=
  if depth < depthLimit then d else .deep d.complete

/-- A word at the front of a text. -/
def word (w : String) (d : Document) (cs : List Char) : Document × Option (List Char) :=
  if w.toList.isPrefixOf cs then (d, some (cs.drop w.length)) else (.broken, none)

mutual

/-- The value at the front of a text and what follows it. Nothing follows a value that breaks
off. The first number bounds the steps, the second counts the lists and objects around. -/
def value : Nat → Nat → List Char → Document × Option (List Char)
  | 0, _, _ => (.broken, none)
  | n + 1, depth, cs =>
    match skip cs with
    | [] => (.broken, none)
    | c :: r =>
      if c = '[' then
        match skip r with
        | ']' :: s => (atDepth depth (.list [] true), some s)
        | s =>
          let x := items n (depth + 1) s
          (atDepth depth (.list x.1 x.2.isSome), x.2)
      else if c.toNat = 0x7B then
        match skip r with
        | [] => (atDepth depth (.object [] false), none)
        | e :: s =>
          if e.toNat = 0x7D then (atDepth depth (.object [] true), some s)
          else
            let x := members n (depth + 1) (e :: s)
            (atDepth depth (.object x.1 x.2.isSome), x.2)
      else if c.toNat = 0x22 then
        match quoted r with
        | some (s, rest) => (.text s, some rest)
        | none => (.broken, none)
      else if c = 'n' then word "null" .null (c :: r)
      else if c = 't' then word "true" (.bool true) (c :: r)
      else if c = 'f' then word "false" (.bool false) (c :: r)
      else
        match numeral (c :: r) with
        | some (x, rest) => (.number x.number?, some rest)
        | none => (.broken, none)

/-- The items of a list from the next one on, and what follows the list. -/
def items : Nat → Nat → List Char → List Document × Option (List Char)
  | 0, _, _ => ([.broken], none)
  | n + 1, depth, cs =>
    match value n depth cs with
    | (d, none) => ([d], none)
    | (d, some r) =>
      match skip r with
      | ',' :: s =>
        let x := items n depth s
        (d :: x.1, x.2)
      | ']' :: s => ([d], some s)
      | _ => ([d], none)

/-- The members of an object from the next one on, and what follows the object. -/
def members : Nat → Nat → List Char → List (Option String × Document) × Option (List Char)
  | 0, _, _ => ([], none)
  | n + 1, depth, cs =>
    match skip cs with
    | [] => ([], none)
    | q :: r =>
      if q.toNat = 0x22 then
        match quoted r with
        | none => ([], none)
        | some (k, rest) =>
          match skip rest with
          | ':' :: s =>
            match value n depth s with
            | (d, none) => ([(k, d)], none)
            | (d, some t) =>
              match skip t with
              | [] => ([(k, d)], none)
              | e :: u =>
                if e = ',' then
                  let x := members n depth u
                  ((k, d) :: x.1, x.2)
                else if e.toNat = 0x7D then ([(k, d)], some u)
                else ([(k, d)], none)
          | _ => ([(k, .broken)], none)
      else ([], none)

end

/-- The value at the front of a text and what follows it. -/
def scan (cs : List Char) : Document × Option (List Char) := value (2 * cs.length + 2) 0 cs

/-- Reads a text of one value. What follows the value is looked at last. -/
def read {α : Type} (reader : Reader α) (s : String) : Except Fault α :=
  match scan s.toList with
  | (d, rest) =>
    match reader d with
    | .error f => .error f
    | .ok a =>
      match rest with
      | some r => if (skip r).isEmpty then .ok a else .error .malformed
      | none => .error .malformed

/-- The JSON value that a text writes. -/
def parse? (s : String) : Option Json := (read Reader.any s).toOption

end AccessGateway.JsonText
