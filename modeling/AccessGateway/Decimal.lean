import AccessGateway.Binary64
import AccessGateway.Text.Ascii

/-
  Decimal numbers as texts write them: a sign, digits with a point among them, and an exponent,
  each of which may be missing as long as one digit is there; or a word for a number without
  digits. `Decimal.read?` takes such a text to what it writes. The number is rounded once, to the
  nearest binary64 number.
-/

namespace AccessGateway

/-- The number nearest to `significand * 10 ^ k`. -/
def Binary64.ofDecimal? (negative : Bool) (significand : Nat) (k : Int) : Option Binary64 :=
  let size : Int := (toString significand).length
  if significand = 0 ∨ k + size < -400 then some (Binary64.zero negative)
  else if 400 < k + size then none
  else if k < 0 then Binary64.round? negative significand (Nat.pow 10 k.natAbs)
  else Binary64.round? negative (significand * Nat.pow 10 k.natAbs) 1

/-- What a text writes as a decimal number. A number beyond the greatest one is infinite. -/
inductive Decimal where
  | finite (x : Binary64)
  | infinite (negative : Bool)
  | indefinite

namespace Decimal

/-- The words for an infinite number, in small letters. -/
def infiniteWords : List String := ["inf", "infinity"]

/-- The word for what is no number, in small letters. -/
def indefiniteWord : String := "nan"

/-- A decimal number from its parts. -/
def ofParts (negative : Bool) (significand : Nat) (k : Int) : Decimal :=
  match Binary64.ofDecimal? negative significand k with
  | some x => .finite x
  | none => .infinite negative

/-- The exponent that stands behind the digits; nothing stands for zero. -/
def exponent? (cs : List Char) : Option Int :=
  match cs with
  | [] => some 0
  | e :: r =>
    let down := r.head? = some '-'
    let ds := if r.head? = some '-' ∨ r.head? = some '+' then r.drop 1 else r
    if (e = 'e' ∨ e = 'E') ∧ !ds.isEmpty ∧ ds.all Char.isDigit then
      let n : Int := Ascii.decimalValue ds
      some (if down then -n else n)
    else none

/-- What digits without a sign write. -/
def digits? (negative : Bool) (cs : List Char) : Option Decimal :=
  let whole := cs.takeWhile Char.isDigit
  let r := cs.dropWhile Char.isDigit
  let point := r.head? = some '.'
  let fraction := if point then (r.drop 1).takeWhile Char.isDigit else []
  let r := if point then (r.drop 1).dropWhile Char.isDigit else r
  if whole.isEmpty ∧ fraction.isEmpty then none
  else
    (exponent? r).map fun e =>
      ofParts negative (Ascii.decimalValue (whole ++ fraction)) (e - (fraction.length : Int))

/-- What a text writes. -/
def read? (cs : List Char) : Option Decimal :=
  let negative := cs.head? = some '-'
  let unsigned := if negative ∨ cs.head? = some '+' then cs.drop 1 else cs
  let word := Ascii.lower (String.ofList unsigned)
  if infiniteWords.contains word then some (.infinite negative)
  else if word = indefiniteWord then some .indefinite
  else digits? negative unsigned

end Decimal

end AccessGateway
