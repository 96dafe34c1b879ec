/-
  Finite binary64 numbers in exact arithmetic. A number is a sign, a significand and a power of
  two. `round?` takes a quotient of natural numbers to the nearest number, a tie to the even
  significand; `ofScientific?` scales a decimal significand by one rounded power of ten.
  `shortest` finds the fewest decimal digits that still round to the number, and `render` writes
  them: positionally from 10^-5 up to 10^16, with a signed exponent otherwise, and always with a
  point or an exponent.
-/

namespace AccessGateway

/-- The number `significand * 2 ^ exponent`, negated if `negative`. -/
structure Binary64 where
  negative : Bool
  significand : Nat
  exponent : Int
deriving DecidableEq, Inhabited

namespace Binary64

/-- The least exponent. -/
def leastExponent : Int := -1074

/-- The greatest exponent. -/
def greatestExponent : Int := 971

/-- The least significand of a number that is not small, 2^52. -/
def leastNormal : Nat := 4503599627370496

/-- Zero. -/
def zero (negative : Bool) : Binary64 := ⟨negative, 0, leastExponent⟩

/-- The quotient as a natural number, the nearest one, a tie to the even one. -/
def divideToEven (num den : Nat) : Nat :=
  let q := num / den
  let r := num % den
  if 2 * r < den then q
  else if den < 2 * r then q + 1
  else if q % 2 = 0 then q
  else q + 1

/-- The numerator and the denominator of `num / den` divided by `2 ^ e`. -/
def scale (num den : Nat) (e : Int) : Nat × Nat :=
  if e < 0 then (num * Nat.pow 2 e.natAbs, den) else (num, den * Nat.pow 2 e.natAbs)

/-- The number nearest to a quotient; none if it is beyond the greatest number. -/
def round? (negative : Bool) (num den : Nat) : Option Binary64 :=
  if num = 0 then some (zero negative)
  else
    let guess : Int := (num.log2 : Int) - (den.log2 : Int) - 52
    let s := scale num den guess
    let fitted := if s.1 < s.2 * leastNormal then guess - 1 else guess
    let e := max fitted leastExponent
    let t := scale num den e
    let m := divideToEven t.1 t.2
    let n : Binary64 :=
      if m = 2 * leastNormal then ⟨negative, leastNormal, e + 1⟩ else ⟨negative, m, e⟩
    if n.exponent > greatestExponent then none else some n

/-- The numerator and the denominator of the size of a number. -/
def fraction (x : Binary64) : Nat × Nat :=
  if x.exponent < 0 then (x.significand, Nat.pow 2 x.exponent.natAbs)
  else (x.significand * Nat.pow 2 x.exponent.natAbs, 1)

/-- The number nearest to a power of ten. -/
def powerOfTen (k : Nat) : Nat × Nat :=
  match round? false (Nat.pow 10 k) 1 with
  | some p => p.fraction
  | none => (Nat.pow 10 k, 1)

/-- A number times or over a power of ten up to 10^308, rounded once. -/
def timesPowerOfTen? (x : Binary64) (k : Int) : Option Binary64 :=
  let f := x.fraction
  let p := powerOfTen k.natAbs
  if k < 0 then round? x.negative (f.1 * p.2) (f.2 * p.1)
  else round? x.negative (f.1 * p.1) (f.2 * p.2)

/-- A number times a power of ten of any size: small powers are reached in steps of 308, and
three steps take any significand below 2^64 to zero. -/
def scaleByTen? (steps : Nat) (x : Binary64) (k : Int) : Option Binary64 :=
  if k.natAbs ≤ 308 then x.timesPowerOfTen? k
  else if x.significand = 0 then some x
  else if 0 < k then none
  else
    match steps with
    | 0 => some (zero x.negative)
    | n + 1 => (x.timesPowerOfTen? (-308)).bind fun y => scaleByTen? n y (k + 308)

/-- The number that `significand * 10 ^ k` is read as: the significand is rounded first, then
its product with the rounded power of ten. -/
def ofScientific? (negative : Bool) (significand : Nat) (k : Int) : Option Binary64 :=
  (round? negative significand 1).bind fun x => scaleByTen? 3 x k

/-- Four times the significand between the bounds of what rounds to a number; the distance to
the number below is half as long at a power of two. -/
def bounds (x : Binary64) : Nat × Nat :=
  let low :=
    if x.significand = leastNormal ∧ leastExponent < x.exponent then 4 * x.significand - 1
    else 4 * x.significand - 2
  (low, 4 * x.significand + 2)

/-- The power of ten that is not above a quotient while the next one is. -/
def decimalExponent (num den : Nat) : Int :=
  let guess : Int := ((num.log2 : Int) - (den.log2 : Int)) * 30103 / 100000
  let atLeast (k : Int) : Bool :=
    if k < 0 then den ≤ num * Nat.pow 10 k.natAbs else den * Nat.pow 10 k.natAbs ≤ num
  if atLeast (guess + 1) then guess + 1
  else if atLeast guess then guess
  else guess - 1

/-- Whether `d * 10 ^ k` rounds to the number, which is `x.significand * 2 ^ x.exponent`. -/
def roundsTo (x : Binary64) (d : Nat) (k : Int) : Bool :=
  let e := x.exponent - 2
  let tens := Nat.pow 10 k.natAbs
  let twos := Nat.pow 2 e.natAbs
  let value := d * (if k < 0 then 1 else tens) * (if e < 0 then twos else 1)
  let unit := (if k < 0 then tens else 1) * (if e < 0 then 1 else twos)
  let b := x.bounds
  if x.significand % 2 = 0 then b.1 * unit ≤ value && value ≤ b.2 * unit
  else b.1 * unit < value && value < b.2 * unit

/-- The digits of one length that round to the number, the nearer of the two neighbours. -/
def digitsOfLength? (x : Binary64) (top : Int) (n : Nat) : Option (Nat × Int) :=
  let k : Int := top - (n : Int) + 1
  let f := x.fraction
  let num := if k < 0 then f.1 * Nat.pow 10 k.natAbs else f.1
  let den := if k < 0 then f.2 else f.2 * Nat.pow 10 k.natAbs
  let near := divideToEven num den
  if x.roundsTo near k then some (near, k)
  else
    let other := if near = num / den then near + 1 else near - 1
    if x.roundsTo other k then some (other, k) else none

/-- The digits without trailing zeros. -/
def dropZeros : Nat → Nat × Int → Nat × Int
  | 0, p => p
  | n + 1, p => if p.1 ≠ 0 ∧ p.1 % 10 = 0 then dropZeros n (p.1 / 10, p.2 + 1) else p

/-- The fewest digits that round to a number other than zero, with their power of ten. -/
def shortest (x : Binary64) : Nat × Int :=
  let f := x.fraction
  let top := decimalExponent f.1 f.2
  let found := ((List.range 17).map (· + 1)).findSome? (digitsOfLength? x top)
  dropZeros 20 (found.getD (x.significand, 0))

/-- The text of a number. -/
def render (x : Binary64) : String :=
  let sign := if x.negative then "-" else ""
  if x.significand = 0 then sign ++ "0.0"
  else
    let s := x.shortest
    let digits := toString s.1
    let length : Int := digits.length
    let point := length + s.2
    let body :=
      if 0 ≤ s.2 ∧ point ≤ 16 then
        digits ++ String.ofList (List.replicate s.2.toNat '0') ++ ".0"
      else if 0 < point ∧ point ≤ 16 then
        let cs := digits.toList
        String.ofList (cs.take point.toNat) ++ "." ++ String.ofList (cs.drop point.toNat)
      else if -5 < point ∧ point ≤ 0 then
        "0." ++ String.ofList (List.replicate point.natAbs '0') ++ digits
      else
        let cs := digits.toList
        let head := String.ofList (cs.take 1)
        let tail := if cs.length = 1 then "" else "." ++ String.ofList (cs.drop 1)
        head ++ tail ++ (if 0 < point then "e+" else "e") ++ toString (point - 1)
    sign ++ body

end Binary64

end AccessGateway
