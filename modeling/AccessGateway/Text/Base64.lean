import AccessGateway.Text.Utf8

/-
  Base64 with the standard alphabet. Written text always carries its padding; reading asks for
  it, and for zero in the bits that the last group does not use, so that every list of octets
  has one written form.
-/

namespace AccessGateway.Base64

/-- The digit of a number below 64. -/
def digit (n : Nat) : Char :=
  if n < 26 then Char.ofNat (65 + n)
  else if n < 52 then Char.ofNat (97 + (n - 26))
  else if n < 62 then Char.ofNat (48 + (n - 52))
  else if n = 62 then '+'
  else '/'

/-- The number that a digit stands for. -/
def value? (c : Char) : Option Nat :=
  if 'A' ≤ c ∧ c ≤ 'Z' then some (c.toNat - 65)
  else if 'a' ≤ c ∧ c ≤ 'z' then some (c.toNat - 97 + 26)
  else if '0' ≤ c ∧ c ≤ '9' then some (c.toNat - 48 + 52)
  else if c = '+' then some 62
  else if c = '/' then some 63
  else none

/-- The text of a list of octets, four digits for three octets. -/
def encode : List UInt8 → List Char
  | [] => []
  | [a] => [digit (a.toNat / 4), digit (a.toNat % 4 * 16), '=', '=']
  | [a, b] =>
    [digit (a.toNat / 4), digit (a.toNat % 4 * 16 + b.toNat / 16), digit (b.toNat % 16 * 4), '=']
  | a :: b :: c :: r =>
    digit (a.toNat / 4) :: digit (a.toNat % 4 * 16 + b.toNat / 16) ::
      digit (b.toNat % 16 * 4 + c.toNat / 64) :: digit (c.toNat % 64) :: encode r

/-- The octet of a group that ends in two signs of padding. -/
def oneOctet? (x y : Char) : Option (List UInt8) := do
  let a ← value? x
  let b ← value? y
  if b % 16 = 0 then some [UInt8.ofNat (a * 4 + b / 16)] else none

/-- The octets of a group that ends in one sign of padding. -/
def twoOctets? (x y z : Char) : Option (List UInt8) := do
  let a ← value? x
  let b ← value? y
  let c ← value? z
  if c % 4 = 0 then some [UInt8.ofNat (a * 4 + b / 16), UInt8.ofNat (b % 16 * 16 + c / 4)]
  else none

/-- The octets of a group without padding. -/
def threeOctets? (x y z w : Char) : Option (List UInt8) := do
  let a ← value? x
  let b ← value? y
  let c ← value? z
  let d ← value? w
  some [UInt8.ofNat (a * 4 + b / 16), UInt8.ofNat (b % 16 * 16 + c / 4),
    UInt8.ofNat (c % 4 * 64 + d)]

/-- The octets that a text writes, if it is written as `encode` writes them. -/
def decode? : List Char → Option (List UInt8)
  | [] => some []
  | x :: y :: z :: w :: r =>
    if w = '=' then
      if r.isEmpty then if z = '=' then oneOctet? x y else twoOctets? x y z else none
    else do
      let group ← threeOctets? x y z w
      let rest ← decode? r
      some (group ++ rest)
  | _ => none

theorem value?_digit (n : Nat) (h : n < 64) : value? (digit n) = some n := by
  have all : ∀ k : Fin 64, value? (digit k.val) = some k.val := by decide
  exact all ⟨n, h⟩

theorem digit_ne_pad (n : Nat) (h : n < 64) : digit n ≠ '=' := by
  have all : ∀ k : Fin 64, digit k.val ≠ '=' := by decide
  exact all ⟨n, h⟩

theorem ofNat_toNat_of_eq {b : UInt8} {n : Nat} (h : n = b.toNat) : UInt8.ofNat n = b := by
  subst h
  exact UInt8.ofNat_toNat

theorem decode?_encode (bs : List UInt8) : decode? (encode bs) = some bs := by
  fun_induction encode bs with
  | case1 => rfl
  | case2 a =>
    have ha := a.toNat_lt
    simp only [decode?, List.isEmpty_nil, if_true, oneOctet?,
      value?_digit _ (show a.toNat / 4 < 64 by omega),
      value?_digit _ (show a.toNat % 4 * 16 < 64 by omega)]
    simp only [bind, Option.bind]
    rw [if_pos (by omega), ofNat_toNat_of_eq (b := a) (by omega)]
  | case3 a b =>
    have ha := a.toNat_lt
    have hb := b.toNat_lt
    simp only [decode?, List.isEmpty_nil, if_true, twoOctets?,
      digit_ne_pad _ (show b.toNat % 16 * 4 < 64 by omega), if_false,
      value?_digit _ (show a.toNat / 4 < 64 by omega),
      value?_digit _ (show a.toNat % 4 * 16 + b.toNat / 16 < 64 by omega),
      value?_digit _ (show b.toNat % 16 * 4 < 64 by omega)]
    simp only [bind, Option.bind]
    rw [if_pos (by omega), ofNat_toNat_of_eq (b := a) (by omega),
      ofNat_toNat_of_eq (b := b) (by omega)]
  | case4 a b c r ih =>
    have ha := a.toNat_lt
    have hb := b.toNat_lt
    have hc := c.toNat_lt
    simp only [decode?, threeOctets?, ih,
      digit_ne_pad _ (show c.toNat % 64 < 64 by omega), if_false,
      value?_digit _ (show a.toNat / 4 < 64 by omega),
      value?_digit _ (show a.toNat % 4 * 16 + b.toNat / 16 < 64 by omega),
      value?_digit _ (show b.toNat % 16 * 4 + c.toNat / 64 < 64 by omega),
      value?_digit _ (show c.toNat % 64 < 64 by omega)]
    simp only [bind, Option.bind]
    rw [ofNat_toNat_of_eq (b := a) (by omega), ofNat_toNat_of_eq (b := b) (by omega),
      ofNat_toNat_of_eq (b := c) (by omega)]
    rfl

end AccessGateway.Base64
