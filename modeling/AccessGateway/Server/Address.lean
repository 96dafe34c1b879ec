import AccessGateway.Text.Ascii

/-
  Socket addresses: an IPv4 address and a port (`127.0.0.1:80`), or an IPv6 address in brackets,
  perhaps with a scope, and a port (`[fe80::1%2]:80`). The readers take a part from the front of
  a text and give what follows it.
-/

namespace AccessGateway

/-- A socket address. -/
inductive SocketAddress where
  | v4 (octets : List Nat) (port : Nat)
  | v6 (groups : List Nat) (scope : Nat) (port : Nat)
deriving DecidableEq, Repr

namespace SocketAddress

/-- The text behind a character. -/
def after? (c : Char) : List Char → Option (List Char)
  | d :: r => if d = c then some r else none
  | [] => none

/-- Whether a character is a digit of a base. -/
def isDigit (base : Nat) (c : Char) : Bool :=
  match Ascii.hexValue? c with
  | some d => d < base
  | none => false

/-- The number that digits of a base write. -/
def digitsValue (base : Nat) (cs : List Char) : Nat :=
  cs.foldl (fun n c => base * n + (Ascii.hexValue? c).getD 0) 0

/-- A number below a bound. -/
def number? (base bound : Nat) (cs : List Char) : Option (Nat × List Char) :=
  let digits := cs.takeWhile (isDigit base)
  if digits.isEmpty ∨ bound ≤ digitsValue base digits then none
  else some (digitsValue base digits, cs.drop digits.length)

/-- A port. -/
def port? (cs : List Char) : Option (Nat × List Char) := number? 10 65536 cs

/-- An octet of an IPv4 address: at most three digits, without a needless zero. -/
def octet? (cs : List Char) : Option (Nat × List Char) :=
  let digits := cs.takeWhile (isDigit 10)
  if 3 < digits.length ∨ (digits.head? = some '0' ∧ 1 < digits.length) then none
  else number? 10 256 cs

/-- An IPv4 address. -/
def v4Address? (cs : List Char) : Option (List Nat × List Char) := do
  let (a, r) ← octet? cs
  let (b, r) ← (after? '.' r).bind octet?
  let (c, r) ← (after? '.' r).bind octet?
  let (d, r) ← (after? '.' r).bind octet?
  some ([a, b, c, d], r)

/-- A group of an IPv6 address: at most four digits. -/
def group? (cs : List Char) : Option (Nat × List Char) :=
  if 4 < (cs.takeWhile (isDigit 16)).length then none else number? 16 65536 cs

/-- The two groups of an IPv4 address. -/
def groupsOf : List Nat → List Nat
  | [a, b, c, d] => [256 * a + b, 256 * c + d]
  | _ => []

/-- Groups with colons between them, at most as many as given, whether an IPv4 address ended
them, and what follows. An IPv4 address stands for two groups. -/
def groups (separated : Bool) : Nat → List Char → List Nat × Bool × List Char
  | 0, cs => ([], false, cs)
  | n + 1, cs =>
    match if separated then after? ':' cs else some cs with
    | none => ([], false, cs)
    | some r =>
      match (if 0 < n then v4Address? r else none) with
      | some (octets, r) => (groupsOf octets, true, r)
      | none =>
        match group? r with
        | none => ([], false, cs)
        | some (g, r) =>
          let rest := groups true n r
          (g :: rest.1, rest.2)

/-- An IPv6 address. Two colons stand for one or more groups of zero. -/
def v6Address? (cs : List Char) : Option (List Nat × List Char) :=
  let (front, mixed, r) := groups false 8 cs
  if front.length = 8 then some (front, r)
  else if mixed then none
  else do
    let r ← (after? ':' r).bind (after? ':')
    let (back, _, r) := groups false (7 - front.length) r
    some (front ++ List.replicate (8 - front.length - back.length) 0 ++ back, r)

/-- The scope of an IPv6 address; without one it is zero. -/
def scope? (cs : List Char) : Option (Nat × List Char) :=
  match after? '%' cs with
  | none => some (0, cs)
  | some r => number? 10 4294967296 r

/-- The IPv4 socket address that a text writes. -/
def parseV4? (cs : List Char) : Option SocketAddress := do
  let (octets, r) ← v4Address? cs
  let (port, r) ← (after? ':' r).bind port?
  if r.isEmpty then some (.v4 octets port) else none

/-- The IPv6 socket address that a text writes. -/
def parseV6? (cs : List Char) : Option SocketAddress := do
  let (groups, r) ← (after? '[' cs).bind v6Address?
  let (scope, r) ← scope? r
  let r ← (after? ']' r).bind (after? ':')
  let (port, r) ← port? r
  if r.isEmpty then some (.v6 groups scope port) else none

/-- The socket address that a text writes. -/
def parse? (s : String) : Option SocketAddress :=
  (parseV4? s.toList).or (parseV6? s.toList)

/-- What is said of a text that writes no address. -/
def malformed (s : String) : String :=
  "Invalid bind address '" ++ s ++ "': invalid socket address syntax"

end SocketAddress

end AccessGateway
