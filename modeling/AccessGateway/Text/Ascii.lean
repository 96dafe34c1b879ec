/-
  ASCII letter case and the token characters of HTTP. Header names, method names, scheme
  prefixes and media types compare by ASCII case only: a letter outside ASCII has no other case
  here. `sameIgnoringCase_iff` says when two texts differ in ASCII case alone.
-/

namespace AccessGateway.Ascii

/-- The text with the ASCII capitals written small. -/
def lower (s : String) : String := String.ofList (s.toList.map Char.toLower)

/-- The text with the small ASCII letters written as capitals. -/
def upper (s : String) : String := String.ofList (s.toList.map Char.toUpper)

/-- Two lists of characters that differ at most in ASCII letter case. -/
def sameIgnoringCase (a b : List Char) : Bool := a.map Char.toLower == b.map Char.toLower

theorem sameIgnoringCase_iff {a b : List Char} :
    sameIgnoringCase a b = true ↔ a.map Char.toLower = b.map Char.toLower := by
  simp [sameIgnoringCase]

/-- The punctuation that a token may hold beside ASCII letters and digits. -/
def tokenMarks : List Char := "!#$%&'*+-.^_`|~".toList

/-- A character of an HTTP token. -/
def isTokenChar (c : Char) : Bool := c.isAlphanum || tokenMarks.contains c

/-- A non-empty text of token characters. -/
def isToken (s : String) : Bool := !s.toList.isEmpty && s.toList.all isTokenChar

/-- A character that a header value shows as text: a tab or a printable ASCII character. -/
def isReadable (c : Char) : Bool := c == '\t' || (' ' ≤ c && c ≤ '~')

/-- The value of a hexadecimal digit of either case. -/
def hexValue? (c : Char) : Option Nat :=
  if '0' ≤ c ∧ c ≤ '9' then some (c.toNat - '0'.toNat)
  else if 'a' ≤ c ∧ c ≤ 'f' then some (c.toNat - 'a'.toNat + 10)
  else if 'A' ≤ c ∧ c ≤ 'F' then some (c.toNat - 'A'.toNat + 10)
  else none

/-- The digit of a number below sixteen, in small letters. -/
def hexDigit (n : Nat) : Char :=
  if n < 10 then Char.ofNat ('0'.toNat + n) else Char.ofNat ('a'.toNat + (n - 10))

/-- The digit of a number below sixteen, in capitals. -/
def hexDigitUpper (n : Nat) : Char :=
  if n < 10 then Char.ofNat ('0'.toNat + n) else Char.ofNat ('A'.toNat + (n - 10))

/-- The number that a run of decimal digits writes. -/
def decimalValue (digits : List Char) : Nat :=
  digits.foldl (fun n c => 10 * n + (c.toNat - '0'.toNat)) 0

end AccessGateway.Ascii
