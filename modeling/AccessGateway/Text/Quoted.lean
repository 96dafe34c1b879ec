import AccessGateway.Text.Ascii
import AccessGateway.Text.Unprintable

/-
  Texts in quotes, as error messages and descriptions show them: a quote, a backslash and the
  control characters with a short name are written after a backslash, and any other character
  that cannot be printed by its number in hexadecimal digits.
-/

namespace AccessGateway.Quoted

/-- The hexadecimal digits of a number, without leading zeros. -/
def hexDigits (n : Nat) : List Char := (Nat.toDigits 16 n).map Char.toLower

/-- How a character is written inside quotes. -/
def character (c : Char) : List Char :=
  if c.toNat = 0 then ['\\', '0']
  else if c = '\t' then ['\\', 't']
  else if c = '\r' then ['\\', 'r']
  else if c = '\n' then ['\\', 'n']
  else if c = '\\' then ['\\', '\\']
  else if c.toNat = 0x22 then ['\\', c]
  else if isUnprintable c then "\\u\x7b".toList ++ hexDigits c.toNat ++ "\x7d".toList
  else [c]

/-- The text in quotes. -/
def text (s : String) : String := "\"" ++ String.ofList (s.toList.flatMap character) ++ "\""

/-- A list of texts in brackets. -/
def list (xs : List String) : String := "[" ++ ", ".intercalate (xs.map text) ++ "]"

/-- A text that may be missing. -/
def optional : Option String → String
  | none => "None"
  | some s => "Some(" ++ text s ++ ")"

end AccessGateway.Quoted
