import AccessGateway.Text.Ascii
import AccessGateway.Text.Split
import AccessGateway.Text.Utf8

/-
  Percent coding and form fields. `Percent.decode` replaces every `%` with two hexadecimal
  digits behind it by the octet they write and keeps any other `%`. A form query is a list of
  `key=value` pairs between `&`; `Form.pairs` reads it and `Form.render` writes it.
-/

namespace AccessGateway

namespace Percent

/-- The octets with every `%XX` replaced by the octet it writes. -/
def decode : List UInt8 → List UInt8
  | [] => []
  | b :: bs =>
    if b = 0x25 then
      match bs with
      | h :: l :: r =>
        match Ascii.hexValue? (Char.ofNat h.toNat), Ascii.hexValue? (Char.ofNat l.toNat) with
        | some x, some y => UInt8.ofNat (16 * x + y) :: decode r
        | _, _ => b :: decode (h :: l :: r)
      | r => b :: decode r
    else b :: decode bs

/-- An octet as `%` and two capital hexadecimal digits. -/
def encodeOctet (b : UInt8) : List Char :=
  ['%', Ascii.hexDigitUpper (b.toNat / 16), Ascii.hexDigitUpper (b.toNat % 16)]

/-- The text with every octet percent-coded. -/
def encodeAll (s : String) : String := String.ofList ((Utf8.ofText s).flatMap encodeOctet)

/-- The text behind a percent-coded one, if its octets are UTF-8. -/
def decodeText? (s : String) : Option String :=
  (Utf8.decode? (decode (Utf8.ofText s))).map String.ofList

end Percent

namespace Form

/-- A key or a value of a form: `+` is a space, octets are percent-decoded, and invalid parts
become U+FFFD. -/
def component (cs : List Char) : String :=
  let spaced := cs.map fun c => if c = '+' then ' ' else c
  String.ofList (Utf8.decodeLossy (Percent.decode (Utf8.encode spaced)))

/-- The key and the value of a piece; a piece without `=` has an empty value. -/
def pair (piece : List Char) : String × String :=
  match splitOnce '=' piece with
  | some (k, v) => (component k, component v)
  | none => (component piece, "")

/-- The pairs of a query in order. Empty pieces are none. -/
def pairs (query : String) : List (String × String) :=
  ((pieces '&' query.toList).filter fun p => !p.isEmpty).map pair

/-- An octet that a form writes as itself: a letter, a digit, `*`, `-`, `.` or `_`. -/
def isPlain (b : UInt8) : Bool :=
  (Char.ofNat b.toNat).isAlphanum || b = 0x2A || b = 0x2D || b = 0x2E || b = 0x5F

/-- The written form of an octet. -/
def encodeOctet (b : UInt8) : List Char :=
  if isPlain b then [Char.ofNat b.toNat] else if b = 0x20 then ['+'] else Percent.encodeOctet b

/-- The written form of a key or a value. -/
def encode (s : String) : List Char := (Utf8.ofText s).flatMap encodeOctet

/-- The query that writes a list of pairs. -/
def render (ps : List (String × String)) : String :=
  String.ofList (joinWith '&' (ps.map fun p => encode p.1 ++ '=' :: encode p.2))

end Form

end AccessGateway
