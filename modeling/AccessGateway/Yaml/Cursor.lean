/-
  The two editions of YAML that the gateway reads, and places in a text. The early edition knows
  more line breaks and fewer liberties; settings files are written in it. The late edition keeps
  an eye on indentation and on the blanks around marks; role files are written in it. A cursor
  holds the rest of a text with its line and column, so that what is read depends on nothing else.
-/

namespace AccessGateway.Yaml

/-- An edition of YAML. -/
inductive Edition where
  | early
  | late
deriving DecidableEq, Repr

/-- A blank inside a line. -/
def isGap (c : Char) : Bool := c == ' ' || c == '\t'

/-- A mark of a flow collection. -/
def isFlowMark (c : Char) : Bool := ",[]\x7b\x7d".toList.contains c

/-- A character of a name: a letter, a digit, a line or a dash. -/
def isNameChar (c : Char) : Bool := c.isAlphanum || c == '_' || c == '-'

/-- The mark at the front of a text written on some systems. -/
def isOrderMark (c : Char) : Bool := c.toNat == 0xFEFF

namespace Edition

/-- A line break of one character. -/
def isBreak (e : Edition) (c : Char) : Bool :=
  c == '\n' || c == '\r' || (e == .early && [0x85, 0x2028, 0x2029].contains c.toNat)

/-- Whether a word ends before what comes next: a blank, a line break, or nothing at all. -/
def endsWord (e : Edition) : Option Char → Bool
  | none => true
  | some c => isGap c || e.isBreak c

/-- Whether a line ends before what comes next. -/
def endsLine (e : Edition) : Option Char → Bool
  | none => true
  | some c => e.isBreak c

/-- What a line break counts as: a line feed, unless it is a separator that stays itself. -/
def breakValue (c : Char) : Char :=
  if [0x2028, 0x2029].contains c.toNat then c else '\n'

/-- Whether a text starts with three times the same character as a word of its own. -/
def isTriple (e : Edition) (mark : Char) (cs : List Char) : Bool :=
  cs.take 3 == [mark, mark, mark] && e.endsWord cs[3]?

/-- Whether a text starts with the mark before or behind a document. -/
def isDocumentMark (e : Edition) (cs : List Char) : Bool := e.isTriple '-' cs || e.isTriple '.' cs

end Edition

/-- A place in a text. -/
structure Cursor where
  rest : List Char
  /-- The number of characters before. -/
  index : Nat
  line : Nat
  column : Nat
  /-- Whether there is nothing but blanks before on the line. -/
  fresh : Bool
deriving Inhabited

namespace Cursor

/-- The front of a text. -/
def start (cs : List Char) : Cursor := ⟨cs, 0, 0, 0, true⟩

/-- The next character. -/
def next (c : Cursor) : Option Char := c.rest.head?

/-- The place behind blanks on the line. -/
def pass (c : Cursor) (n : Nat) : Cursor :=
  { c with rest := c.rest.drop n, index := c.index + n, column := c.column + n }

/-- The place behind characters of the line that say something. -/
def consume (c : Cursor) (n : Nat) : Cursor := { c.pass n with fresh := false }

/-- The place behind the rest of the line, which is a comment. -/
def passLine (e : Edition) (c : Cursor) : Cursor :=
  c.pass (c.rest.takeWhile fun x => !e.isBreak x).length

/-- The place behind a line break. A carriage return and a line feed are one break. -/
def newLine (c : Cursor) : Cursor :=
  let n :=
    match c.rest with
    | '\r' :: '\n' :: _ => 2
    | _ => 1
  ⟨c.rest.drop n, c.index + n, c.line + 1, 0, true⟩

end Cursor

/-- What is left of a line behind a mark: blanks and a comment. -/
structure Margin where
  tabs : Bool
  spaces : Bool
  cursor : Cursor

/-- The margin at a place, in the late edition. A comment without a blank before it is refused. -/
def Cursor.margin? (c : Cursor) : Option Margin :=
  let gap := c.rest.takeWhile isGap
  let d := c.pass gap.length
  if d.next = some '#' then
    if gap.isEmpty then none else some ⟨gap.contains '\t', gap.contains ' ', d.passLine .late⟩
  else some ⟨gap.contains '\t', gap.contains ' ', d⟩

/-- The place behind the blanks and the comment that end a line, if there is nothing else. -/
def Cursor.lineEnd? (c : Cursor) : Option Cursor := do
  let m ← c.margin?
  if Edition.late.endsLine m.cursor.next then some m.cursor else none

end AccessGateway.Yaml
