import AccessGateway.Yaml.Cursor

/-
  The state in which YAML text is cut into tokens. What is a key is known only at the colon behind
  it. So the scanner remembers where the last thing that can be a key began, one such place for
  the text and one for every flow collection that is open, and puts the token of the key there
  afterwards. Indentation opens block collections and the lack of it closes them.
-/

namespace AccessGateway.Yaml

/-- A part of YAML text. -/
inductive Token where
  /-- A directive; two with one name that is not empty are too many. -/
  | directive (name : String)
  | documentStart
  | documentEnd
  | blockSequence
  | blockMapping
  | blockEnd
  | flowSequence
  | flowSequenceEnd
  | flowMapping
  | flowMappingEnd
  | entry
  | separator
  | key
  | value
  | scalar (quoted : Bool) (text : String)
  /-- Text that is no YAML. -/
  | broken
deriving DecidableEq, Repr

/-- Where something begins that a colon makes a key. -/
structure KeyPlace where
  /-- The number of tokens before it. -/
  number : Nat
  cursor : Cursor
  /-- Whether nothing but a key may stand here. -/
  required : Bool

/-- An indentation: the one around it, and whether it belongs to a block collection or only keeps
what is inside of one further in. -/
structure Indent where
  around : Int
  isBlock : Bool

/-- The state between two tokens. -/
structure Scanner where
  edition : Edition
  cursor : Cursor
  /-- The tokens so far, last first, and their number. -/
  tokens : List Token
  count : Nat
  indent : Int
  indents : List Indent
  keyAllowed : Bool
  /-- The place of a key in the innermost flow collection. -/
  key : Option KeyPlace
  /-- The places of keys around it, from the inside out. -/
  outer : List (Option KeyPlace)
  /-- For every open flow sequence the depth of the pair that is open in it, if one is. -/
  pairs : List (Option Nat)
  /-- Whether a colon makes no pair because a flow mapping has been opened. -/
  mappingOpened : Bool
  /-- Where a colon may follow a quoted scalar or a flow collection without a blank. -/
  adjacent : Nat
  finished : Bool

namespace Scanner

/-- The state at the front of a text. -/
def start (e : Edition) (cs : List Char) : Scanner where
  edition := e
  cursor := Cursor.start cs
  tokens := []
  count := 0
  indent := -1
  indents := []
  keyAllowed := true
  key := none
  outer := []
  pairs := []
  mappingOpened := false
  adjacent := 0
  finished := false

/-- Whether the late edition is read. -/
def isLate (s : Scanner) : Bool := s.edition == .late

/-- Whether a flow collection is open. -/
def inFlow (s : Scanner) : Bool := !s.outer.isEmpty

/-- The column of the next character. -/
def column (s : Scanner) : Int := s.cursor.column

/-- Whether a block mapping or a block sequence is the innermost thing with an indentation. -/
def inBlock (s : Scanner) : Bool := s.indents.head?.any Indent.isBlock

/-- Adds a token. -/
def emit (t : Token) (s : Scanner) : Scanner :=
  { s with tokens := t :: s.tokens, count := s.count + 1 }

/-- Puts a token before the one with a number. -/
def insert (number : Nat) (t : Token) (s : Scanner) : Scanner :=
  { s with tokens := s.tokens.insertIdx (s.count - number) t, count := s.count + 1 }

/-- Moves past characters of the line that say something. -/
def consume (n : Nat) (s : Scanner) : Scanner := { s with cursor := s.cursor.consume n }

/-- Remembers that a key may begin here. -/
def saveKey (s : Scanner) : Scanner :=
  if s.keyAllowed then
    let required := !s.inFlow && s.inBlock && s.indent == s.column
    { s with key := some ⟨s.count, s.cursor, required⟩ }
  else s

/-- Forgets the place of a key, unless a key is required there. -/
def dropKey (s : Scanner) : Option Scanner :=
  if s.key.any KeyPlace.required then none else some { s with key := none }

/-- Whether a key would be on another line or more than 1024 characters away. -/
def isStale (s : Scanner) (k : KeyPlace) : Bool :=
  k.cursor.line < s.cursor.line || k.cursor.index + 1024 < s.cursor.index

/-- Forgets the places of keys that are too far away. In a flow collection of the late edition
none is. -/
def dropStaleKeys (s : Scanner) : Option Scanner :=
  if s.isLate ∧ s.inFlow then some s
  else if (s.key :: s.outer).any fun k => k.any fun k => k.required && s.isStale k then none
  else
    let keep (k : Option KeyPlace) := k.filter fun k => !s.isStale k
    some { s with key := keep s.key, outer := s.outer.map keep }

/-- Ends the block collections that are indented further than a column. -/
def unrollFrom (column : Int) : List Indent → Scanner → Scanner
  | [], s => { s with indents := [] }
  | i :: r, s =>
    if s.indent ≤ column then { s with indents := i :: r }
    else
      let t := { s with indent := i.around }
      unrollFrom column r (if i.isBlock then t.emit .blockEnd else t)

/-- Ends the block collections that are indented further than a column. In a flow collection
indentation ends none. -/
def unroll (column : Int) (s : Scanner) : Scanner :=
  if s.inFlow then s else unrollFrom column s.indents s

/-- Gives up an indentation that belongs to no block collection. -/
def unindent (s : Scanner) : Scanner :=
  match s.indents with
  | i :: r => if i.isBlock then s else { s with indent := i.around, indents := r }
  | [] => s

/-- Opens a block collection at a column that is indented further, with its token before the one
with a number. -/
def roll (column : Int) (number : Nat) (t : Token) (s : Scanner) : Scanner :=
  if s.inFlow then s
  else
    let s := if s.indent ≤ column then s.unindent else s
    if s.indent < column then
      { s with indent := column, indents := ⟨s.indent, true⟩ :: s.indents }.insert number t
    else s

/-- Keeps what follows further in than the block collection around it, in the late edition. -/
def rollOne (s : Scanner) : Scanner :=
  if s.isLate ∧ !s.inFlow ∧ s.inBlock then
    { s with indent := s.indent + 1, indents := ⟨s.indent, false⟩ :: s.indents }
  else s

/-- Ends the pair of a flow sequence that is open at this depth. -/
def endPair (s : Scanner) : Scanner :=
  match s.pairs with
  | some depth :: r =>
    if depth = s.outer.length then
      { s with pairs := none :: r, mappingOpened := false }.emit .flowMappingEnd
    else s
  | _ => s

/-- The least number of a token that may yet get a key before it. -/
def settled (s : Scanner) : Nat :=
  (s.key :: s.outer).foldl (fun n k => min n ((k.map KeyPlace.number).getD n)) s.count

/-- The tokens of a text that is broken from here on. Those that could be behind a key are lost. -/
def breakOff (s : Scanner) : List Token :=
  match s.dropStaleKeys with
  | none => [.broken]
  | some t => t.tokens.reverse.take t.settled ++ [.broken]

end Scanner

end AccessGateway.Yaml
