import AccessGateway.Yaml.ScalarText
import AccessGateway.Yaml.Scanner

/-
  YAML text as a list of tokens. A step passes the blanks and comments in front of a token, ends
  the block collections that the indentation ends, and reads the token. Anchors, tags and block
  scalars are not read. Text that is no YAML becomes a token too, behind the good ones: whether it
  matters depends on where the document ends.
-/

namespace AccessGateway.Yaml

namespace Scanner

/-- Moves past a line break. In a block collection a key may begin behind it. -/
def newLine (s : Scanner) : Scanner :=
  { s with cursor := s.cursor.newLine, keyAllowed := s.keyAllowed || !s.inFlow }

/-- The state in front of the next token, in the early edition. A byte order mark is passed over
at the front of every line, and a tab where no key may begin. -/
def passEarly : Nat → Scanner → Scanner
  | 0, s => s
  | n + 1, s =>
    match s.cursor.next with
    | none => s
    | some c =>
      if c = ' ' ∨ (c = '\t' ∧ (s.inFlow ∨ !s.keyAllowed)) ∨
          (isOrderMark c ∧ s.cursor.column = 0) then
        passEarly n { s with cursor := s.cursor.pass 1 }
      else if c = '#' then passEarly n { s with cursor := s.cursor.passLine .early }
      else if Edition.early.isBreak c then passEarly n s.newLine
      else s

/-- The state in front of the next token, in the late edition. A tab in the indentation is
refused on a line that is not void. -/
def passLate : Nat → Scanner → Option Scanner
  | 0, _ => none
  | n + 1, s =>
    match s.cursor.next with
    | none => some s
    | some c =>
      if c = '\t' ∧ !s.indents.isEmpty ∧ s.cursor.fresh ∧ s.column < s.indent then
        match s.cursor.lineEnd? with
        | none => none
        | some d => passLate n { s with cursor := d }
      else if isGap c then passLate n { s with cursor := s.cursor.pass 1 }
      else if c = '#' then passLate n { s with cursor := s.cursor.passLine .late }
      else if Edition.late.isBreak c then passLate n s.newLine
      else some s

/-- The state in front of the next token. -/
def pass (s : Scanner) : Option Scanner :=
  let n := s.cursor.rest.length + 1
  if s.isLate then passLate n s else some (passEarly n s)

/-- Moves past the margin behind a mark, which the late edition looks at. -/
def passMargin (s : Scanner) : Option Scanner :=
  if s.isLate then s.cursor.margin?.map fun m => { s with cursor := m.cursor } else some s

/-- Ends all block collections where no key may begin. -/
def clear (s : Scanner) : Option Scanner :=
  (s.unroll (-1)).dropKey.map fun s => { s with keyAllowed := false }

/-- The end of the text. -/
def finish (s : Scanner) : Option Scanner :=
  if (s.key :: s.outer).any fun k => k.any KeyPlace.required then none
  else some { s.unroll (-1) with finished := true }

/-- The mark before or behind a document. The late edition wants nothing else on the line of the
mark behind one. -/
def documentMark (t : Token) (s : Scanner) : Option Scanner := do
  let s := ((← s.clear).consume 3).emit t
  if s.isLate ∧ t = .documentEnd then
    let d ← s.cursor.lineEnd?
    some { s with cursor := d }
  else some s

/-- What a version of the language is made of. -/
def version? (cs : List Char) : Option (Nat × Nat × List Char) := do
  let major := cs.takeWhile Char.isDigit
  let minor := (cs.drop (major.length + 1)).takeWhile Char.isDigit
  let m ← digitsValue? 10 major
  let n ← digitsValue? 10 minor
  if cs[major.length]? = some '.' ∧ major.length ≤ 9 ∧ minor.length ≤ 9 then
    some (m, n, cs.drop (major.length + 1 + minor.length))
  else none

/-- A character of the address that a tag handle stands for. -/
def isAddressChar (c : Char) : Bool :=
  isNameChar c || c.toNat == 0x27 || ";/?:@&=+$,.!~*()[]%".toList.contains c

/-- The handle of a tag at the front of a text, and what follows it. -/
def handle? (cs : List Char) : Option (List Char × List Char) :=
  match cs with
  | '!' :: r =>
    let name := r.takeWhile isNameChar
    match r.drop name.length with
    | '!' :: rest => some ('!' :: name ++ ['!'], rest)
    | rest => if name.isEmpty then some (['!'], rest) else none
  | _ => none

/-- The token of a directive on a line, without its percent sign, and what is left of the line.
The early edition knows two versions and no directives but two. -/
def directiveOn? (e : Edition) (line : List Char) : Option (Token × List Char) := do
  let name := line.takeWhile isNameChar
  let rest := line.drop name.length
  if name.isEmpty ∨ !e.endsWord rest.head? then none
  else if name = "YAML".toList then
    let v ← version? (rest.dropWhile isGap)
    if e = .early ∧ (v.1 ≠ 1 ∨ (v.2.1 ≠ 1 ∧ v.2.1 ≠ 2)) then none
    else some (.directive "YAML", v.2.2)
  else if name = "TAG".toList then
    let h ← handle? (rest.dropWhile isGap)
    let address := (h.2.dropWhile isGap).takeWhile isAddressChar
    let left := (h.2.dropWhile isGap).drop address.length
    if h.2.head?.any isGap ∧ !address.isEmpty ∧ e.endsWord left.head? then
      some (.directive (String.ofList h.1), left)
    else none
  else if e = .late then some (.directive "", [])
  else none

/-- A directive. There is nothing else on its line but a comment. -/
def directive (s : Scanner) : Option Scanner := do
  let s ← s.clear
  let line := s.cursor.rest.takeWhile fun c => !s.edition.isBreak c
  let d ← directiveOn? s.edition (line.drop 1)
  let s := (s.consume (line.length - d.2.length)).emit d.1
  if s.isLate then
    let c ← s.cursor.lineEnd?
    some { s with cursor := c }
  else if d.2.dropWhile isGap |>.head?.all (· == '#') then
    some { s with cursor := s.cursor.passLine .early }
  else none

/-- The bracket or brace that opens a flow collection. In the late edition at most 255 are open at
a time. -/
def openFlow (t : Token) (s : Scanner) : Option Scanner := do
  let s := s.saveKey.rollOne
  let s := { s with key := none, outer := s.key :: s.outer, keyAllowed := true }
  let s := if t = .flowSequence then { s with pairs := none :: s.pairs }
    else { s with mappingOpened := true }
  if s.isLate ∧ 255 < s.outer.length then none
  else (← (s.consume 1).passMargin).emit t

/-- The bracket or brace that closes a flow collection. -/
def closeFlow (t : Token) (s : Scanner) : Option Scanner := do
  if s.isLate ∧ !s.inFlow then none
  else
    let s ← s.dropKey
    let s := if s.isLate ∧ t = .flowSequenceEnd then
        let p := s.endPair
        { p with pairs := p.pairs.drop 1 }
      else s
    let s := { s with key := s.outer.head?.join, outer := s.outer.drop 1, keyAllowed := false }
    let s ← (s.consume 1).passMargin
    some ((if s.inFlow then { s with adjacent := s.cursor.index } else s).emit t)

/-- The comma between the items of a flow collection. -/
def separator (s : Scanner) : Option Scanner := do
  let s := { ← s.dropKey with keyAllowed := true }
  let s := if s.isLate then s.endPair else s
  some ((← (s.consume 1).passMargin).emit .separator)

/-- The dash in front of an item of a block sequence. In the late edition nothing is further out
than the dash, and no tab stands between two of them. -/
def dash (s : Scanner) : Option Scanner := do
  if (s.inFlow ∧ s.isLate) ∨ (!s.inFlow ∧ !s.keyAllowed) then none
  else
    let s := (s.roll s.column s.count .blockSequence).consume 1
    let s ←
      if s.isLate then
        let m ← s.cursor.margin?
        let s := { s with cursor := m.cursor }
        if m.tabs ∧ s.cursor.next = some '-' ∧ s.edition.endsWord s.cursor.rest[1]? then none
        else if s.cursor.next.any fun c => s.edition.isBreak c || isFlowMark c then some s.rollOne
        else some s
      else some s
    some ({ ← s.dropKey with keyAllowed := true }.emit .entry)

/-- The blanks, line breaks and comments behind a question mark, in the late edition. -/
def passSpaces : Nat → Scanner → Scanner
  | 0, s => s
  | n + 1, s =>
    match s.cursor.next with
    | none => s
    | some c =>
      if c = ' ' then passSpaces n { s with cursor := s.cursor.pass 1 }
      else if c = '#' then passSpaces n { s with cursor := s.cursor.passLine .late }
      else if Edition.late.isBreak c then passSpaces n s.newLine
      else s

/-- The question mark in front of a key. -/
def question (s : Scanner) : Option Scanner := do
  if !s.inFlow ∧ !s.keyAllowed then none
  else
    let s := s.roll s.column s.count .blockMapping
    let s := { ← s.dropKey with
      keyAllowed := !s.inFlow, mappingOpened := s.mappingOpened || s.inFlow }
    let s := s.consume 1
    if s.isLate then
      let t := passSpaces (s.cursor.rest.length + 1) s
      if t.cursor.index = s.cursor.index ∨ t.cursor.next = some '\t' then none
      else some (t.emit .key)
    else some (s.emit .key)

/-- Moves past the tab behind a colon, in the late edition. A tab does not do for a space before
what looks like a value. -/
def passColonTab (s : Scanner) : Option Scanner :=
  if s.isLate ∧ s.cursor.next = some '\t' then
    match s.cursor.margin? with
    | none => none
    | some m =>
      if !m.spaces ∧ m.cursor.next.any isNameChar then none else some { s with cursor := m.cursor }
  else some s

/-- The colon between a key and its value. The key is what began last, if that can be one, and
else it is empty. In the late edition a colon in a flow sequence makes a mapping of one member. -/
def colon (s : Scanner) : Option Scanner := do
  let place := s.cursor
  let single := s.isLate && !s.pairs.isEmpty && !s.mappingOpened
  let s := if single then { s with pairs := some s.outer.length :: s.pairs.drop 1 } else s
  let s ← (s.consume 1).passColonTab
  match s.key with
  | some k =>
    if single ∧ k.cursor.line < place.line then none
    else
      let s := s.insert k.number .key
      let s := if single then s.insert k.number .flowMapping else s
      let s := (s.roll k.cursor.column k.number .blockMapping).rollOne
      some ({ s with key := none, keyAllowed := false }.emit .value)
  | none =>
    let s := if single then s.emit .flowMapping else s
    if !s.inFlow ∧ !s.keyAllowed then none
    else
      let s := (s.roll place.column s.count .blockMapping).rollOne
      some ({ s with keyAllowed := !s.inFlow }.emit .value)

/-- Where a scalar stands. -/
def place (s : Scanner) : Place := ⟨s.edition, s.inFlow, s.indent⟩

/-- A plain scalar. -/
def plain (s : Scanner) : Option Scanner := do
  let s := { s.saveKey with keyAllowed := false }
  let s := if s.isLate then s.unindent else s
  let x ← s.place.plain? s.cursor
  some ({ s with cursor := x.2, keyAllowed := x.2.fresh }.emit (.scalar false x.1))

/-- Whether something may follow a quoted scalar on its last line, in the late edition. -/
def mayFollow (s : Scanner) (line : Nat) (c : Char) : Bool :=
  s.edition.isBreak c || (s.inFlow && ",]\x7d".toList.contains c) ||
    (c == ':' && (s.inFlow || line == s.cursor.line))

/-- A quoted scalar. -/
def quoted (q : Quote) (s : Scanner) : Option Scanner := do
  let s := { s.saveKey with keyAllowed := false }
  let x ← s.place.quoted? q s.cursor
  let line := s.cursor.line
  let s := { s with cursor := x.2 }
  if s.isLate then
    let s ← s.passMargin
    if s.cursor.next.all (s.mayFollow line) then
      let s ← s.pass
      some ({ s with adjacent := s.cursor.index }.emit (.scalar true x.1))
    else none
  else some (s.emit (.scalar true x.1))

/-- Whether a question mark in front of a text is a mark. -/
def isQuestion (s : Scanner) (r : List Char) : Bool :=
  s.edition.endsWord r.head? || (s.inFlow && !s.isLate)

/-- Whether a colon in front of a text is a mark. -/
def isColon (s : Scanner) (r : List Char) : Bool :=
  s.edition.endsWord r.head? ||
    (s.inFlow && (!s.isLate || r.head?.any isFlowMark || s.cursor.index == s.adjacent))

/-- Whether a colon in front of a text lacks a blank. -/
def isTight (s : Scanner) (r : List Char) : Bool :=
  s.isLate && s.inFlow && s.cursor.index != s.adjacent &&
    (r.head? == some '[' || r.head? == some '\x7b')

/-- Whether a character that is no other mark starts a plain scalar. The late edition is less
strict in flow collections. -/
def startsPlain (s : Scanner) (c : Char) : Bool :=
  if "*&!%@".toList.contains c || c.toNat == 0x60 then false
  else if c = '|' ∨ c = '>' then s.isLate && s.inFlow
  else if c = '#' ∨ isGap c then s.isLate
  else true

/-- Reads a token that starts with a character. -/
def token (c : Char) (r : List Char) (s : Scanner) : Option Scanner :=
  if c = '[' then s.openFlow .flowSequence
  else if c = '\x7b' then s.openFlow .flowMapping
  else if c = ']' then s.closeFlow .flowSequenceEnd
  else if c = '\x7d' then s.closeFlow .flowMappingEnd
  else if c = ',' then s.separator
  else if c = '-' ∧ s.edition.endsWord r.head? then s.dash
  else if c = '?' ∧ s.isQuestion r then s.question
  else if c = ':' ∧ s.isColon r then if s.isTight r then none else s.colon
  else
    match Quote.of? c with
    | some q => s.quoted q
    | none => if s.startsPlain c then s.plain else none

/-- Reads the next token. -/
def step (s : Scanner) : Option Scanner := do
  let s ← (← s.pass).dropStaleKeys
  let s := s.unroll s.column
  match s.cursor.rest with
  | [] => s.finish
  | c :: r =>
    let front := s.cursor.column == 0
    if front ∧ c = '%' then s.directive
    else if front ∧ s.edition.isTriple '-' (c :: r) then s.documentMark .documentStart
    else if front ∧ s.edition.isTriple '.' (c :: r) then s.documentMark .documentEnd
    else if s.isLate ∧ s.column < s.indent then none
    else s.token c r

/-- The tokens from a state on. The number bounds the steps. -/
def run : Nat → Scanner → List Token
  | 0, s => s.breakOff
  | n + 1, s =>
    match s.step with
    | none => s.breakOff
    | some t => if t.finished then t.tokens.reverse else run n t

end Scanner

/-- A character that may be in a text of the early edition. -/
def isPrintable (c : Char) : Bool :=
  let n := c.toNat
  n == 0x09 || n == 0x0A || n == 0x0D || (0x20 ≤ n && n ≤ 0x7E) || n == 0x85 ||
    (0xA0 ≤ n && n ≤ 0xD7FF) || (0xE000 ≤ n && n ≤ 0xFFFD) || 0x10000 ≤ n

/-- The tokens of a text. A text of the early edition has printable characters only; one of the
late edition ends at its first zero and may have a byte order mark in front. -/
def tokens (e : Edition) (text : String) : List Token :=
  let cs := text.toList
  let cs :=
    match e with
    | .early => cs
    | .late => (if cs.head?.any isOrderMark then cs.drop 1 else cs).takeWhile (·.toNat != 0)
  if e = .early ∧ !cs.all isPrintable then [.broken]
  else Scanner.run (cs.length + 2) (Scanner.start e cs)

end AccessGateway.Yaml
