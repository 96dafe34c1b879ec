import AccessGateway.Yaml.Cursor
import AccessGateway.Yaml.Scalar

/-
  The text of a scalar. It is a row of words with room between them: blanks stay as they are, a
  line break becomes a space, and of several breaks all but the first stay. A plain scalar ends
  where a mark or a line with less indentation follows, a quoted one at its quote.
-/

namespace AccessGateway.Yaml

/-- Where a scalar stands. -/
structure Place where
  edition : Edition
  /-- Whether it is in a flow collection. -/
  flow : Bool
  /-- The indentation of what is around it. -/
  indent : Int

/-- The room between two words of a scalar, each part last character first. -/
structure Room where
  /-- The blanks on the line of the first word. -/
  blanks : List Char
  /-- The line breaks. -/
  breaks : List Char

/-- What room is left as between two words. A break that is escaped leaves nothing. -/
def Room.text (escaped : Bool) (room : Room) : List Char :=
  if escaped then room.breaks.reverse
  else
    match room.breaks.reverse with
    | [] => room.blanks.reverse
    | b :: more =>
      if b ≠ '\n' then b :: more
      else if more.isEmpty then [' ']
      else more

/-- The room at a place. The function says where to go on from a tab on a further line; the flag
says whether this is a further line already. -/
def roomFrom (e : Edition) (tab : Cursor → Option Cursor) :
    Nat → Bool → Room → Cursor → Option (Room × Cursor)
  | 0, _, _, _ => none
  | n + 1, further, room, c =>
    match c.next with
    | none => some (room, c)
    | some x =>
      if e.isBreak x then
        roomFrom e tab n true ⟨room.blanks, Edition.breakValue x :: room.breaks⟩ c.newLine
      else if !isGap x then some (room, c)
      else if !further then roomFrom e tab n false ⟨x :: room.blanks, room.breaks⟩ (c.pass 1)
      else if x = '\t' then
        match tab c with
        | none => none
        | some d => roomFrom e tab n true room d
      else roomFrom e tab n true room (c.pass 1)

/-- The room at a place; the flag says whether an escaped break is just behind. -/
def room? (e : Edition) (tab : Cursor → Option Cursor) (escaped : Bool) (c : Cursor) :
    Option (Room × Cursor) :=
  roomFrom e tab (c.rest.length + 1) escaped ⟨[], []⟩ c

namespace Place

/-- Whether a plain scalar ends before a text that starts with no blank. -/
def endsPlain (p : Place) : List Char → Bool
  | [] => true
  | c :: r =>
    (c == ':' && (p.edition.endsWord r.head? ||
      (p.flow && p.edition == .late && r.head?.any isFlowMark))) ||
    (p.flow && isFlowMark c)

/-- Whether a colon at the front of a text has no place in a plain scalar. -/
def strayColon (p : Place) : List Char → Bool
  | ':' :: c :: _ => p.edition == .early && p.flow && (c == '?' || isFlowMark c)
  | _ => false

/-- The word of a plain scalar at the front of a text. -/
def word? (p : Place) : List Char → Option (List Char)
  | [] => some []
  | c :: r =>
    if p.edition.endsWord (some c) then some []
    else if p.strayColon (c :: r) then none
    else if p.endsPlain (c :: r) then some []
    else (p.word? r).map (c :: ·)

/-- Where a plain scalar goes on from a tab on a further line. A tab in the indentation is refused,
in the late edition only on a line that is not void. -/
def plainTab (p : Place) (c : Cursor) : Option Cursor :=
  if p.indent < c.column then some (c.pass 1)
  else
    match p.edition with
    | .early => none
    | .late => c.lineEnd?

/-- Whether a plain scalar is over before a word that would belong to it. -/
def isOver (p : Place) (c : Cursor) : Bool :=
  c.next == some '#' ||
    ((if p.edition = .early then c.column == 0 else c.fresh) && p.edition.isDocumentMark c.rest)

/-- Whether a dash stands alone in a flow collection. -/
def loneDash (p : Place) : List Char → Bool
  | '-' :: c :: _ => p.edition == .late && p.flow && isFlowMark c
  | _ => false

/-- The plain scalar at a place, and the place behind it and the room that follows. The first
number bounds the steps; the text so far is last character first. -/
def plainFrom (p : Place) : Nat → List Char → List Char → Cursor → Option (List Char × Cursor)
  | 0, _, _, _ => none
  | n + 1, soFar, room, c =>
    if p.isOver c then some (soFar, c)
    else if p.loneDash c.rest then none
    else
      match p.word? c.rest with
      | none => none
      | some w =>
        let text := if w.isEmpty then soFar else w.reverse ++ room.reverse ++ soFar
        let d := if w.isEmpty then c else c.consume w.length
        if d.rest.isEmpty ∨ !p.edition.endsWord d.next then some (text, d)
        else
          match room? p.edition p.plainTab false d with
          | none => none
          | some (r, f) =>
            if !p.flow ∧ (f.column : Int) ≤ p.indent then some (text, f)
            else plainFrom p n text (r.text false) f

/-- The plain scalar at a place. There is none without a character. -/
def plain? (p : Place) (c : Cursor) : Option (String × Cursor) :=
  if p.edition = .late ∧ p.flow ∧ (c.column : Int) ≤ p.indent then none
  else
    match p.plainFrom (c.rest.length + 1) [] [] c with
    | none => none
    | some (text, d) => if text.isEmpty then none else some (String.ofList text.reverse, d)

end Place

/-- The quote around a scalar. -/
inductive Quote where
  | single
  | double
deriving DecidableEq

namespace Quote

/-- The character of a quote. -/
def char : Quote → Char
  | single => Char.ofNat 0x27
  | double => Char.ofNat 0x22

/-- The quote of a character. -/
def of? (c : Char) : Option Quote :=
  if c = single.char then some single else if c = double.char then some double else none

end Quote

/-- The character of a number in hexadecimal digits, as many as are asked for. -/
def numbered? (digits : Nat) (cs : List Char) : Option Char := do
  if cs.length < digits then none
  let n ← digitsValue? 16 (cs.take digits)
  if n < 0xD800 ∨ (0xDFFF < n ∧ n < 0x110000) then some (Char.ofNat n) else none

/-- The characters that a letter behind a backslash stands for. -/
def escapes : List (Char × Nat) := [
  ('0', 0x00), ('a', 0x07), ('b', 0x08), ('t', 0x09), ('\t', 0x09), ('n', 0x0A), ('v', 0x0B),
  ('f', 0x0C), ('r', 0x0D), ('e', 0x1B), (' ', 0x20), (Quote.double.char, 0x22), ('/', 0x2F),
  ('\\', 0x5C), ('N', 0x85), ('_', 0xA0), ('L', 0x2028), ('P', 0x2029)]

/-- The numbers of hexadecimal digits behind a letter. -/
def escapeDigits : List (Char × Nat) := [('x', 2), ('u', 4), ('U', 8)]

/-- The character that is written behind a backslash, and the number of characters it takes. -/
def escape? : List Char → Option (Char × Nat)
  | [] => none
  | c :: r =>
    match escapes.lookup c, escapeDigits.lookup c with
    | some n, _ => some (Char.ofNat n, 1)
    | none, some k => (numbered? k r).map fun d => (d, k + 1)
    | none, none => none

namespace Place

/-- The word of a quoted scalar at a place. The last part of the answer says whether an escaped
line break ends it. -/
def quotedWord (p : Place) (q : Quote) :
    Nat → List Char → Cursor → Option (List Char × Cursor × Bool)
  | 0, _, _ => none
  | n + 1, soFar, c =>
    match c.rest with
    | [] => some (soFar, c, false)
    | x :: r =>
      if p.edition.endsWord (some x) then some (soFar, c, false)
      else if x = q.char then
        if q = .single ∧ r.head? = some x then quotedWord p q n (x :: soFar) (c.consume 2)
        else some (soFar, c, false)
      else if q = .double ∧ x = '\\' then
        if r.head?.any p.edition.isBreak then some (soFar, (c.consume 1).newLine, true)
        else
          match escape? r with
          | none => none
          | some (d, k) => quotedWord p q n (d :: soFar) (c.consume (k + 1))
      else quotedWord p q n (x :: soFar) (c.consume 1)

/-- Where a quoted scalar goes on from a tab on a further line. -/
def quotedTab (p : Place) (c : Cursor) : Option Cursor :=
  if p.edition = .late ∧ (c.column : Int) < p.indent then none else some (c.pass 1)

/-- The quoted scalar at a place behind its first quote, and the place behind its last one. The
first number bounds the steps; the text so far is last character first. -/
def quotedFrom (p : Place) (q : Quote) :
    Nat → List Char → Cursor → Option (List Char × Cursor)
  | 0, _, _ => none
  | n + 1, soFar, c =>
    if c.rest.isEmpty then none
    else if c.column = 0 ∧ p.edition.isDocumentMark c.rest then none
    else if p.edition = .late ∧ (c.column : Int) < p.indent then none
    else
      match p.quotedWord q (c.rest.length + 1) soFar c with
      | none => none
      | some (text, d, escaped) =>
        if d.next = some q.char then some (text, d.consume 1)
        else
          match room? p.edition p.quotedTab escaped d with
          | none => none
          | some (r, f) => quotedFrom p q n ((r.text escaped).reverse ++ text) f

/-- The quoted scalar at a place. -/
def quoted? (p : Place) (q : Quote) (c : Cursor) : Option (String × Cursor) :=
  match p.quotedFrom q (c.rest.length + 1) [] (c.consume 1) with
  | none => none
  | some (text, d) => some (String.ofList text.reverse, d)

end Place

end AccessGateway.Yaml
