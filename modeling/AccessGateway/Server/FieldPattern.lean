import AccessGateway.Text.Alphanumeric
import AccessGateway.Text.Ascii

/-
  Patterns for the values of fields. A pattern is read from left to right: alternatives, groups,
  classes of characters in brackets, escapes and repetitions. What a pattern may not hold is a
  repetition of nothing, a group or class that is not closed, a reference back to a group, a
  look at what stands around, or a class, a boundary or a letter case that goes beyond ASCII. A
  closing brace ends the field, so a repetition with a count is never complete.
-/

namespace AccessGateway.FieldPattern

/-- What is in force while a pattern is read: whether it is about characters of every script,
whether letter case counts, and whether blanks are passed over. -/
structure Flags where
  wide : Bool
  caseless : Bool
  spaced : Bool

/-- What is in force at the start of a pattern. -/
def Flags.start : Flags := ⟨true, false, false⟩

/-- Whether a character may be asked for by itself. -/
def Flags.allowsLetter (f : Flags) : Bool := !(f.wide && f.caseless)

/-- What stands behind a backslash. -/
inductive Escape where
  | letter (c : Char)
  | shorthand (negated : Bool)
  | boundary
  | anchor

/-- The pattern from its next part on. Where blanks are passed over, so is a comment. -/
def skip (f : Flags) : List Char → List Char
  | [] => []
  | c :: r =>
    if !f.spaced then c :: r
    else if c.isWhitespace then skip f r
    else if c = '#' then skipComment f r
    else c :: r
where
  /-- The pattern behind the comment that has begun. -/
  skipComment (f : Flags) : List Char → List Char
    | [] => []
    | c :: r => if c = '\n' then skip f r else skipComment f r

/-- The character with the number that so many hexadecimal digits write, and what follows. -/
def numbered? (size : Nat) (cs : List Char) : Option (Escape × List Char) :=
  if cs.length < size then none
  else do
    let ds ← (cs.take size).mapM Ascii.hexValue?
    let n := ds.foldl (fun n d => 16 * n + d) 0
    if n.isValidChar then some (.letter (Char.ofNat n), cs.drop size) else none

/-- What the characters behind a backslash stand for, and what follows. -/
def escape? : List Char → Option (Escape × List Char)
  | [] => none
  | c :: r =>
    if c = 'x' then numbered? 2 r
    else if c = 'u' then numbered? 4 r
    else if c = 'U' then numbered? 8 r
    else if c = 'd' ∨ c = 's' ∨ c = 'w' then some (.shorthand false, r)
    else if c = 'D' ∨ c = 'S' ∨ c = 'W' then some (.shorthand true, r)
    else if c = 'A' ∨ c = 'z' then some (.anchor, r)
    else if c = 'b' ∨ c = 'B' ∨ c = '<' ∨ c = '>' then some (.boundary, r)
    else if c = 'a' then some (.letter (Char.ofNat 7), r)
    else if c = 't' then some (.letter '\t', r)
    else if c = 'n' then some (.letter '\n', r)
    else if c = 'v' then some (.letter (Char.ofNat 11), r)
    else if c = 'f' then some (.letter (Char.ofNat 12), r)
    else if c = 'r' then some (.letter '\r', r)
    else if c.toNat < 0x80 ∧ !c.isAlphanum then some (.letter c, r)
    else none

/-- Whether what an escape stands for may be asked for. -/
def Escape.isAllowed (f : Flags) : Escape → Bool
  | letter _ => f.allowsLetter
  | shorthand negated => !f.wide && !negated
  | boundary => !f.wide
  | anchor => true

/-- The names of classes between colons. -/
def classNames : List String := [
  "alnum", "alpha", "ascii", "blank", "cntrl", "digit", "graph", "lower", "print", "punct",
  "space", "upper", "word", "xdigit"]

/-- What follows a class by its name, from behind its opening bracket on. -/
def namedClass? : List Char → Option (List Char)
  | ':' :: r =>
    let s := if r.head? = some '^' then r.drop 1 else r
    let name := s.takeWhile (· != ':')
    match s.drop name.length with
    | ':' :: ']' :: rest =>
      if classNames.contains (String.ofList name) then some rest else none
    | _ => none
  | _ => none

/-- The character that a member of a class is, if it is one by itself, and what follows. -/
def member? (f : Flags) : List Char → Option (Option Char × List Char)
  | [] => none
  | '\\' :: r =>
    match escape? r with
    | some (.letter c, s) => some (some c, s)
    | some (.shorthand negated, s) => if f.wide || negated then none else some (none, s)
    | _ => none
  | c :: r => some (some c, r)

/-- What follows a member of a class or a range of members. -/
def range? (f : Flags) (cs : List Char) : Option (List Char) :=
  match member? f cs with
  | none => none
  | some (low, r) =>
    match skip f r with
    | [] => none
    | '-' :: s =>
      match skip f s with
      | [] => none
      | ']' :: _ => some ('-' :: s)
      | '-' :: _ => some ('-' :: s)
      | t =>
        match low, member? f t with
        | some a, some (some b, rest) => if a ≤ b then some rest else none
        | _, _ => none
    | s => some s

mutual

/-- What follows a class, from behind its opening bracket on. -/
def class? : Nat → Flags → List Char → Option (List Char)
  | 0, _, _ => none
  | n + 1, f, cs =>
    let inner := skip f cs
    let negated := inner.head? = some '^'
    let first := if negated then skip f (inner.drop 1) else inner
    let dashes := first.takeWhile (· == '-')
    let rest := first.drop dashes.length
    if !f.allowsLetter ∨ (negated ∧ !f.wide) then none
    else
      match dashes, rest with
      | [], ']' :: r => members? n f r
      | _, r => members? n f r

/-- What follows the members of a class and the bracket that closes it. -/
def members? : Nat → Flags → List Char → Option (List Char)
  | 0, _, _ => none
  | n + 1, f, cs =>
    match skip f cs with
    | [] => none
    | ']' :: r => some r
    | '[' :: r =>
      match namedClass? r with
      | some s => members? n f s
      | none => (class? n f r).bind (members? n f)
    | '&' :: '&' :: r => members? n f r
    | '-' :: '-' :: r => members? n f r
    | '~' :: '~' :: r => members? n f r
    | r => (range? f r).bind (members? n f)

end

/-- The letters that turn something on or off. -/
def flagLetters : List Char := "imsUuRx".toList

/-- What is in force with some letters turned on or off. -/
def Flags.turn (f : Flags) (value : Bool) (letters : List Char) : Flags :=
  { wide := if letters.contains 'u' then value else f.wide
    caseless := if letters.contains 'i' then value else f.caseless
    spaced := if letters.contains 'x' then value else f.spaced }

/-- What is in force behind a list of letters, some of them behind a dash. No letter stands twice,
and the dash is not the last. -/
def Flags.change? (f : Flags) (letters : List Char) : Option Flags :=
  let on := letters.takeWhile (· != '-')
  let off := letters.drop on.length
  if !(letters.all fun c => c = '-' ∨ flagLetters.contains c) ∨ !decide letters.Nodup ∨
      off = ['-'] then none
  else some ((f.turn true on).turn false off)

/-- Whether a text is the name of a group. -/
def isGroupName : List Char → Bool
  | [] => false
  | c :: r =>
    (c == '_' || (isAlphanumeric c && !c.isDigit)) &&
      r.all fun d => isAlphanumeric d || "_.[]".toList.contains d

/-- How a group begins. -/
inductive Opening where
  /-- The group changes what is in force inside of it, and may have a name. -/
  | group (inside : Flags) (name : Option String)
  /-- There is no group: what is in force changes from here on. -/
  | change (after : Flags)

/-- How a group begins, from behind its opening parenthesis on, and what follows. -/
def opening? (f : Flags) (cs : List Char) : Option (Opening × List Char) :=
  match skip f cs with
  | '?' :: 'P' :: '<' :: r => name r
  | '?' :: '<' :: '=' :: _ => none
  | '?' :: '<' :: '!' :: _ => none
  | '?' :: '<' :: r => name r
  | '?' :: r =>
    let letters := r.takeWhile fun c => c != ':' && c != ')'
    match f.change? letters, r.drop letters.length with
    | some g, ':' :: s => some (.group g none, s)
    | some g, ')' :: s => if letters.isEmpty then none else some (.change g, s)
    | _, _ => none
  | r => some (.group f none, r)
where
  /-- A group with the name that begins here. -/
  name (r : List Char) : Option (Opening × List Char) :=
    let name := r.takeWhile (· != '>')
    match r.drop name.length with
    | '>' :: s =>
      if isGroupName name then some (.group f (some (String.ofList name)), s) else none
    | _ => none

/-- The pattern behind the mark that may follow a repetition. -/
def skipLazy (cs : List Char) : List Char := if cs.head? = some '?' then cs.drop 1 else cs

/-- The names of the groups so far and what follows the alternatives at the front of a text, which
go on up to a closing parenthesis or the end. The flag says whether there is something to
repeat; the number bounds the steps. -/
def alternatives? : Nat → Flags → Bool → List String → List Char →
    Option (List String × List Char)
  | 0, _, _, _, _ => none
  | n + 1, f, operand, names, cs =>
    match skip f cs with
    | [] => some (names, [])
    | ')' :: r => some (names, ')' :: r)
    | '|' :: r => alternatives? n f false names r
    | '(' :: r =>
      match opening? f r with
      | none => none
      | some (.change g, s) => alternatives? n g false names s
      | some (.group g name, s) =>
        if name.any names.contains then none
        else
          match alternatives? n g false (name.toList ++ names) s with
          | some (names, ')' :: rest) => alternatives? n f true names rest
          | _ => none
    | '[' :: r => (class? n f r).bind (alternatives? n f true names)
    | '\\' :: r =>
      match escape? r with
      | none => none
      | some (e, s) => if e.isAllowed f then alternatives? n f true names s else none
    | c :: r =>
      if c = '?' ∨ c = '*' ∨ c = '+' then
        if operand then alternatives? n f true names (skipLazy r) else none
      else if c = '\x7b' then none
      else if c = '.' then if f.wide then alternatives? n f true names r else none
      else if c = '^' ∨ c = '$' then alternatives? n f true names r
      else if f.allowsLetter then alternatives? n f true names r
      else none

/-- Whether a text is a pattern. -/
def isPattern (cs : List Char) : Bool :=
  match alternatives? (cs.length + 1) Flags.start false [] cs with
  | some (_, []) => true
  | _ => false

end AccessGateway.FieldPattern
