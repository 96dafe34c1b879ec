import AccessGateway.Text.Alphanumeric
import AccessGateway.Text.Utf8

/-
  Patterns of paths. A pattern is a list of parts: letters that stand for themselves, parameters
  inside of a segment, and, as its last part, the rest of a path. A parameter is written `{name}`,
  the rest of a path `{*name}`, and a literal brace twice; `:name` is another way to write a
  parameter. Names play no part in matching. `check` says whether the parts of a pattern may
  stand as they do: one parameter in a segment, and the rest of a path at the end.
-/

namespace AccessGateway

/-- A part of a pattern over an alphabet. -/
inductive Part (α : Type) where
  | letter (a : α)
  | parameter
  | rest
deriving DecidableEq, Repr

/-- A pattern of paths. -/
abbrev Pattern := List (Part Char)

/-- Why a text is no pattern, or may not stand beside the patterns there are. -/
inductive PatternError where
  | invalidName
  | twoParameters
  | restNotLast
  | conflict
deriving DecidableEq, Repr

/-- The text of a pattern error. -/
def PatternError.message : PatternError → String
  | invalidName => "Parameters must be registered with a valid name"
  | twoParameters => "Only one parameter is allowed per path segment"
  | restNotLast => "Catch-all parameters are only allowed at the end of a route"
  | conflict => "Insertion failed due to conflict"

namespace Part

variable {α : Type}

/-- Whether a part is a letter. -/
def isLetter : Part α → Bool
  | letter _ => true
  | _ => false

/-- The letters at the front of a list of parts. -/
def front : List (Part α) → List α
  | .letter a :: r => a :: front r
  | _ => []

/-- A list of parts from its first parameter on. -/
def behindFront (ps : List (Part α)) : List (Part α) := ps.dropWhile isLetter

/-- The parts of a segment, its closing slash included. -/
def segment [DecidableEq α] (slash : α) : List (Part α) → List (Part α)
  | [] => []
  | p :: r => if p = .letter slash then [p] else p :: segment slash r

/-- The parts behind a segment and its closing slash. -/
def behindSegment [DecidableEq α] (slash : α) : List (Part α) → List (Part α)
  | [] => []
  | p :: r => if p = .letter slash then r else behindSegment slash r

/-- Whether parts may stand as they do. The number bounds the steps. -/
def check [DecidableEq α] (slash : α) : Nat → List (Part α) → Except PatternError Unit
  | 0, _ => .ok ()
  | n + 1, ps =>
    match behindFront ps with
    | .rest :: r => if r.isEmpty then .ok () else .error .restNotLast
    | .parameter :: r =>
      if (segment slash r).all isLetter then check slash n (behindSegment slash r)
      else .error .twoParameters
    | _ => .ok ()

end Part

namespace Pattern

/-- A character of the name of a parameter that is written with a colon. -/
def isNameChar (c : Char) : Bool := isAlphanumeric c || c == '_'

/-- An opening brace. -/
def opening : Char := Char.ofNat 0x7B

/-- A closing brace. -/
def closing : Char := Char.ofNat 0x7D

/-- The text with every `:name` written in braces. The flag says whether a name goes on here. -/
def bracesForColons : Bool → List Char → List Char
  | false, [] => []
  | true, [] => [closing]
  | inName, c :: r =>
    if c = ':' then
      if inName then closing :: opening :: bracesForColons true r
      else opening :: bracesForColons true r
    else if inName then
      if isNameChar c then c :: bracesForColons true r
      else closing :: c :: bracesForColons false r
    else c :: bracesForColons false r

/-- A character of a pattern, and whether it is a literal brace. -/
structure Glyph where
  char : Char
  literal : Bool
deriving DecidableEq

/-- Whether a character opens or closes a parameter. -/
def Glyph.isMark (g : Glyph) (c : Char) : Bool := g.char == c && !g.literal

/-- The number of octets of a character. -/
def Glyph.size (g : Glyph) : Nat := Utf8.size [g.char]

/-- The text with every pair of equal braces as one literal brace. -/
def glyphs : List Char → List Glyph
  | [] => []
  | [c] => [⟨c, false⟩]
  | c :: d :: r =>
    if (c = opening ∨ c = closing) ∧ c = d then ⟨c, true⟩ :: glyphs r
    else ⟨c, false⟩ :: glyphs (d :: r)

/-- What a name in braces says: whether it takes the rest of a path, the number of octets from
brace to brace, and what follows. -/
structure Name where
  takesRest : Bool
  size : Nat
  behind : List Glyph

/-- The name that goes on here, after so many octets. Behind its first character it holds no slash
and no asterisk, and an asterisk is not all of it. -/
def nameFrom? (takesRest : Bool) (size : Nat) : List Glyph → Option Name
  | [] => none
  | g :: r =>
    if g.isMark closing then
      if takesRest ∧ size = 1 then none else some ⟨takesRest, size + 2, r⟩
    else if g.char = '*' ∨ g.char = '/' then none
    else nameFrom? takesRest (size + g.size) r

/-- The name behind an opening brace. It is not empty. -/
def name? : List Glyph → Option Name
  | [] => none
  | g :: r => if g.char = closing then none else nameFrom? (g.char = '*') g.size r

/-- The characters with the one that stands so many octets further on marked as literal. -/
def markAt : Nat → List Glyph → List Glyph
  | _, [] => []
  | 0, g :: r => { g with literal := true } :: r
  | n, g :: r => if g.size ≤ n then g :: markAt (n - g.size) r else g :: r

/-- The number of octets that a parameter counts for, however long its name is. -/
def nominalSize : Nat := 3

/-- The characters behind a parameter. Where a literal brace stands is counted in octets, and a
brace right behind the parameter is counted from where the written parameter ends, so the mark
that it is literal falls on a later character if the name is long. -/
def behindParameter (n : Name) : List Glyph :=
  match n.behind with
  | g :: r =>
    if g.literal ∧ nominalSize < n.size then
      markAt (n.size - nominalSize) ({ g with literal := false } :: r)
    else g :: r
  | [] => []

/-- The parts of a pattern. The number bounds the steps. -/
def parts? : Nat → List Glyph → Option Pattern
  | _, [] => some []
  | 0, _ => none
  | n + 1, g :: r =>
    if g.isMark closing then none
    else if g.isMark opening then
      match name? r with
      | none => none
      | some x =>
        if x.takesRest then (parts? n x.behind).map (.rest :: ·)
        else (parts? n (behindParameter x)).map (.parameter :: ·)
    else (parts? n r).map (.letter g.char :: ·)

/-- The pattern that a text writes. -/
def parse (s : String) : Except PatternError Pattern :=
  let gs := glyphs (bracesForColons false s.toList)
  match parts? gs.length gs with
  | none => .error .invalidName
  | some p => .ok p

end Pattern

end AccessGateway
