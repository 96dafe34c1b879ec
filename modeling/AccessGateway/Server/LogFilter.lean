import AccessGateway.Decimal
import AccessGateway.Server.FieldPattern
import AccessGateway.Text.Blank
import AccessGateway.Text.Split

/-
  Filters of the log: directives with commas between them. A directive is a level, a target, or
  a span in brackets with or without a target in front of it; a target or a span may have a level
  of its own behind an equals sign. A span may ask for a field in braces, and the field for a
  value. What a directive is shows without the blanks around it, but its parts are taken from the
  same places of the text with the blanks, so a level is only a level if there are none.
-/

namespace AccessGateway.LogFilter

/-- The levels by name; by number they go from zero to five. -/
def levelNames : List String := ["off", "error", "warn", "info", "debug", "trace"]

/-- Whether a text is a level. -/
def isLevel (cs : List Char) : Bool :=
  let digits := if cs.head? = some '+' then cs.drop 1 else cs
  levelNames.contains (Ascii.lower (String.ofList cs)) ||
    (!digits.isEmpty && digits.all Char.isDigit && Ascii.decimalValue digits ≤ 5)

/-- Whether a text may stand behind an equals sign. -/
def isOptionalLevel (cs : List Char) : Bool := cs.isEmpty || isLevel cs

/-- Whether a text is a field: a name, and a value or a pattern for it behind an equals sign. -/
def isField (cs : List Char) : Bool :=
  match pieces '=' cs with
  | _ :: value :: _ => (Decimal.read? value).isSome || FieldPattern.isPattern value
  | _ => true

/-- A text whose characters are paired with those that stand at the same places with the blanks
in front. -/
abbrev Paired := List (Char × Char)

/-- Whether a text may stand behind a span. -/
def followsSpan (exact : Bool) : Paired → Bool
  | [] => true
  | c :: r => c.1 == '=' && exact && isOptionalLevel (r.map Prod.fst)

/-- Whether a text may stand behind the brace that opens a field. -/
def followsBrace (exact : Bool) (cs : Paired) : Bool :=
  let field := cs.takeWhile fun c => c.1 != '\x7d'
  match cs.drop (field.length + 1) with
  | (']', _) :: r => !field.isEmpty && isField (field.map Prod.snd) && followsSpan exact r
  | _ => false

/-- Whether a text may stand behind the bracket that opens a span. -/
def followsBracket (exact : Bool) : Paired → Bool
  | [] => false
  | c :: r =>
    if c.1 = ']' then followsSpan exact r
    else if c.1 = '\x7b' then followsBrace exact r
    else followsBracket exact r

/-- Whether a text may go on with a level or a target. -/
def followsTarget (exact : Bool) : Paired → Bool
  | [] => true
  | c :: r =>
    if c.1 = '=' then exact && isOptionalLevel (r.map Prod.fst)
    else if c.1 = '[' then followsBracket exact r
    else followsTarget exact r

/-- Whether a text is a directive. -/
def isDirective (cs : List Char) : Bool :=
  let shown := trim cs
  let exact := shown == cs
  match shown.zip cs with
  | [] => false
  | c :: r =>
    if c.1 = '[' then followsBracket exact r
    else if isAlphanumeric c.1 ∨ c.1 = '-' ∨ c.1 = ':' ∨ c.1 = '_' then followsTarget exact r
    else false

/-- Whether a text is a filter. -/
def isValid (s : String) : Bool :=
  ((pieces ',' s.toList).filter fun d => !d.isEmpty).all isDirective

end AccessGateway.LogFilter
