import AccessGateway.Settings.Literal
import AccessGateway.Settings.Value
import AccessGateway.Text.Split

/-
  Settings from environment variables. The name of a variable says where its value belongs:
  behind the mark that all of them share, two underscores stand between the levels. Letter case
  does not count.
-/

namespace AccessGateway

/-- The variables of the environment in order. -/
abbrev Environment := List (String × String)

namespace Environment

/-- What the names of settings start with. -/
def mark : String := "GATEKEEPER__"

/-- The value of a variable. -/
def get? (env : Environment) (name : String) : Option String := Entries.get? name env

/-- The text with a point for every two underscores. -/
def pointed : List Char → List Char
  | '_' :: '_' :: r => '.' :: pointed r
  | c :: r => c :: pointed r
  | [] => []

/-- The levels that a variable names, the outermost first, if it names a setting. -/
def levels? (name : String) : Option (List String) :=
  let cs := trim name.toList
  let n := mark.toList.length
  if Ascii.sameIgnoringCase (cs.take n) mark.toList then
    let levels := pieces '.' (trim (pointed (cs.drop n)))
    if levels.any List.isEmpty then none
    else some (levels.map fun l => Ascii.lower (String.ofList l))
  else none

/-- The settings of the environment. Of two variables that disagree the later counts. -/
def settings (env : Environment) : Setting :=
  env.foldl (fun s e =>
    match levels? e.1 with
    | none => s
    | some levels => s.overlay (Setting.nested levels (Literal.read e.2))) (.object [])

end Environment

end AccessGateway
