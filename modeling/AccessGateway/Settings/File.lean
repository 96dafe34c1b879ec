import AccessGateway.Files
import AccessGateway.Settings.Value
import AccessGateway.Yaml.Compose

/-
  Settings from a YAML file. A file that does not exist says nothing; one that is not text, or no
  YAML, or whose root is not a mapping, is malformed.
-/

namespace AccessGateway

namespace Setting

/-- What an unquoted scalar is as a setting. -/
def ofScalar : Yaml.Scalar → Setting
  | .null => .null
  | .bool b => .bool b
  | .integer n => .integer n
  | .decimal x => .ofDecimal x
  | .text s => .text s

mutual

/-- What a node is as a setting, if every key in it is a scalar. Of two members with one name the
later stays. -/
def ofNode? : Yaml.Node → Option Setting
  | .plain s => some (.ofScalar (.strict s))
  | .quoted s => some (.text s)
  | .sequence items => (ofNodes? items).map .list
  | .mapping members => (ofMemberNodes? members).map .ofMembers

/-- What a list of nodes is. -/
def ofNodes? : List Yaml.Node → Option (List Setting)
  | [] => some []
  | x :: r => do some ((← ofNode? x) :: (← ofNodes? r))

/-- What the members of a mapping are. -/
def ofMemberNodes? : List (Yaml.Node × Yaml.Node) → Option (List (String × Setting))
  | [] => some []
  | (k, x) :: r => do some ((← k.characters?, ← ofNode? x) :: (← ofMemberNodes? r))

end

end Setting

/-- How deep settings are nested at most. -/
def Yaml.greatestDepth : Nat := 128

/-- The settings that a YAML text writes. An empty document has none. -/
def Yaml.settings? (s : String) : Option Setting := do
  let node ← Yaml.parse? .early s
  if greatestDepth < node.depth then none
  else
    match node with
    | .plain "" => some (.object [])
    | .mapping members => Setting.ofNode? (.mapping members)
    | _ => none

/-- The settings of a file. -/
def Files.settings (files : Files) (path : String) : Except Fault Setting :=
  match files.readText path with
  | .ok s =>
    match Yaml.settings? s with
    | some v => .ok v
    | Option.none => .error .malformed
  | .error .notText => .error .malformed
  | .error _ => .ok (.object [])

end AccessGateway
