import AccessGateway.Document.Basic

/-
  YAML documents as trees. A node keeps of a scalar its characters and whether it was quoted; what
  an unquoted scalar means is up to who reads it. A mapping keeps its members as they are written,
  repeated ones too, and a key is a node like any other.
-/

namespace AccessGateway.Yaml

/-- A node of a YAML document. -/
inductive Node where
  | plain (s : String)
  | quoted (s : String)
  | sequence (items : List Node)
  | mapping (members : List (Node × Node))
deriving Inhabited

namespace Node

/-- The node of a place where nothing stands. -/
def nothing : Node := .plain ""

/-- The characters of a scalar. -/
def characters? : Node → Option String
  | .plain s => some s
  | .quoted s => some s
  | _ => none

/-- The name that a node is as a key. A key that means null is no name. -/
def name? (meaning : String → Json) : Node → Option String
  | .plain s =>
    match meaning s with
    | .null => none
    | _ => some s
  | k => k.characters?

mutual

/-- The document of a node, given the value of an unquoted scalar. -/
def toDocument (meaning : String → Json) : Node → Document
  | .plain s => .plain s (meaning s)
  | .quoted s => .text (some s)
  | .sequence items => .list (itemDocuments meaning items) true
  | .mapping members => .object (memberDocuments meaning members) true

/-- The documents of a list of nodes. -/
def itemDocuments (meaning : String → Json) : List Node → List Document
  | [] => []
  | x :: r => toDocument meaning x :: itemDocuments meaning r

/-- The members of the document of a mapping. -/
def memberDocuments (meaning : String → Json) :
    List (Node × Node) → List (Option String × Document)
  | [] => []
  | (k, x) :: r => (k.name? meaning, toDocument meaning x) :: memberDocuments meaning r

end

mutual

/-- How deep sequences and mappings are nested in a node. -/
def depth : Node → Nat
  | .plain _ => 0
  | .quoted _ => 0
  | .sequence items => depthItems items + 1
  | .mapping members => depthMembers members + 1

/-- How deep sequences and mappings are nested in a list of nodes. -/
def depthItems : List Node → Nat
  | [] => 0
  | x :: r => max (depth x) (depthItems r)

/-- How deep sequences and mappings are nested in the members of a mapping. -/
def depthMembers : List (Node × Node) → Nat
  | [] => 0
  | (_, x) :: r => max (depth x) (depthMembers r)

end

end Node

end AccessGateway.Yaml
