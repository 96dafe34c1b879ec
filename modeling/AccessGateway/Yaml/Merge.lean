import AccessGateway.Yaml.Node
import AccessGateway.Yaml.Scalar

/-
  Merge keys. A member with the plain key `<<` stands for the members of its value, which is a
  mapping or a sequence of such values. A member that is written out hides one with the same key
  that is merged; among the merged ones the first of a sequence and the last of several merge keys
  hide the others. Written out, no key may be repeated.
-/

namespace AccessGateway.Yaml

namespace Node

/-- Whether a key stands for the members of its value. -/
def isMergeKey : Node → Bool
  | .plain s => s == "<<"
  | _ => false

/-- The members, and behind them those of others whose key is not there yet. -/
def extend (members : List (Node × Option Node)) :
    List (Node × Option Node) → List (Node × Option Node)
  | [] => members
  | (k, x) :: r =>
    if k.characters?.isSome ∧ members.any fun m => m.1.characters? == k.characters? then
      extend members r
    else extend (members ++ [(k, x)]) r

/-- The members, if each has a value. -/
def settled? : List (Node × Option Node) → Option (List (Node × Node))
  | [] => some []
  | (k, x) :: r => do some ((k, ← x) :: (← settled? r))

mutual

/-- A node with the members that merge keys in it stand for. -/
def resolve? : Node → Option Node
  | .plain s => some (.plain s)
  | .quoted s => some (.quoted s)
  | .sequence items => (resolveItems? items).map .sequence
  | .mapping members =>
    let own := ownMembers members
    match mergedMembers? members with
    | none => none
    | some merged =>
      if (own.filterMap fun m => m.1.characters?).Nodup then
        (settled? (extend own merged)).map .mapping
      else none

/-- A list of nodes with the members that merge keys in them stand for. -/
def resolveItems? : List Node → Option (List Node)
  | [] => some []
  | x :: r => do some ((← resolve? x) :: (← resolveItems? r))

/-- The members of a mapping that are written out. -/
def ownMembers : List (Node × Node) → List (Node × Option Node)
  | [] => []
  | (k, x) :: r => if k.isMergeKey then ownMembers r else (k, resolve? x) :: ownMembers r

/-- The members that the merge keys of a mapping stand for, those of the last key first. -/
def mergedMembers? : List (Node × Node) → Option (List (Node × Option Node))
  | [] => some []
  | (k, x) :: r =>
    if k.isMergeKey then do
      let behind ← mergedMembers? r
      some (behind ++ (← brought? x))
    else mergedMembers? r

/-- The members that the value of a merge key brings. Null brings none. -/
def brought? : Node → Option (List (Node × Option Node))
  | .plain s => if Scalar.isLenientNull s then some [] else none
  | .quoted _ => none
  | .sequence items => broughtByItems? items
  | .mapping members => (mergedMembers? members).map fun merged => ownMembers members ++ merged

/-- The members that the items of a sequence bring. -/
def broughtByItems? : List Node → Option (List (Node × Option Node))
  | [] => some []
  | x :: r => do some ((← brought? x) ++ (← broughtByItems? r))

end

end Node

end AccessGateway.Yaml
