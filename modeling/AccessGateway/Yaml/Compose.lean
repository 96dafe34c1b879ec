import AccessGateway.Yaml.Node
import AccessGateway.Yaml.Tokens

/-
  From tokens to the one document of a text. Where a node is left out the empty plain scalar
  stands. In the late edition the key of a member may be left out too, and what follows the
  document is looked at only until it is clear whether there is another one.
-/

namespace AccessGateway.Yaml

/-- The tokens from the next part of a flow collection on. A separator is before all but the first
one. -/
def nextPart? (first : Bool) (ts : List Token) : Option (List Token) :=
  if first then some ts
  else
    match ts with
    | .separator :: r => some r
    | _ => none

mutual

/-- The node at the front of tokens, where a block collection may stand and where a sequence needs
no further indentation. -/
def node (e : Edition) : Nat → (block indentless : Bool) → List Token →
    Option (Node × List Token)
  | 0, _, _, _ => none
  | n + 1, block, indentless, ts =>
    match ts with
    | .scalar true s :: r => some (.quoted s, r)
    | .scalar false s :: r => some (.plain s, r)
    | .flowSequence :: r => (flowItems e n true r).map fun x => (.sequence x.1, x.2)
    | .flowMapping :: r => (flowMembers e n true r).map fun x => (.mapping x.1, x.2)
    | .blockSequence :: r =>
      if block then (blockItems e n r).map fun x => (.sequence x.1, x.2) else none
    | .blockMapping :: r =>
      if block then (blockMembers e n r).map fun x => (.mapping x.1, x.2) else none
    | .entry :: r =>
      if indentless then (plainItems e n (.entry :: r)).map fun x => (.sequence x.1, x.2)
      else none
    | _ => none

/-- The node at the front of tokens, or nothing if one of the given tokens comes next. -/
def nodeUnless (e : Edition) : Nat → List Token → (block indentless : Bool) → List Token →
    Option (Node × List Token)
  | 0, _, _, _, _ => none
  | n + 1, stops, block, indentless, ts =>
    if ts.head?.any stops.contains then some (.nothing, ts) else node e n block indentless ts

/-- The items of a block sequence up to its end. -/
def blockItems (e : Edition) : Nat → List Token → Option (List Node × List Token)
  | 0, _ => none
  | n + 1, ts =>
    match ts with
    | .blockEnd :: r => some ([], r)
    | .entry :: r => do
      let x ← nodeUnless e n [.entry, .blockEnd] true false r
      let y ← blockItems e n x.2
      some (x.1 :: y.1, y.2)
    | _ => none

/-- The items of a sequence without indentation, which ends before the first other token. -/
def plainItems (e : Edition) : Nat → List Token → Option (List Node × List Token)
  | 0, _ => none
  | n + 1, ts =>
    match ts with
    | .entry :: r => do
      let x ← nodeUnless e n [.entry, .key, .value, .blockEnd] true false r
      let y ← plainItems e n x.2
      some (x.1 :: y.1, y.2)
    | _ => some ([], ts)

/-- The value of a member, if there is one. -/
def valueUnless (e : Edition) : Nat → List Token → (block : Bool) → List Token →
    Option (Node × List Token)
  | 0, _, _, _ => none
  | n + 1, stops, block, ts =>
    match ts with
    | .value :: r => nodeUnless e n stops block block r
    | _ => some (.nothing, ts)

/-- The members of a block mapping up to its end. -/
def blockMembers (e : Edition) : Nat → List Token → Option (List (Node × Node) × List Token)
  | 0, _ => none
  | n + 1, ts => do
    let stops := [.key, .value, .blockEnd]
    let rest (k : Option (Node × List Token)) : Option (List (Node × Node) × List Token) := do
      let k ← k
      let v ← valueUnless e n stops true k.2
      let y ← blockMembers e n v.2
      some ((k.1, v.1) :: y.1, y.2)
    match ts with
    | .blockEnd :: r => some ([], r)
    | .key :: r => rest (nodeUnless e n stops true true r)
    | .value :: r => if e = .late then rest (some (.nothing, .value :: r)) else none
    | _ => none

/-- The items of a flow sequence up to its end. A key without anything behind it takes the token
that follows with it. -/
def flowItems (e : Edition) : Nat → (first : Bool) → List Token →
    Option (List Node × List Token)
  | 0, _, _ => none
  | n + 1, first, ts =>
    match ts with
    | .flowSequenceEnd :: r => some ([], r)
    | _ => do
      let ts ← nextPart? first ts
      match ts with
      | .flowSequenceEnd :: r => some ([], r)
      | .key :: r => do
        let k ←
          if r.head?.any [.value, .separator, .flowSequenceEnd].contains then
            some (.nothing, r.tail)
          else node e n false false r
        let v ← valueUnless e n [.separator, .flowSequenceEnd] false k.2
        let y ← flowItems e n false v.2
        some (.mapping [(k.1, v.1)] :: y.1, y.2)
      | _ => do
        let x ← node e n false false ts
        let y ← flowItems e n false x.2
        some (x.1 :: y.1, y.2)

/-- The members of a flow mapping up to its end. -/
def flowMembers (e : Edition) : Nat → (first : Bool) → List Token →
    Option (List (Node × Node) × List Token)
  | 0, _, _ => none
  | n + 1, first, ts =>
    match ts with
    | .flowMappingEnd :: r => some ([], r)
    | _ => do
      let ts ← nextPart? first ts
      let stops := [.separator, .flowMappingEnd]
      match ts with
      | .flowMappingEnd :: r => some ([], r)
      | .key :: r => do
        let k ← nodeUnless e n (.value :: stops) false false r
        let v ← valueUnless e n stops false k.2
        let y ← flowMembers e n false v.2
        some ((k.1, v.1) :: y.1, y.2)
      | .value :: _ => do
        if e = .early then none
        let v ← valueUnless e n stops false ts
        let y ← flowMembers e n false v.2
        some ((.nothing, v.1) :: y.1, y.2)
      | _ => do
        let k ← node e n false false ts
        let y ← flowMembers e n false k.2
        some ((k.1, .nothing) :: y.1, y.2)

end

/-- A token that starts a directive. -/
def Token.isDirective : Token → Bool
  | .directive _ => true
  | _ => false

/-- A token that starts a node. -/
def Token.startsNode : Token → Bool
  | .scalar _ _ => true
  | t => [.flowSequence, .flowMapping, .blockSequence, .blockMapping].contains t

/-- Whether a document ends before what comes next. -/
def endsDocument : List Token → Bool
  | [] => true
  | t :: _ => t.isDirective || t == .documentStart || t == .documentEnd

/-- The tokens behind the directives in front of a document, if none of them is repeated. -/
def skipDirectives? (ts : List Token) : Option (List Token) :=
  let ds := ts.takeWhile Token.isDirective
  if (ds.filter (· != .directive "")).Nodup then some (ts.drop ds.length) else none

/-- The tokens behind the marks of the end of a document. -/
def skipEnds (ts : List Token) : List Token := ts.dropWhile (· == .documentEnd)

/-- The tokens from the content of an explicit document on, if one starts here. -/
def explicit? (ts : List Token) : Option (List Token) := do
  match ← skipDirectives? ts with
  | .documentStart :: r => some r
  | _ => none

/-- Whether another document starts here. A bare one may start only behind a mark. -/
def startsAnother (bare : Bool) (ts : List Token) : Bool :=
  match ts with
  | [] => false
  | t :: _ =>
    if bare ∧ t.startsNode then true
    else
      match explicit? ts with
      | none => false
      | some r => endsDocument r || r.head?.any Token.startsNode

/-- Whether the text is over behind its first document. -/
def isLast (e : Edition) (ts : List Token) : Bool :=
  match e with
  | .early => (skipEnds ts).isEmpty
  | .late =>
    match ts with
    | .documentEnd :: r => !startsAnother true (skipEnds r)
    | .broken :: _ => false
    | .directive _ :: _ => false
    | r => !startsAnother false r

/-- The tree of a text with one document. A text without any is empty. -/
def parse? (e : Edition) (text : String) : Option Node := do
  let ts := tokens e text
  let n := 4 * ts.length + 4
  let ts := if e = .late then skipEnds ts else ts
  match ts with
  | [] => some .nothing
  | t :: _ =>
    let x ←
      if t.isDirective ∨ t = .documentStart then do
        let r ← explicit? ts
        if endsDocument r then some (.nothing, r) else node e n true false r
      else node e n true false ts
    if isLast e x.2 then some x.1 else none

end AccessGateway.Yaml
