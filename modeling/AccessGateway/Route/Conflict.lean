import AccessGateway.Route.Pattern

/-
  Which patterns may stand side by side. `Trails.admits` follows a new pattern along those that are
  there, octet by octet. It is refused where it ends with one of them, where it takes the rest of
  a path beside another parameter, and where the letters before a parameter and those behind one
  would have to be told apart in one segment.
-/

namespace AccessGateway

/-- What is left of a pattern from some place on, in octets. -/
abbrev Trail := List (Part UInt8)

/-- A slash. -/
def Trail.slash : UInt8 := 0x2F

/-- The octets of a pattern. -/
def Pattern.toTrail (p : Pattern) : Trail :=
  p.flatMap fun x =>
    match x with
    | .letter c => (Utf8.encodeChar c).map .letter
    | .parameter => [.parameter]
    | .rest => [.rest]

namespace Trail

/-- The part of a segment behind its parameter, its closing slash included. -/
def suffix (t : Trail) : Trail := Part.segment slash t

/-- What is left behind the segment that goes on here. -/
def behindSuffix (t : Trail) : Trail := Part.behindSegment slash t

/-- Whether nothing is left but perhaps a slash. -/
def isBare (t : Trail) : Bool := t.isEmpty || t == [.letter slash]

/-- This segment from its first parameter on, if it has one; the rest of a path counts as one. -/
def wild? (t : Trail) : Option Trail :=
  if (Part.front t).contains slash then none
  else
    match Part.behindFront t with
    | [] => none
    | r => some r

/-- Whether this segment goes on with a parameter, perhaps behind letters. -/
def hasParameter (t : Trail) : Bool :=
  match t.wild? with
  | some (.parameter :: _) => true
  | _ => false

/-- Whether this segment goes on with a parameter that has letters behind it. -/
def hasSuffix (t : Trail) : Bool :=
  match t.wild? with
  | some (.parameter :: r) => !isBare (suffix r)
  | _ => false

/-- What is left behind an octet, if that comes next. -/
def behindOctet? (b : UInt8) : Trail → Option Trail
  | .letter a :: r => if a = b then some r else none
  | _ => none

/-- What is left behind a parameter, if that comes next. -/
def behindParameter? : Trail → Option Trail
  | .parameter :: r => some r
  | _ => none

/-- What is left behind a suffix, if the segment goes on with that. -/
def behindSuffix? (s : Trail) (t : Trail) : Option Trail :=
  if !t.isEmpty && suffix t == s then some (behindSuffix t) else none

end Trail

/-- The octets that two lists begin with in common. -/
def commonFront : List UInt8 → List UInt8 → List UInt8
  | a :: r, b :: s => if a = b then a :: commonFront r s else []
  | _, _ => []

/-- What is left of the patterns that lead to some place. -/
abbrev Trails := List Trail

namespace Trails

/-- The octets up to the next place where the trails part, where one of them ends, or where a
parameter comes. -/
def stretch : Trails → List UInt8
  | [] => []
  | t :: ts => ts.foldl (fun f u => commonFront f (Part.front u)) (Part.front t)

/-- Whether letters stand before a parameter of the segment that goes on here. Behind an octet
other than a slash they are already there; behind a slash one of the next stretches brings them.
The number bounds the steps. -/
def havePrefix : Nat → Option UInt8 → Trails → Bool
  | 0, _, _ => false
  | _ + 1, none, _ => false
  | n + 1, some last, ts =>
    if last = Trail.slash then
      ts.any fun t =>
        match t with
        | .letter b :: _ =>
          let group := ts.filter fun u => (u.behindOctet? b).isSome
          let run := stretch group
          havePrefix n run.getLast? (group.map fun u => u.drop run.length)
        | _ => false
    else ts.any Trail.hasParameter

/-- The length of the longest trail. -/
def depth (ts : Trails) : Nat := ts.foldl (fun n t => max n t.length) 0

/-- Whether letters stand before a parameter of the segment that goes on here, behind an octet or
at the very front. -/
def hasPrefix (last : Option UInt8) (ts : Trails) : Bool := havePrefix (depth ts + 1) last ts

/-- Whether the parts of a trail may stand as they do. -/
def standsAlone (t : Trail) : Except PatternError Unit :=
  Part.check Trail.slash (t.length + 1) t

/-- Whether a trail may leave the others here with an octet that none of them goes on with. -/
def admitsOctet (last : Option UInt8) (ts : Trails) (t : Trail) : Except PatternError Unit :=
  match t.wild? with
  | some w =>
    if ts.any Trail.hasSuffix || (!Trail.isBare (w.drop 1) && hasPrefix last ts) then
      .error .conflict
    else standsAlone t
  | none => standsAlone t

/-- Whether a trail may leave the others here with a parameter, while none of them has one. -/
def admitsParameter (last : Option UInt8) (ts : Trails) (t : Trail) :
    Except PatternError Unit :=
  let insideSegment := last.any (· != Trail.slash)
  if (!Trail.isBare (t.drop 1) && hasPrefix last ts) ||
      (insideSegment && ts.any Trail.hasSuffix) then
    .error .conflict
  else standsAlone t

/-- Whether a trail may leave the others behind a parameter with a suffix that none of them has.
The octet and the trails are those before the parameter. -/
def admitsSuffix (last : Option UInt8) (ts behind : Trails) (t : Trail) :
    Except PatternError Unit :=
  let s := Trail.suffix t
  let slashMore := behind.any fun u => !u.isEmpty && Trail.suffix u ++ [.letter Trail.slash] == s
  if !slashMore && !Trail.isBare s && hasPrefix last ts then .error .conflict
  else if s.all Part.isLetter then standsAlone (Trail.behindSuffix t)
  else .error .twoParameters

/-- Follows a trail along the others, given the octet before them. The number bounds the steps. -/
def follow : Nat → Option UInt8 → Trails → Trail → Except PatternError Unit
  | 0, _, _, _ => .ok ()
  | _ + 1, _, ts, [] => if ts.contains [] then .error .conflict else .ok ()
  | n + 1, last, ts, .letter b :: r =>
    match ts.filterMap (Trail.behindOctet? b) with
    | [] => admitsOctet last ts (.letter b :: r)
    | us => follow n (some b) us r
  | _ + 1, last, ts, .rest :: r =>
    if ts.any fun u => u.head? = some .rest ∨ u.head? = some .parameter then .error .conflict
    else admitsParameter last ts (.rest :: r)
  | n + 1, last, ts, .parameter :: r =>
    if ts.any fun u => u.head? = some .rest then .error .conflict
    else
      match ts.filterMap Trail.behindParameter? with
      | [] => admitsParameter last ts (.parameter :: r)
      | us =>
        if last ≠ some Trail.slash ∧ us.any (fun u => !Trail.isBare (Trail.suffix u)) ∧
            Trail.isBare r then
          .error .conflict
        else if r.isEmpty then
          if us.contains [] then .error .conflict else .ok ()
        else
          match us.filterMap (Trail.behindSuffix? (Trail.suffix r)) with
          | [] => admitsSuffix last ts us r
          | vs => follow n (Part.front (Trail.suffix r)).getLast? vs (Trail.behindSuffix r)

/-- Whether a trail may stand beside others. -/
def admits (ts : Trails) (t : Trail) : Except PatternError Unit :=
  follow (t.length + 1) none ts t

end Trails

namespace Pattern

/-- The letters of a pattern before its first parameter, as a pattern. -/
def literalFront (p : Pattern) : Pattern := (Part.front p).map .letter

/-- The patterns with one more. The empty pattern does not stay when another one comes: what it
stood for passes on to the letters before the first parameter of the new one. -/
def join (known : List Pattern) (p : Pattern) : Except PatternError (List Pattern) :=
  match known with
  | [] => (Trails.standsAlone p.toTrail).map fun _ => [p]
  | [[]] =>
    (Trails.standsAlone p.toTrail).map fun _ =>
      if p.all Part.isLetter then [p] else [p.literalFront, p]
  | _ => (Trails.admits (known.map toTrail) p.toTrail).map fun _ => known ++ [p]

end Pattern

end AccessGateway
