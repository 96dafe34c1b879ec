import AccessGateway.Route.Pattern
import AccessGateway.Text.Split

/-
  Looking a path up among patterns. The search goes through the path character by character and
  keeps what is left of the patterns that lead there. Letters come before a parameter, and if they
  lead nowhere the parameter has its turn. A parameter takes a part of a segment that is not
  empty; of the suffixes behind it the longest that fits is the only one that is followed.
-/

namespace AccessGateway

namespace Pattern

/-- What is left behind a letter, if that comes next. -/
def behindLetter? (c : Char) : Pattern → Option Pattern
  | .letter d :: r => if d = c then some r else none
  | _ => none

/-- What is left behind a parameter, if that comes next. -/
def behindParameter? : Pattern → Option Pattern
  | .parameter :: r => some r
  | _ => none

/-- The letters up to the end of the segment that goes on here, its slash included. -/
def suffix (p : Pattern) : List Char := Part.front (Part.segment '/' p)

/-- What is left behind the segment that goes on here. -/
def behindSuffix (p : Pattern) : Pattern := Part.behindSegment '/' p

end Pattern

namespace Patterns

/-- Whether a suffix ends a part of a path and leaves something for the parameter before it. -/
def endsWith (text : List Char) (p : Pattern) : Bool :=
  !p.isEmpty && p.suffix.isSuffixOf text && p.suffix.length < text.length

/-- What is left behind the longest suffix that ends a part of a path, if one does. -/
def behindLongest? (text : List Char) (ps : List Pattern) : Option (List Pattern) :=
  match ps.filter (endsWith text) with
  | [] => none
  | qs =>
    let longest := qs.foldl (fun n q => max n q.suffix.length) 0
    some ((qs.filter fun q => q.suffix.length = longest).map Pattern.behindSuffix)

/-- The part of a path up to its first slash, which is included, and what follows. -/
def cutSegment (path : List Char) : List Char × List Char :=
  let name := path.takeWhile (· != '/')
  (path.take (name.length + 1), path.drop (name.length + 1))

/-- Whether what is left of some patterns matches what is left of a path. The number bounds the
steps. -/
def search : Nat → List Pattern → List Char → Bool
  | 0, _, _ => false
  | _ + 1, ps, [] => ps.contains []
  | n + 1, ps, c :: r =>
    search n (ps.filterMap (Pattern.behindLetter? c)) r ||
      ps.any (fun p => p.head? = some .rest) ||
      (c != '/' &&
        let s := cutSegment (c :: r)
        let qs := ps.filterMap Pattern.behindParameter?
        match behindLongest? s.1 qs with
        | some rs => search n rs s.2
        | none => s.1.getLast? != some '/' && qs.contains [])

/-- Whether one of some patterns matches a path. -/
def anyMatch (ps : List Pattern) (path : String) : Bool :=
  search (path.toList.length + 1) ps path.toList

end Patterns

end AccessGateway
