import AccessGateway.Text.Split
import AccessGateway.Text.Utf8
import AccessGateway.Text.Ascii

/-
  The files that a configuration may name. A path is followed segment by segment from the
  working directory, and never leaves that directory. `readText` is what the readers of
  configuration and credentials use, and `extension?` is the part of a file name that tells its
  format.
-/

namespace AccessGateway

/-- Why a file was not read as text. -/
inductive FileFault where
  | notFound
  | isDirectory
  | notDirectory
  | nameTooLong
  | nulInName
  | notText
deriving DecidableEq, Repr

/-- The text of a file fault. -/
def FileFault.message : FileFault → String
  | notFound => "No such file or directory (os error 2)"
  | isDirectory => "Is a directory (os error 21)"
  | notDirectory => "Not a directory (os error 20)"
  | nameTooLong => "File name too long (os error 36)"
  | nulInName => "file name contained an unexpected NUL byte"
  | notText => "stream did not contain valid UTF-8"

/-- The files and the directories under the working directory, each named by its segments. A
directory that holds something need not be listed, and one that is listed stays when what it
held is removed. -/
structure Files where
  files : List (List String × List UInt8)
  directories : List (List String)

namespace Files

/-- No files. -/
def none : Files := ⟨[], []⟩

/-- The segments of a path. -/
def segments (path : String) : List String := (pieces '/' path.toList).map String.ofList

/-- The octets of the file of that name. -/
def contents? (t : Files) (name : List String) : Option (List UInt8) :=
  (t.files.find? fun f => f.1 == name).map Prod.snd

/-- Whether a name is that of a directory. -/
def isDirectory (t : Files) (name : List String) : Bool :=
  name.isEmpty || t.directories.any (name.isPrefixOf ·) ||
    t.files.any fun f => name.isPrefixOf f.1 && name != f.1

/-- Follows segments from a name that exists. -/
def follow (t : Files) : List String → List String → Except FileFault (List String)
  | here, [] => .ok here
  | here, s :: r =>
    if !t.isDirectory here then .error .notDirectory
    else if s = "" ∨ s = "." then follow t here r
    else if s = ".." then
      if here.isEmpty then .error .notFound else follow t here.dropLast r
    else if 255 < Utf8.size s.toList then .error .nameTooLong
    else if t.isDirectory (here ++ [s]) || (t.contents? (here ++ [s])).isSome then
      follow t (here ++ [s]) r
    else .error .notFound

/-- Whether segments lead out of the directory that is so many levels deep. -/
def leaves : Nat → List String → Bool
  | _, [] => false
  | depth, s :: r =>
    if s = "" ∨ s = "." then leaves depth r
    else if s = ".." then
      match depth with
      | 0 => true
      | d + 1 => leaves d r
    else leaves (depth + 1) r

/-- Whether a path leads out of the working directory. -/
def isOutside (path : String) : Bool :=
  path.toList.head? = some '/' || leaves 0 (segments path)

/-- The number of octets from which on a path is too long. -/
def pathLimit : Nat := 4096

/-- The octets of the file under a path. A path that leads out of the working directory is not
followed: it is known as it is written or not at all. -/
def read (t : Files) (path : String) : Except FileFault (List UInt8) :=
  if path.toList.any fun c => c.toNat = 0 then .error .nulInName
  else if path = "" then .error .notFound
  else if pathLimit ≤ Utf8.size path.toList then .error .nameTooLong
  else if isOutside path then
    match t.contents? (segments path) with
    | some octets => .ok octets
    | Option.none => .error .notFound
  else
    match t.follow [] (segments path) with
    | .error f => .error f
    | .ok name =>
      match t.contents? name with
      | some octets => .ok octets
      | Option.none => .error .isDirectory

/-- The text of the file under a path. -/
def readText (t : Files) (path : String) : Except FileFault String :=
  match t.read path with
  | .error f => .error f
  | .ok octets =>
    match Utf8.decode? octets with
    | some cs => .ok (String.ofList cs)
    | Option.none => .error .notText

/-- One more segment of a path behind a name. -/
def step (here : List String) (s : String) : List String :=
  if s = "" ∨ s = "." then here else if s = ".." then here.dropLast else here ++ [s]

/-- The name of the file under a path and those of the directories on the way to it. A path that
leads out of the working directory is a name as it is written. -/
def place (path : String) : List String × List (List String) :=
  if isOutside path then (segments path, [])
  else
    let way := (segments path).foldl (fun w s => step (w.headD []) s :: w) [[]]
    (way.headD [], way.drop 1)

/-- The files with one more, in place of the one of the same name. The directories on the way to
it are made and stay. -/
def write (t : Files) (path : String) (octets : List UInt8) : Files :=
  let p := place path
  { files := (p.1, octets) :: t.files.filter fun f => f.1 != p.1
    directories := p.2 ++ t.directories }

/-- The files without the one under a path. -/
def remove (t : Files) (path : String) : Files :=
  { t with files := t.files.filter fun f => f.1 != (place path).1 }

/-- The files with one more directory. -/
def addDirectory (t : Files) (path : String) : Files :=
  { t with directories := (place path).1 :: t.directories }

/-- The last segment of a path that names a file. -/
def fileName? (path : String) : Option String :=
  match ((segments path).filter fun s => s != "" && s != ".").getLast? with
  | some s => if s = ".." then Option.none else some s
  | Option.none => Option.none

/-- What follows the last point of a file name. A point at the front of the name does not count. -/
def extension? (path : String) : Option String :=
  (fileName? path).bind fun name =>
    match splitOnce '.' name.toList.reverse with
    | some (after, before) =>
      if before.isEmpty then Option.none else some (String.ofList after.reverse)
    | Option.none => Option.none

end Files

end AccessGateway
