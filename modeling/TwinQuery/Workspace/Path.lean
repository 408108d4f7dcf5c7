/-
# Paths

A path is a list of names, possibly after a root. Empty names and single dots
are dropped when a path is read; double dots stay, because what they mean
depends on the files.

Key definitions: `Path`, `Path.ofText`, `Path.display`, `Path.suffix`,
`Path.parent`, `Path.child`.
-/
import TwinQuery.Text.Utf8

namespace TwinQuery

/-- A path: its root, which is empty for a relative path, and its names. -/
structure Path where
  root : Text
  names : List Text
deriving DecidableEq

namespace Path

/-- The mark between names. -/
def slash : CodePoint := '/'

/-- The root that a text begins with; exactly two marks are a root of their
own. -/
def rootOf (t : Text) : Text :=
  match t.takeWhile (· == slash) with
  | [] => []
  | [a, b] => [a, b]
  | _ => [slash]

/-- The path that a text stands for. -/
def ofText (t : Text) : Path :=
  ⟨rootOf t, (Text.cutAt slash t).filter fun name => !name.isEmpty && name != [.char '.']⟩

/-- The path that a document stands for; it must be a text. -/
def ofDoc : Doc → Except Fault Path
  | .atom (.text t) => .ok (ofText t)
  | .atom (.bytes _) => .error .pathIsBytes
  | other => .error (.pathNotText other.kind)

/-- The path that a document stands for, if it is given; what counts as false
is none. -/
def ofDoc? (d : Doc) : Except Fault (Option Path) :=
  if d.isTruthy then (ofDoc d).map some else .ok none

/-- The text of a path. -/
def display (p : Path) : Text :=
  match p.root, p.names with
  | [], [] => "."
  | root, names => root ++ Text.joinWith [slash] names

/-- The last name with its extension. -/
def name (p : Path) : Text := p.names.getLast?.getD []

/-- The extension of the last name from its last dot on: none when that dot is
the first or the last character. -/
def suffix (p : Path) : Text :=
  match p.name with
  | [] => []
  | _ :: rest =>
    let tail := rest.reverse.takeWhile (· != CodePoint.char '.')
    if rest.contains '.' && !tail.isEmpty then .char '.' :: tail.reverse else []

/-- The path without its last name. -/
def parent (p : Path) : Path := ⟨p.root, p.names.dropLast⟩

/-- The path with one more name. -/
def child (p : Path) (name : Text) : Path := ⟨p.root, p.names ++ [name]⟩

/-- Whether no file can have the path: a name has a null character, or a half that
does not stand for a byte. -/
def isImpossible (p : Path) : Bool :=
  p.names.any fun name => name.any fun c => c == '\x00' || (c.isHalf && !Utf8.isByteHalf c)

end Path

end TwinQuery
