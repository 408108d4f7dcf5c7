/-
# Workspaces

A workspace is what the program sees of the world: the files and directories
below its working directory, and the time. Everything that reads or changes
them is a function on workspaces, so a run of the program is a value.

A file holds a text, or bytes that are not a text; a text without an encoding
counts as such bytes when it is read. A path is followed name by name: every
name but the last must be a directory, also one that is left again by double
dots.

Key definitions: `Workspace`, `Workspace.pathExists`, `Workspace.readText`,
`Workspace.writeText`, `Workspace.makeDirectories`, `Change`,
`Workspace.apply`.
-/
import TwinQuery.Text.Utf8
import TwinQuery.Time.Stamp
import TwinQuery.Workspace.Path

namespace TwinQuery

/-- What a file holds. -/
inductive Content where
  | text (t : Text)
  | bytes (why : BadBytes)
deriving DecidableEq

/-- The content of a file with the given bytes. -/
def Content.ofBytes (bytes : List Nat) : Content :=
  match Utf8.decode bytes with
  | .ok t => .text t
  | .error why => .bytes why

/-- A file or a directory. -/
inductive Node where
  | file (content : Content)
  | directory
deriving DecidableEq

/-- The files and directories below the working directory, by the names that
lead to them, and the time. -/
structure Workspace where
  nodes : List (List Text × Node)
  clock : Stamp

namespace Workspace

/-- The node at a place; the working directory is always there. -/
def node? (w : Workspace) (place : List Text) : Option Node :=
  if place.isEmpty then some .directory else w.nodes.lookup place

/-- The workspace with a node put at a place. -/
def put (w : Workspace) (place : List Text) (node : Node) : Workspace :=
  { w with nodes := (place, node) :: w.nodes.filter fun entry => entry.1 != place }

/-- The workspace without the node at a place and what is below it. -/
def erase (w : Workspace) (place : List Text) : Workspace :=
  { w with nodes := w.nodes.filter fun entry => !place.isPrefixOf entry.1 }

/-- The greatest number of bytes of a name. -/
def longestName : Nat := 255

/-- The greatest number of bytes of a path. -/
def longestPath : Nat := 4095

/-- The place that names lead to from a place. -/
def follow (w : Workspace) : (place names : List Text) → Except FileProblem (List Text)
  | place, [] => .ok place
  | place, name :: names =>
    match w.node? place with
    | none => .error .notFound
    | some (.file _) => .error .notDirectory
    | some .directory =>
      if name = [.char '.', .char '.'] then
        if place.isEmpty then .error .notFound else follow w place.dropLast names
      else if longestName < Utf8.size name then .error .nameTooLong
      else if (w.node? (place ++ [name])).isSome then follow w (place ++ [name]) names
      else .error .notFound

/-- The place that a path leads to; there is nothing beyond the working
directory. -/
def locate (w : Workspace) (p : Path) : Except FileProblem (List Text) :=
  if longestPath < Utf8.size p.display then .error .nameTooLong
  else if p.root.isEmpty then w.follow [] p.names
  else .error .notFound

/-- Whether a path leads to something. A name that is too long is a fault, one
that no file can have leads nowhere. -/
def pathExists (w : Workspace) (p : Path) : Except Fault Bool :=
  if p.isImpossible then .ok false
  else match w.locate p with
  | .ok _ => .ok true
  | .error .nameTooLong => .error (.file .nameTooLong p.display)
  | .error _ => .ok false

/-- Whether a path leads to a directory. -/
def isDirectory (w : Workspace) (p : Path) : Bool :=
  match w.locate p with
  | .ok place => w.node? place == some .directory
  | .error _ => false

/-- The text without carriage returns: a line ends with a line feed, a
carriage return, or both. -/
def plainLines : Text → Text
  | '\r' :: '\n' :: rest => '\n' :: plainLines rest
  | '\r' :: rest => '\n' :: plainLines rest
  | c :: rest => c :: plainLines rest
  | [] => []

/-- The text of a file. -/
def readText (w : Workspace) (p : Path) : Except Fault Text :=
  match w.locate p with
  | .error problem => .error (.file problem p.display)
  | .ok place =>
    match w.node? place with
    | some (.file (.text t)) =>
      if t.isEncodable then .ok (plainLines t) else .error (.badBytes (Utf8.badHalf t))
    | some (.file (.bytes why)) => .error (.badBytes why)
    | _ => .error (.file .isDirectory p.display)

/-- The place where a file of the given path would be made, or the problem
that it has none. -/
def placeFor (w : Workspace) (p : Path) : Except FileProblem (List Text) := do
  match p.names.getLast? with
  | none => .error .isDirectory
  | some name =>
    if name = [.char '.', .char '.'] then
      let _ ← w.locate p
      .error .isDirectory
    else
      if longestPath < Utf8.size p.display then .error .nameTooLong
      let place ← w.locate p.parent
      match w.node? place with
      | some .directory =>
        if longestName < Utf8.size name then .error .nameTooLong else .ok (place ++ [name])
      | _ => .error .notDirectory

/-- The workspace with a text written to a file. -/
def writeText (w : Workspace) (p : Path) (t : Text) : Except Fault Workspace :=
  if p.isImpossible then .error .nullInPath
  else match w.placeFor p with
  | .error problem => .error (.file problem p.display)
  | .ok place =>
    if w.node? place = some .directory then .error (.file .isDirectory p.display)
    else .ok (w.put place (.file (.text t)))

/-- The workspace with one more directory. -/
def makeDirectory (w : Workspace) (p : Path) : Except FileProblem Workspace :=
  match w.locate p with
  | .ok _ => .error .alreadyThere
  | .error .notFound =>
    match w.placeFor p with
    | .error .isDirectory => .error .alreadyThere
    | .error problem => .error problem
    | .ok place => .ok (w.put place .directory)
  | .error problem => .error problem

/-- The workspace with a directory and the directories above it; one that is
there is kept. The names are given in reverse. -/
def makeDirectoriesFrom (w : Workspace) (root : Text) : (reversed : List Text) →
    Except Fault Workspace
  | [] => .ok w
  | name :: up =>
    let p : Path := ⟨root, (name :: up).reverse⟩
    match w.makeDirectory p with
    | .ok w => .ok w
    | .error .notFound => do
      let w ← makeDirectoriesFrom w root up
      match w.makeDirectory p with
      | .ok w => .ok w
      | .error problem => if w.isDirectory p then .ok w else .error (.file problem p.display)
    | .error problem => if w.isDirectory p then .ok w else .error (.file problem p.display)

/-- The workspace with a directory and the directories above it. -/
def makeDirectories (w : Workspace) (p : Path) : Except Fault Workspace :=
  if p.isImpossible then .error .nullInPath else w.makeDirectoriesFrom p.root p.names.reverse

/-- The workspace in which everything on the way from a place is a
directory. -/
def ensureDirectories (w : Workspace) : (place names : List Text) → Workspace
  | _, [] => w
  | place, name :: names =>
    let next := place ++ [name]
    let w := if w.node? next = some .directory then w else w.put next .directory
    ensureDirectories w next names

/-- The workspace with a node at a path and with the directories above it. -/
def putDeep (w : Workspace) (p : Path) (node : Node) : Workspace :=
  (w.ensureDirectories [] p.names.dropLast).put p.names node

/-- The text of the file at a path, as it is stored. -/
def storedText? (w : Workspace) (p : Path) : Option Text :=
  match w.locate p with
  | .error _ => none
  | .ok place =>
    match w.node? place with
    | some (.file (.text t)) => some t
    | _ => none

end Workspace

/-- A change that the program does not make itself. -/
inductive Change where
  | setClock (now : Stamp)
  | put (p : Path) (node : Node)
  | remove (p : Path)

/-- The workspace after a change. -/
def Workspace.apply (w : Workspace) : Change → Workspace
  | .setClock now => { w with clock := now }
  | .put p node => w.putDeep p node
  | .remove p => w.erase p.names

end TwinQuery
