/-
# Reading YAML

The nodes of a document become a document: scalars by their tags, sequences
as lists, mappings as objects. By its tag a mapping may also be the set of its
keys, and a sequence of mappings with one pair each a list of pairs. A mapping
may take over the pairs of others by the merge mark; its own pairs come after
those and so win, and of several mappings in a list the first wins. Of a
repeated key the last value counts, and a key is a scalar.

If several nodes have no value, the one nearest to the root is reported, and
of those on one level the first. A node counts with the collection around it.

Key definitions: `Yaml.read`, `Yaml.Node.build`.
-/
import TwinQuery.Yaml.Node
import TwinQuery.Yaml.Value

namespace TwinQuery

namespace Yaml

/-- A character that may stand in a YAML text. -/
def isAllowed (c : CodePoint) : Bool :=
  !c.isHalf && (c == '\t' || c == '\n' || c == '\r' || (0x20 ≤ c.toNat && c.toNat ≤ 0x7E) ||
    c.toNat == 0x85 || (0xA0 ≤ c.toNat && c.toNat ≤ 0xFFFD) || 0x10000 ≤ c.toNat)

/-- What a node becomes: a document, and the faults found in it, level by
level. The first level is that of the node itself. -/
structure Built where
  doc : Doc
  faults : List (List Fault)

namespace Built

/-- The faults of two parts of a level, level by level. -/
def join : List (List Fault) → List (List Fault) → List (List Fault)
  | [], b => b
  | a, [] => a
  | level :: a, level' :: b => (level ++ level') :: join a b

/-- The faults of all parts of a level. -/
def joinAll : List Built → List (List Fault)
  | [] => []
  | b :: rest => join b.faults (joinAll rest)

/-- What a scalar becomes. -/
def ofScalar : Except Fault Scalar → Built
  | .ok s => ⟨.atom s, []⟩
  | .error fault => ⟨Doc.null, [[fault]]⟩

/-- A key: a collection is none. -/
def asKey (b : Built) : Built :=
  match b.doc with
  | .atom _ => b
  | _ => ⟨b.doc, [[.badYaml]]⟩

/-- The collection whose parts cannot be made out. -/
def misfit (empty : Doc) (fault : Fault) : Built := ⟨empty, [[], [fault]]⟩

/-- The list of some parts. -/
def ofItems (items : List Built) : Built := ⟨.list (items.map Built.doc), [] :: joinAll items⟩

/-- The object of some pairs. -/
def ofPairs (pairs : List (Built × Built)) : Built :=
  let fields := pairs.filterMap fun (key, value) =>
    match key.doc with
    | .atom s => some (s, value.doc)
    | _ => none
  ⟨.object (Fields.ofPairs fields),
    [] :: joinAll (pairs.flatMap fun (key, value) => [key.asKey, value])⟩

/-- The keys of some pairs. -/
def ofMembers (pairs : List (Built × Built)) : Built :=
  let b := ofPairs pairs
  ⟨.members ((b.doc.fields?.getD []).map Prod.fst), b.faults⟩

/-- The list of some pairs. What has a fault instead of two parts is none. -/
def ofPairItems (items : List (List Built)) : Built :=
  let pairs := items.filterMap fun item =>
    match item with
    | [first, second] => some (Doc.pair first.doc second.doc)
    | _ => none
  ⟨.list pairs, [] :: joinAll items.flatten⟩

/-- The document, unless there is a fault. -/
def result (b : Built) : Except Fault Doc :=
  match b.faults.flatten with
  | [] => .ok b.doc
  | fault :: _ => .error fault

end Built

/-- The empty collection of a tag for collections. -/
def Tag.empty? : Tag → Option Doc
  | .sequence => some (.list [])
  | .pairs => some (.list [])
  | .mapping => some (.object [])
  | .members => some (.members [])
  | _ => none

namespace Node

mutual

/-- The text of a node that should be a scalar: of a mapping, that of the value
at its value mark. -/
def scalarText? : Node → Option Text
  | .scalar _ t => some t
  | .sequence _ _ => none
  | .mapping _ pairs => valueText? pairs
  | .enclosing _ => none

/-- The text of the value at the value mark. -/
def valueText? : List (Node × Node) → Option Text
  | [] => none
  | (key, value) :: rest => if key.tag = .value then scalarText? value else valueText? rest

end

/-- What a node with a tag for scalars becomes. -/
def buildScalar (tag : Tag) (n : Node) : Built :=
  match n.scalarText? with
  | some t => .ofScalar (tag.scalar t)
  | none => .ofScalar (.error .badYaml)

mutual

/-- What a node becomes. -/
def build : Node → Built
  | .scalar tag t =>
    match tag.empty? with
    | some empty => .misfit empty .badYaml
    | none => .ofScalar (tag.scalar t)
  | .sequence .sequence items => .ofItems (buildItems items)
  | .sequence .pairs items => .ofPairItems (buildPairItems items)
  | .sequence tag _ =>
    match tag.empty? with
    | some empty => .misfit empty .badYaml
    | none => .ofScalar (.error .badYaml)
  | .mapping .mapping pairs =>
    match buildPairs pairs with
    | .ok (merged, own) => .ofPairs (merged ++ own)
    | .error fault => .misfit (.object []) fault
  | .mapping .members pairs =>
    match buildPairs pairs with
    | .ok (merged, own) => .ofMembers (merged ++ own)
    | .error fault => .misfit (.members []) fault
  | .mapping tag pairs =>
    match tag.empty? with
    | some empty => .misfit empty .badYaml
    | none => buildScalar tag (.mapping tag pairs)
  | .enclosing tag => ⟨.enclosing ((tag.empty?.map Doc.kind).getD .null), []⟩

/-- What the items of a sequence become. -/
def buildItems : List Node → List Built
  | [] => []
  | item :: items => build item :: buildItems items

/-- What the items of a sequence of pairs become; each must be a mapping with
one pair. -/
def buildPairItems : List Node → List (List Built)
  | [] => []
  | .mapping _ [(key, value)] :: items => [build key, build value] :: buildPairItems items
  | _ :: items => [.ofScalar (.error .badYaml)] :: buildPairItems items

/-- What the pairs of a mapping become: those that it takes over, and its own.
The value mark as a key is a text. -/
def buildPairs : List (Node × Node) →
    Except Fault (List (Built × Built) × List (Built × Built))
  | [] => .ok ([], [])
  | (key, value) :: rest =>
    if key.tag = .merge then do
      let taken ← mergedPairs value
      let (merged, own) ← buildPairs rest
      .ok (taken ++ merged, own)
    else do
      let name := if key.tag = .value then buildScalar .text key else build key
      let (merged, own) ← buildPairs rest
      .ok (merged, (name, build value) :: own)

/-- The pairs that a mapping takes over from a mapping or from a list of
them. -/
def mergedPairs : Node → Except Fault (List (Built × Built))
  | .mapping _ pairs => do
    let (merged, own) ← buildPairs pairs
    .ok (merged ++ own)
  | .sequence _ items => mergedItems items
  | .scalar _ _ => .error .badYaml
  | .enclosing _ => .ok []

/-- The pairs that a mapping takes over from a list of mappings, those of the
last one first. -/
def mergedItems : List Node → Except Fault (List (Built × Built))
  | [] => .ok []
  | .mapping _ pairs :: rest => do
    let (merged, own) ← buildPairs pairs
    let later ← mergedItems rest
    .ok (later ++ merged ++ own)
  | .enclosing _ :: rest => mergedItems rest
  | _ :: _ => .error .badYaml

end

end Node

/-- The document that a text holds, null when it holds none. -/
def read (t : Text) : Except Fault Doc := do
  if t.all isAllowed then (← Node.ofTokens (scan t)).build.result else .error .badYaml

end Yaml

end TwinQuery
