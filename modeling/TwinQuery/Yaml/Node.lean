/-
# Nodes of YAML

A text holds one document or none, and a document is a tree of nodes: scalars,
sequences and mappings, each with its tag. The tokens are read by recursive
descent; a missing node is an empty scalar. A sequence that is the value of a
key may stand at the column of the key.

A node may be given a name by an anchor, once, and a reference to that name
stands for the node. A reference inside the node itself is a node of its own
kind, which says that it is the collection around it.

Key definitions: `Yaml.Node`, `Yaml.Node.ofTokens`.
-/
import TwinQuery.Yaml.Tag
import TwinQuery.Yaml.Token

namespace TwinQuery

namespace Yaml

/-- A node: a scalar with its text, a sequence of items, a mapping with its
pairs of key and value, or a collection that encloses the place. -/
inductive Node where
  | scalar (tag : Tag) (t : Text)
  | sequence (tag : Tag) (items : List Node)
  | mapping (tag : Tag) (pairs : List (Node × Node))
  | enclosing (tag : Tag)

namespace Node

/-- The tag of a node. -/
def tag : Node → Tag
  | .scalar tag _ => tag
  | .sequence tag _ => tag
  | .mapping tag _ => tag
  | .enclosing tag => tag

/-- The node that is not there. -/
def missing : Node := .scalar .null []

end Node

/-- What is left to read: the tokens, and the nodes that have a name. -/
structure Feed where
  tokens : List Token
  named : List (Text × Node)

/-- The fault of a token that does not fit. -/
def misfit : List Token → Fault
  | .broken fault :: _ => fault
  | _ => .badYaml

namespace Feed

/-- The feed without its first tokens. -/
def drop (f : Feed) (count : Nat) : Feed := { f with tokens := f.tokens.drop count }

/-- The feed in which a name stands for a node. -/
def name (f : Feed) (anchor : Option Text) (n : Node) : Feed :=
  match anchor with
  | some a => { f with named := (a, n) :: f.named }
  | none => f

/-- A name must be new. -/
def checkNew (f : Feed) (anchor : Option Text) : Except Fault Unit :=
  match anchor with
  | some a => if (f.named.lookup a).isSome then .error .badYaml else .ok ()
  | none => .ok ()

end Feed

/-- What may stand before a node: its name and its tag. -/
structure Properties where
  anchor : Option Text
  tag : Option Text

/-- The full name of a tag. -/
def tagName (handles : List (Text × Text)) (handle : Option Text) (ending : Text) :
    Except Fault Text :=
  match handle with
  | none => .ok ending
  | some h =>
    match handles.lookup h with
    | some start => .ok (start ++ ending)
    | none => .error .badYaml

/-- The properties of the node that the tokens begin with, and how many tokens
they are. -/
def properties (handles : List (Text × Text)) (tokens : List Token) :
    Except Fault (Properties × Nat) :=
  match tokens with
  | .anchor a :: .tag handle ending :: _ =>
    return (⟨some a, some (← tagName handles handle ending)⟩, 2)
  | .tag handle ending :: .anchor a :: _ =>
    return (⟨some a, some (← tagName handles handle ending)⟩, 2)
  | .anchor _ :: .broken fault :: _ => .error fault
  | .tag _ _ :: .broken fault :: _ => .error fault
  | .anchor a :: _ => .ok (⟨some a, none⟩, 1)
  | .tag handle ending :: _ => return (⟨none, some (← tagName handles handle ending)⟩, 1)
  | _ => .ok (⟨none, none⟩, 0)

namespace Properties

/-- Whether there are any. -/
def isEmpty (p : Properties) : Bool := p.anchor.isNone && p.tag.isNone

/-- Whether the tag is left open: there is none, or only an exclamation
mark. -/
def isOpen (p : Properties) : Bool := p.tag.all (· == [.char '!'])

/-- The tag of a scalar. An exclamation mark has it follow from the spelling
even if the scalar is not plain. -/
def scalarTag (p : Properties) (t : Text) (plain : Bool) : Tag :=
  match p.tag with
  | none => if plain then .ofPlain t else .text
  | some name => if name = [.char '!'] then .ofPlain t else .ofName name

/-- The tag of a collection, which is `default` when it is left open. -/
def collectionTag (p : Properties) (default : Tag) : Tag :=
  if p.isOpen then default else .ofName (p.tag.getD [])

end Properties

/-- Whether the node of a block mapping is missing before these tokens. -/
def endsBlockItem : List Token → Bool
  | .key :: _ => true
  | .value :: _ => true
  | .blockEnd :: _ => true
  | _ => false

/-- Whether the node of a flow collection is missing before these tokens. -/
def endsFlowItem : List Token → Bool
  | .comma :: _ => true
  | .flowSequenceEnd :: _ => true
  | .flowMappingEnd :: _ => true
  | _ => false

mutual

/-- A node. Block collections are read only where `block` says so, and a
sequence at the column of its key only where `indentless` does. -/
def node (handles : List (Text × Text)) (block indentless : Bool) : (fuel : Nat) → Feed →
    Except Fault (Node × Feed)
  | 0, _ => .error .badYaml
  | fuel + 1, f =>
    match f.tokens with
    | .reference a :: _ =>
      match f.named.lookup a with
      | some n => .ok (n, f.drop 1)
      | none => .error .badYaml
    | tokens => do
      let (p, count) ← properties handles tokens
      nodeContent handles block indentless p fuel (f.drop count)

/-- A node after its properties. -/
def nodeContent (handles : List (Text × Text)) (block indentless : Bool) (p : Properties) :
    (fuel : Nat) → Feed → Except Fault (Node × Feed)
  | 0, _ => .error .badYaml
  | fuel + 1, f =>
    let sequenceOf (read : Feed → Except Fault (List Node × Feed)) (f : Feed) := do
      f.checkNew p.anchor
      let tag := p.collectionTag .sequence
      let (items, after) ← read (f.name p.anchor (.enclosing tag))
      let n := Node.sequence tag items
      return (n, after.name p.anchor n)
    let mappingOf (read : Feed → Except Fault (List (Node × Node) × Feed)) (f : Feed) := do
      f.checkNew p.anchor
      let tag := p.collectionTag .mapping
      let (pairs, after) ← read (f.name p.anchor (.enclosing tag))
      let n := Node.mapping tag pairs
      return (n, after.name p.anchor n)
    let scalarOf (t : Text) (plain : Bool) (f : Feed) := do
      f.checkNew p.anchor
      let n := Node.scalar (p.scalarTag t plain) t
      return (n, f.name p.anchor n)
    match f.tokens, block, indentless with
    | .dash :: _, _, true => sequenceOf (indentlessItems handles fuel []) f
    | .scalar t plain :: _, _, _ => scalarOf t plain (f.drop 1)
    | .flowSequence :: _, _, _ => sequenceOf (flowItems handles true fuel []) (f.drop 1)
    | .flowMapping :: _, _, _ => mappingOf (flowPairs handles true fuel []) (f.drop 1)
    | .blockSequence :: _, true, _ => sequenceOf (blockItems handles fuel []) (f.drop 1)
    | .blockMapping :: _, true, _ => mappingOf (blockPairs handles fuel []) (f.drop 1)
    | .broken fault :: _, _, _ => .error fault
    | _, _, _ => if p.isEmpty then .error .badYaml else scalarOf [] true f

/-- The items of a block sequence up to its end. -/
def blockItems (handles : List (Text × Text)) : (fuel : Nat) → (acc : List Node) → Feed →
    Except Fault (List Node × Feed)
  | 0, _, _ => .error .badYaml
  | fuel + 1, acc, f =>
    match f.tokens with
    | .dash :: .dash :: _ => blockItems handles fuel (acc ++ [.missing]) (f.drop 1)
    | .dash :: .blockEnd :: _ => .ok (acc ++ [.missing], f.drop 2)
    | .dash :: _ => do
      let (item, f) ← node handles true false fuel (f.drop 1)
      blockItems handles fuel (acc ++ [item]) f
    | .blockEnd :: _ => .ok (acc, f.drop 1)
    | tokens => .error (misfit tokens)

/-- The items of a sequence at the column of its key, as far as there are
dashes. -/
def indentlessItems (handles : List (Text × Text)) : (fuel : Nat) → (acc : List Node) → Feed →
    Except Fault (List Node × Feed)
  | 0, _, _ => .error .badYaml
  | fuel + 1, acc, f =>
    match f.tokens with
    | .dash :: .dash :: _ => indentlessItems handles fuel (acc ++ [.missing]) (f.drop 1)
    | .dash :: rest =>
      if endsBlockItem rest then .ok (acc ++ [.missing], f.drop 1)
      else do
        let (item, f) ← node handles true false fuel (f.drop 1)
        indentlessItems handles fuel (acc ++ [item]) f
    | _ => .ok (acc, f)

/-- The pairs of a block mapping up to its end. -/
def blockPairs (handles : List (Text × Text)) : (fuel : Nat) → (acc : List (Node × Node)) → Feed →
    Except Fault (List (Node × Node) × Feed)
  | 0, _, _ => .error .badYaml
  | fuel + 1, acc, f =>
    match f.tokens with
    | .key :: _ => do
      let (key, f) ← blockNode handles fuel (f.drop 1)
      let (value, f) ← blockValue handles fuel f
      blockPairs handles fuel (acc ++ [(key, value)]) f
    | .blockEnd :: _ => .ok (acc, f.drop 1)
    | tokens => .error (misfit tokens)

/-- The value of a pair in a block mapping. -/
def blockValue (handles : List (Text × Text)) : (fuel : Nat) → Feed → Except Fault (Node × Feed)
  | 0, _ => .error .badYaml
  | fuel + 1, f =>
    match f.tokens with
    | .value :: _ => blockNode handles fuel (f.drop 1)
    | _ => .ok (.missing, f)

/-- The node of a key or a value in a block mapping. -/
def blockNode (handles : List (Text × Text)) : (fuel : Nat) → Feed → Except Fault (Node × Feed)
  | 0, _ => .error .badYaml
  | fuel + 1, f =>
    if endsBlockItem f.tokens then .ok (.missing, f) else node handles true true fuel f

/-- The items of a flow sequence up to its bracket; between items there is a
comma. A key with a value among them is a mapping of one pair. -/
def flowItems (handles : List (Text × Text)) (first : Bool) : (fuel : Nat) → (acc : List Node) →
    Feed → Except Fault (List Node × Feed)
  | 0, _, _ => .error .badYaml
  | fuel + 1, acc, f =>
    match f.tokens, first with
    | .flowSequenceEnd :: _, _ => .ok (acc, f.drop 1)
    | .comma :: _, false => flowItem handles fuel acc (f.drop 1)
    | tokens, false => .error (misfit tokens)
    | _, true => flowItem handles fuel acc f

/-- The next item of a flow sequence after its comma, and the items after
it. -/
def flowItem (handles : List (Text × Text)) : (fuel : Nat) → (acc : List Node) → Feed →
    Except Fault (List Node × Feed)
  | 0, _, _ => .error .badYaml
  | fuel + 1, acc, f =>
    match f.tokens with
    | .flowSequenceEnd :: _ => .ok (acc, f.drop 1)
    | .key :: _ => do
      let (key, f) ← flowKey handles fuel (f.drop 1)
      let (value, f) ← flowValue handles fuel f
      flowItems handles false fuel (acc ++ [.mapping .mapping [(key, value)]]) f
    | _ => do
      let (item, f) ← node handles false false fuel f
      flowItems handles false fuel (acc ++ [item]) f

/-- The pairs of a flow mapping up to its brace; between pairs there is a
comma. -/
def flowPairs (handles : List (Text × Text)) (first : Bool) : (fuel : Nat) →
    (acc : List (Node × Node)) → Feed → Except Fault (List (Node × Node) × Feed)
  | 0, _, _ => .error .badYaml
  | fuel + 1, acc, f =>
    match f.tokens, first with
    | .flowMappingEnd :: _, _ => .ok (acc, f.drop 1)
    | .comma :: _, false => flowPair handles fuel acc (f.drop 1)
    | tokens, false => .error (misfit tokens)
    | _, true => flowPair handles fuel acc f

/-- The next pair of a flow mapping after its comma, and the pairs after
it. -/
def flowPair (handles : List (Text × Text)) : (fuel : Nat) → (acc : List (Node × Node)) → Feed →
    Except Fault (List (Node × Node) × Feed)
  | 0, _, _ => .error .badYaml
  | fuel + 1, acc, f =>
    match f.tokens with
    | .flowMappingEnd :: _ => .ok (acc, f.drop 1)
    | .key :: _ => do
      let (key, f) ← flowKey handles fuel (f.drop 1)
      let (value, f) ← flowValue handles fuel f
      flowPairs handles false fuel (acc ++ [(key, value)]) f
    | _ => do
      let (key, f) ← node handles false false fuel f
      flowPairs handles false fuel (acc ++ [(key, .missing)]) f

/-- The key of a pair in a flow collection. -/
def flowKey (handles : List (Text × Text)) : (fuel : Nat) → Feed → Except Fault (Node × Feed)
  | 0, _ => .error .badYaml
  | fuel + 1, f =>
    match f.tokens with
    | .value :: _ => .ok (.missing, f)
    | _ => flowNode handles fuel f

/-- The value of a pair in a flow collection. -/
def flowValue (handles : List (Text × Text)) : (fuel : Nat) → Feed → Except Fault (Node × Feed)
  | 0, _ => .error .badYaml
  | fuel + 1, f =>
    match f.tokens with
    | .value :: _ => flowNode handles fuel (f.drop 1)
    | _ => .ok (.missing, f)

/-- The node of a key or a value in a flow collection. -/
def flowNode (handles : List (Text × Text)) : (fuel : Nat) → Feed → Except Fault (Node × Feed)
  | 0, _ => .error .badYaml
  | fuel + 1, f =>
    if endsFlowItem f.tokens then .ok (.missing, f) else node handles false false fuel f

end

/-! ### Documents -/

/-- The handles that need no directive. -/
def standardHandles : List (Text × Text) := [("!", "!"), ("!!", standardStart)]

/-- The handles of the directives that the tokens begin with, and the tokens
after them. The version must be the first and is given once, as is each
handle. -/
def directives (versioned : Bool) (handles : List (Text × Text)) : List Token →
    Except Fault (List (Text × Text) × List Token)
  | .directive (.version major) :: rest =>
    if versioned || major != 1 then .error .badYaml else directives true handles rest
  | .directive (.tagHandle handle start) :: rest =>
    if (handles.lookup handle).isSome then .error .badYaml
    else directives versioned (handles ++ [(handle, start)]) rest
  | .directive .other :: rest => directives versioned handles rest
  | tokens => .ok (handles ++ standardHandles, tokens)

/-- After the document there must be nothing but marks of its end. -/
def checkEnd : List Token → Except Fault Unit
  | [] => .ok ()
  | .documentEnd :: rest => checkEnd rest
  | tokens => do
    let (_, rest) ← directives false [] tokens
    .error (misfit rest)

/-- The document without its start. -/
def documentBody (handles : List (Text × Text)) (tokens : List Token) : Except Fault Node := do
  let (n, f) ← node handles true false (5 * tokens.length + 5) ⟨tokens, []⟩
  checkEnd f.tokens
  return n

/-- The document after the mark of its start; it may be empty. -/
def markedBody (handles : List (Text × Text)) (tokens : List Token) : Except Fault Node :=
  let empty := do
    checkEnd tokens
    return Node.missing
  match tokens with
  | [] => empty
  | .directive _ :: _ => empty
  | .documentStart :: _ => empty
  | .documentEnd :: _ => empty
  | _ => documentBody handles tokens

/-- The document that the tokens hold, a missing node if there is none. After
directives it must have the mark of its start. -/
def Node.ofTokens (tokens : List Token) : Except Fault Node :=
  let marked := do
    match ← directives false [] tokens with
    | (handles, .documentStart :: rest) => markedBody handles rest
    | (_, rest) => .error (misfit rest)
  match tokens with
  | [] => .ok .missing
  | .directive _ :: _ => marked
  | .documentStart :: _ => marked
  | _ => documentBody standardHandles tokens

end Yaml

end TwinQuery
