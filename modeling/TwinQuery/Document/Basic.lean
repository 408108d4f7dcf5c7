/-
# Documents

A document is what a JSON or YAML file holds: a scalar, a list, or an object.
YAML has a few more: pairs, as they stand in an ordered mapping, sets of
scalars, bytes, and collections that hold themselves.

An object keeps its fields in the order in which their keys first appeared,
and a key that appears again takes the later value at the earlier place. Keys
of a YAML object may be any scalar; two keys are the same when their values
are equal, so that `1`, `1.0` and `true` are one key.

Key definitions: `Scalar`, `Doc`, `Scalar.sameKey`, `Doc.isTruthy`,
`Doc.kind`, `Fields.put`, `Doc.field?`.
-/
import TwinQuery.Number.Binary64
import TwinQuery.Text.Basic
import TwinQuery.Time.Stamp

namespace TwinQuery

/-- A value without parts. -/
inductive Scalar where
  | null
  | bool (b : Bool)
  | int (i : Int)
  | float (x : Binary64)
  | text (t : Text)
  | date (d : Date)
  | stamp (s : Stamp)
  | bytes (values : List Nat)
deriving DecidableEq

/-- The kinds of documents that error messages tell apart. -/
inductive Kind where
  | null
  | bool
  | int
  | float
  | text
  | date
  | stamp
  | bytes
  | list
  | object
  | pair
  | members
deriving DecidableEq

/-- The name of a kind in an error message. -/
def Kind.name : Kind → Text
  | .null => "NoneType"
  | .bool => "bool"
  | .int => "int"
  | .float => "float"
  | .text => "str"
  | .date => "datetime.date"
  | .stamp => "datetime.datetime"
  | .bytes => "bytes"
  | .list => "list"
  | .object => "dict"
  | .pair => "tuple"
  | .members => "set"

/-- The name of a kind without the part before its dot. -/
def Kind.shortName : Kind → Text
  | .date => "date"
  | .stamp => "datetime"
  | kind => kind.name

/-- A document. A list or an object may hold itself; in it stands the kind of
what encloses the place. -/
inductive Doc where
  | atom (s : Scalar)
  | list (items : List Doc)
  | object (fields : List (Scalar × Doc))
  | pair (first second : Doc)
  | members (items : List Scalar)
  | enclosing (kind : Kind)

namespace Scalar

/-- The kind of a scalar. -/
def kind : Scalar → Kind
  | .null => .null
  | .bool _ => .bool
  | .int _ => .int
  | .float _ => .float
  | .text _ => .text
  | .date _ => .date
  | .stamp _ => .stamp
  | .bytes _ => .bytes

/-- Null, false, zero, the empty text and no bytes count as false, all else as
true. -/
def isTruthy : Scalar → Bool
  | .null => false
  | .bool b => b
  | .int i => i != 0
  | .float x => !x.isZero
  | .text t => !t.isEmpty
  | .date _ => true
  | .stamp _ => true
  | .bytes values => !values.isEmpty

/-- The integer that a truth value or an integer stands for. -/
def toInt? : Scalar → Option Int
  | .bool b => some (if b then 1 else 0)
  | .int i => some i
  | _ => none

/-- Whether two scalars are the same key of an object: numbers and truth
values are compared by their numeric value, time stamps by the time they
stand for. What is not a number is one key. -/
def sameKey (a b : Scalar) : Bool :=
  match a, b with
  | .float x, .float y => x == y || x.equals y
  | .stamp x, .stamp y => x.sameTime y
  | .float x, b => (b.toInt?.map x.equalsInt).getD false
  | a, .float y => (a.toInt?.map y.equalsInt).getD false
  | a, b =>
    match a.toInt?, b.toInt? with
    | some i, some j => i == j
    | _, _ => a == b

/-- The text of a scalar that is one. -/
def text? : Scalar → Option Text
  | .text t => some t
  | _ => none

end Scalar

namespace Fields

variable {α : Type}

/-- The value at a key. -/
def get? (key : Scalar) : List (Scalar × α) → Option α
  | [] => none
  | (k, v) :: rest => if k.sameKey key then some v else get? key rest

/-- The fields with `value` at `key`: at the place of that key if it is there,
else at the end. A key that is there keeps its spelling. -/
def put (key : Scalar) (value : α) : List (Scalar × α) → List (Scalar × α)
  | [] => [(key, value)]
  | (k, v) :: rest => if k.sameKey key then (k, value) :: rest else (k, v) :: put key value rest

/-- The fields with all of `updates` put in, in order. -/
def putAll (updates fields : List (Scalar × α)) : List (Scalar × α) :=
  updates.foldl (fun acc (key, value) => put key value acc) fields

/-- The fields in order of the first appearance of their keys, each with its
last value. -/
def ofPairs (pairs : List (Scalar × α)) : List (Scalar × α) := putAll pairs []

/-- A put keeps every key that was there. -/
theorem isSome_get?_put {name : Scalar} (key : Scalar) (value : α) :
    ∀ {fields : List (Scalar × α)}, (get? name fields).isSome →
      (get? name (put key value fields)).isSome
  | [], h => by cases h
  | (k, v) :: rest, h => by
    have ih := @isSome_get?_put name key value rest
    by_cases hk : k.sameKey key <;> by_cases hname : k.sameKey name <;> simp_all [put, get?]

/-- Updates keep every key that was there. -/
theorem isSome_get?_putAll {name : Scalar} : ∀ (updates : List (Scalar × α))
    {fields : List (Scalar × α)}, (get? name fields).isSome →
      (get? name (putAll updates fields)).isSome
  | [], _, h => h
  | (key, value) :: updates, _, h => isSome_get?_putAll updates (isSome_get?_put key value h)

end Fields

namespace Doc

/-- The null document. -/
def null : Doc := .atom .null

/-- A truth value. -/
def bool (b : Bool) : Doc := .atom (.bool b)

/-- An integer. -/
def int (i : Int) : Doc := .atom (.int i)

/-- A text. -/
def text (t : Text) : Doc := .atom (.text t)

/-- A list of texts. -/
def texts (ts : List Text) : Doc := .list (ts.map text)

/-- An object whose keys are texts. -/
def record (fields : List (Text × Doc)) : Doc :=
  .object (fields.map fun (name, value) => (.text name, value))

/-- The kind of a document. -/
def kind : Doc → Kind
  | .atom s => s.kind
  | .list _ => .list
  | .object _ => .object
  | .pair _ _ => .pair
  | .members _ => .members
  | .enclosing kind => kind

/-- Null, false, zero and everything empty count as false, all else as true. -/
def isTruthy : Doc → Bool
  | .atom s => s.isTruthy
  | .list items => !items.isEmpty
  | .object fields => !fields.isEmpty
  | .pair _ _ => true
  | .members items => !items.isEmpty
  | .enclosing _ => true

/-- The text of a document that is one. -/
def text? : Doc → Option Text
  | .atom (.text t) => some t
  | _ => none

/-- The fields of a document that is an object. -/
def fields? : Doc → Option (List (Scalar × Doc))
  | .object fields => some fields
  | _ => none

/-- Whether the document is null. -/
def isNull : Doc → Bool
  | .atom .null => true
  | _ => false

/-- The value of a field of an object, by a text key. -/
def field? (name : Text) : Doc → Option Doc
  | .object fields => Fields.get? (.text name) fields
  | _ => none

end Doc

end TwinQuery
