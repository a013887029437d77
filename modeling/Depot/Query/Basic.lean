import Depot.Query.Error

/-!
# Query trees

A query is a tree: leaves test one field, composites join their children. The type is
as wide as what callers can build, so a node may carry parts that its kind does not
use, anything in the place of a kind, or a child that is no query at all; the
selection made of a tree decides whether it has a meaning.
-/

namespace Depot

/-- The kind of a query node. -/
inductive QueryKind where
  | equals
  | among
  | range
  | present
  | all
  | any
  /-- Something else, as messages show it, and the name of its shape. -/
  | unknown (literal typeName : String)
  deriving DecidableEq

namespace QueryKind

/-- The name of a kind in query documents. -/
def label : QueryKind → String
  | equals => "equals"
  | among => "in"
  | range => "range"
  | present => "exists"
  | all => "and"
  | any => "or"
  | unknown literal _ => literal

/-- How messages show a kind. -/
def literal : QueryKind → String
  | unknown literal _ => literal
  | kind => Text.quoted kind.label

/-- The kind that a name denotes. -/
def ofLabel? (name : Text) : Option QueryKind :=
  [equals, among, range, present, all, any].find? fun kind => (kind.label : Text) == name

/-- The kind of a name, which is a kind of its own when no other has that name. -/
def ofLabel (label : String) : QueryKind :=
  (ofLabel? label).getD (unknown (Text.quoted label) "str")

/-- Whether nodes of the kind test one field. -/
def isLeaf : QueryKind → Bool
  | equals | among | range | present => true
  | _ => false

end QueryKind

/-- A query tree. `foreign` is a plain value that stands where a query is expected. -/
inductive Query where
  | node (kind : QueryKind) (field : Datum) (values : List Datum) (low high : Datum)
      (children : List Query)
  | foreign (given : Datum)

namespace Query

/-- The field equals the value. -/
def equals (field value : Datum) : Query := node .equals field [value] .null .null []

/-- The field equals one of the values. -/
def among (field : Datum) (values : List Datum) : Query := node .among field values .null .null []

/-- The field lies between two bounds, both included; a null bound is open. -/
def range (field low high : Datum) : Query := node .range field [] low high []

/-- The document has the field. -/
def present (field : Datum) : Query := node .present field [] .null .null []

/-- A composite node; its children are not checked. -/
def composite (kind : QueryKind) (children : List Query) : Query :=
  node kind .null [] .null .null children

/-- Every document. -/
def matchAll : Query := composite .all []

/-- The shape of the first child that is no query. -/
def foreignChild? : List Query → Option String
  | [] => none
  | foreign given :: _ => some given.typeName
  | node .. :: rest => foreignChild? rest

/-- A composite of queries; anything else among the children is refused. -/
def join (kind : QueryKind) (children : List Query) : Except QueryError Query :=
  match foreignChild? children with
  | some typeName => .error (.notChild typeName)
  | none => .ok (composite kind children)

/-- All children hold. -/
def all (children : List Query) : Except QueryError Query := join .all children

/-- Some child holds. -/
def any (children : List Query) : Except QueryError Query := join .any children

/-- The first of a node's values. -/
def value : Query → Datum
  | node _ _ values _ _ _ => values.headD .null
  | foreign given => given

/-- Whether a node tests one field. -/
def isLeaf : Query → Bool
  | node kind .. => kind.isLeaf
  | foreign _ => false

/-- The children of a node. -/
def children : Query → List Query
  | node _ _ _ _ _ children => children
  | foreign _ => []

end Query
end Depot
