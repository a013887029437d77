import Depot.Index.Key
import Depot.Index.Table

/-!
# Conditions on documents

A condition selects rows of the table of documents. In its written form the operands are
places marked `?`; the values come in a list beside it and are put into the places from
left to right. `Condition` therefore takes what stands in its places as a parameter:
`Condition Unit` is the written form, `Condition StoredValue` is a condition that can be
evaluated, and `Condition.bind?` leads from the one to the other.
-/

namespace Depot

/-- The columns that conditions compare. -/
inductive Column where
  | documentId
  | fieldName
  | fieldKind
  | fieldValue
  deriving DecidableEq

namespace Column

/-- The name of a column in a statement. -/
def text : Column → String
  | documentId => "d.doc_id"
  | fieldName => "f.name"
  | fieldKind => "f.kind"
  | fieldValue => "f.value"

/-- What a column holds in a document row and, inside an existence test, a field row. -/
def read (document : DocumentRow) (field : Option FieldRow) : Column → SortKey
  | documentId => .text document.documentId
  | fieldName => (field.map fun row => SortKey.text row.name).getD .missing
  | fieldKind => (field.map fun row => SortKey.text row.kind).getD .missing
  | fieldValue => (field.map fun row => row.value.sortKey).getD .missing

end Column

/-- The two ways to join conditions. -/
inductive Connective where
  | conjunction
  | disjunction
  deriving DecidableEq

namespace Connective

/-- How a connective is written between two conditions. -/
def text : Connective → String
  | conjunction => " AND "
  | disjunction => " OR "

/-- The truth value of two joined conditions. -/
def join : Connective → Bool → Bool → Bool
  | conjunction, left, right => left && right
  | disjunction, left, right => left || right

end Connective

/-- A condition with a value of type `hole` in each of its places. -/
inductive Condition (hole : Type) where
  | constant (value : Bool)
  /-- The field row belongs to the document row. -/
  | owned
  | compare (column : Column) (comparison : Comparison) (operand : hole)
  | among (column : Column) (operands : List hole)
  | joined (connective : Connective) (left right : Condition hole)
  | grouped (inner : Condition hole)
  /-- Some field row fulfils the inner condition. -/
  | fieldExists (inner : Condition hole)
  deriving DecidableEq

namespace Condition

/-- The written form of a condition. -/
def text : Condition Unit → String
  | constant value => if value then "1 = 1" else "1 = 0"
  | owned => "f.document_id = d.id"
  | compare column comparison _ => column.text ++ " " ++ comparison.operator ++ " ?"
  | among column operands =>
    column.text ++ " IN (" ++ ", ".intercalate (operands.map fun _ => "?") ++ ")"
  | joined connective left right => text left ++ connective.text ++ text right
  | grouped inner => "(" ++ text inner ++ ")"
  | fieldExists inner => "EXISTS (SELECT 1 FROM document_fields f WHERE " ++ text inner ++ ")"

/-- The contents of the places, from left to right. -/
def operands {hole : Type} : Condition hole → List hole
  | constant _ => []
  | owned => []
  | compare _ _ operand => [operand]
  | among _ values => values
  | joined _ left right => operands left ++ operands right
  | grouped inner => operands inner
  | fieldExists inner => operands inner

/-- The number of places. -/
def places (condition : Condition Unit) : Nat := condition.operands.length

/-- The height of a condition as an expression of the database. Parentheses do not count; a
column and what it is compared with lie under the comparison, and the column under its table. -/
def height {hole : Type} : Condition hole → Nat
  | constant _ => 2
  | owned => 3
  | compare _ _ _ => 3
  | among _ _ => 3
  | joined _ left right => max (height left) (height right) + 1
  | grouped inner => height inner
  | fieldExists inner => height inner + 1

/-- The greatest height of the conditions inside the existence tests of a condition. -/
def innerHeight {hole : Type} : Condition hole → Nat
  | joined _ left right => max (innerHeight left) (innerHeight right)
  | grouped inner => innerHeight inner
  | fieldExists inner => max (height inner) (innerHeight inner)
  | _ => 0

/-- Forgets the contents of the places. -/
def shape {hole : Type} : Condition hole → Condition Unit
  | constant value => constant value
  | owned => owned
  | compare column comparison _ => compare column comparison ()
  | among column values => among column (values.map fun _ => ())
  | joined connective left right => joined connective (shape left) (shape right)
  | grouped inner => grouped (shape inner)
  | fieldExists inner => fieldExists (shape inner)

/-- Takes as many values as there are places off the front of a list. -/
def takeExactly? {α : Type} : Nat → List α → Option (List α × List α)
  | 0, values => some ([], values)
  | _ + 1, [] => none
  | count + 1, value :: rest => do
    let (taken, left) ← takeExactly? count rest
    some (value :: taken, left)

/-- Taking the length of a front gives back that front. -/
theorem takeExactly?_append {α : Type} (front rest : List α) :
    takeExactly? front.length (front ++ rest) = some (front, rest) := by
  induction front with
  | nil => rfl
  | cons value front inductionHypothesis => simp [takeExactly?, inductionHypothesis]

/-- Puts values into the places from left to right; what is left over comes back. -/
def bind? {hole : Type} : Condition Unit → List hole → Option (Condition hole × List hole)
  | constant value, values => some (constant value, values)
  | owned, values => some (owned, values)
  | compare column comparison _, values =>
    match values with
    | [] => none
    | operand :: rest => some (compare column comparison operand, rest)
  | among column places, values => do
    let (taken, rest) ← takeExactly? places.length values
    some (among column taken, rest)
  | joined connective left right, values => do
    let (boundLeft, middle) ← bind? left values
    let (boundRight, rest) ← bind? right middle
    some (joined connective boundLeft boundRight, rest)
  | grouped inner, values => do
    let (bound, rest) ← bind? inner values
    some (grouped bound, rest)
  | fieldExists inner, values => do
    let (bound, rest) ← bind? inner values
    some (fieldExists bound, rest)

/-- Binding the operands of a condition to its shape restores the condition. -/
theorem bind?_shape {hole : Type} (condition : Condition hole) (rest : List hole) :
    condition.shape.bind? (condition.operands ++ rest) = some (condition, rest) := by
  induction condition generalizing rest with
  | constant value => rfl
  | owned => rfl
  | compare column comparison operand => rfl
  | among column values => simp [shape, bind?, operands, takeExactly?_append]
  | joined connective left right leftHypothesis rightHypothesis =>
    simp [shape, bind?, operands, List.append_assoc, leftHypothesis, rightHypothesis]
  | grouped inner inductionHypothesis => simp [shape, bind?, operands, inductionHypothesis]
  | fieldExists inner inductionHypothesis =>
    simp [shape, bind?, operands, inductionHypothesis]

/-- The truth value of a condition for a document row, given the table of fields and, inside
an existence test, the field row that is looked at. -/
def holds (fields : List FieldRow) (document : DocumentRow) :
    Option FieldRow → Condition StoredValue → Bool
  | _, constant value => value
  | field, owned => field.any fun row => row.owner == document.rowId
  | field, compare column comparison operand =>
    comparison.holds (column.read document field) operand.sortKey
  | field, among column operands =>
    operands.any fun operand =>
      Comparison.equal.holds (column.read document field) operand.sortKey
  | field, joined connective left right =>
    connective.join (holds fields document field left) (holds fields document field right)
  | field, grouped inner => holds fields document field inner
  | _, fieldExists inner => fields.any fun row => holds fields document (some row) inner

end Condition
end Depot
