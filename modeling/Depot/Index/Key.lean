import Depot.Field.Value

/-!
# The order of stored values

The index compares values across shapes: what is missing comes first, then numbers by
their exact value, then texts by code points. A `SortKey` is a value as this order sees
it; the number word that denotes no number counts as missing. Comparisons in conditions
never hold of a missing value.
-/

namespace Depot

/-- A value as the order of the index sees it. -/
inductive SortKey where
  | missing
  | number (value : ExtendedRational)
  | text (value : String)
  deriving DecidableEq

namespace SortKey

/-- Missing values come before numbers, numbers before texts. -/
def le : SortKey → SortKey → Bool
  | missing, _ => true
  | number _, missing => false
  | number left, number right => left.le right
  | number _, text _ => true
  | text left, text right => decide (left ≤ right)
  | text _, _ => false

/-- `le` relates every two keys one way or the other. -/
theorem le_total (left right : SortKey) : (left.le right || right.le left) = true := by
  cases left with
  | missing => rfl
  | number left => cases right <;> simp [le, ExtendedRational.le_total]
  | text left =>
    cases right with
    | text right =>
      simp only [le, Bool.or_eq_true, decide_eq_true_eq]
      exact String.le_total left right
    | _ => simp [le]

/-- `le` chains. -/
theorem le_trans {lower middle upper : SortKey} (first : lower.le middle = true)
    (second : middle.le upper = true) : lower.le upper = true := by
  cases lower <;> cases middle <;> cases upper <;> simp_all [le]
  · exact ExtendedRational.le_trans first second
  · exact String.le_trans first second

/-- Keys below each other are the same key. -/
theorem le_antisymm {left right : SortKey} (first : left.le right = true)
    (second : right.le left = true) : left = right := by
  cases left <;> cases right <;> simp_all [le]
  · exact ExtendedRational.le_antisymm first second
  · exact String.le_antisymm first second

/-- Whether a key is there to be compared with. -/
def isPresent : SortKey → Bool
  | missing => false
  | _ => true

end SortKey

/-- The key of a stored value. -/
def StoredValue.sortKey : StoredValue → SortKey
  | integer value => .number (.finite value)
  | real value =>
    match value.toExtended? with
    | some point => .number point
    | none => .missing
  | text value => .text value

/-- The comparisons that conditions make. -/
inductive Comparison where
  | equal
  | atLeast
  | atMost
  deriving DecidableEq

namespace Comparison

/-- The operator of a comparison. -/
def operator : Comparison → String
  | equal => "="
  | atLeast => ">="
  | atMost => "<="

/-- Whether a comparison holds between a column's key and an operand's. -/
def holds (comparison : Comparison) (column operand : SortKey) : Bool :=
  column.isPresent && operand.isPresent &&
    match comparison with
    | equal => column == operand
    | atLeast => operand.le column
    | atMost => column.le operand

end Comparison
end Depot
