import Depot.Proofs.Encodable
import Depot.Proofs.Binding
import Depot.Proofs.Meaning
import Mathlib.Data.List.Forall2

/-!
# Comparing with stored values

The index compares the key of a column with the key of an operand, and keeps the kind of a
value beside it. Under equal kinds its comparisons are those of the values themselves.
-/

namespace Depot

/-- Results that are computed one after the other belong to the arguments one by one. -/
theorem forall₂_of_mapM {ε α β : Type} {compute : α → Except ε β} {arguments : List α}
    {results : List β} (done : arguments.mapM compute = .ok results) :
    List.Forall₂ (fun argument result => compute argument = .ok result) arguments results := by
  induction arguments generalizing results with
  | nil =>
    cases done
    exact .nil
  | cons argument rest inductionHypothesis =>
    rw [List.mapM_cons] at done
    cases first : compute argument with
    | error fault => rw [first] at done; cases done
    | ok result =>
      cases later : rest.mapM compute with
      | error fault => rw [first, later] at done; cases done
      | ok others =>
        rw [first, later] at done
        cases done
        exact .cons first (inductionHypothesis later)

/-- Every member of the second of two related lists is related to a member of the first. -/
theorem exists_of_mem_forall₂ {α β : Type} {related : α → β → Prop} {left : List α}
    {right : List β} (each : List.Forall₂ related left right) {result : β}
    (member : result ∈ right) : ∃ argument ∈ left, related argument result := by
  induction each with
  | nil => cases member
  | cons first later inductionHypothesis =>
    rcases List.mem_cons.mp member with rfl | inRest
    · exact ⟨_, List.mem_cons_self, first⟩
    · obtain ⟨argument, argumentMember, found⟩ := inductionHypothesis inRest
      exact ⟨argument, List.mem_cons_of_mem _ argumentMember, found⟩

namespace Comparison

/-- Being at least an operand is being above it. -/
theorem atLeast_holds (column operand : SortKey) :
    atLeast.holds column operand = atMost.holds operand column := by
  rw [holds, holds, Bool.and_comm column.isPresent]

/-- Texts are equal as strings. -/
@[simp] theorem equal_holds_text (left right : String) :
    equal.holds (.text left) (.text right) = decide (left = right) := by
  rw [Bool.eq_iff_iff]
  simp [holds, SortKey.isPresent]

/-- Numbers are equal as points. -/
@[simp] theorem equal_holds_number (left right : ExtendedRational) :
    equal.holds (.number left) (.number right) = (left == right) := by
  rw [Bool.eq_iff_iff]
  simp [holds, SortKey.isPresent]

/-- Texts are ordered as strings. -/
@[simp] theorem atMost_holds_text (left right : String) :
    atMost.holds (.text left) (.text right) = decide (left ≤ right) := by
  simp [holds, SortKey.isPresent, SortKey.le]

end Comparison

namespace FieldValue

/-- The key of a stored number is the point that the number denotes. -/
theorem sortKey_stored_of_number {value : FieldValue} (isNumber : value.kind = .number) :
    value.stored.sortKey = (value.toDatum.point?.map SortKey.number).getD .missing := by
  cases value with
  | boolean flag => cases isNumber
  | text label => cases isNumber
  | integer number => rfl
  | real number =>
    rw [stored, StoredValue.sortKey, toDatum, Datum.point?]
    cases number.toExtended? <;> rfl

/-- Numbers are equal when they denote one point. -/
theorem equal_holds_of_number {left right : FieldValue} (leftNumber : left.kind = .number)
    (rightNumber : right.kind = .number) :
    Comparison.equal.holds left.stored.sortKey right.stored.sortKey =
      left.toDatum.agrees right.toDatum := by
  rw [sortKey_stored_of_number leftNumber, sortKey_stored_of_number rightNumber]
  have asPoints : left.toDatum.agrees right.toDatum =
      Datum.testPoints (fun leftPoint rightPoint => leftPoint == rightPoint) left.toDatum
        right.toDatum := by
    cases left <;> cases leftNumber <;> cases right <;> cases rightNumber <;> rfl
  rw [asPoints, Datum.testPoints]
  cases left.toDatum.point? with
  | none => rfl
  | some leftPoint =>
    cases right.toDatum.point? with
    | none => rfl
    | some rightPoint => exact Comparison.equal_holds_number leftPoint rightPoint

/-- Numbers are ordered by the points that they denote. -/
theorem atMost_holds_of_number {left right : FieldValue} (leftNumber : left.kind = .number)
    (rightNumber : right.kind = .number) :
    Comparison.atMost.holds left.stored.sortKey right.stored.sortKey =
      left.toDatum.atMost right.toDatum := by
  rw [sortKey_stored_of_number leftNumber, sortKey_stored_of_number rightNumber]
  have asPoints : left.toDatum.atMost right.toDatum =
      Datum.testPoints ExtendedRational.le left.toDatum right.toDatum := by
    cases left <;> cases leftNumber <;> cases right <;> cases rightNumber <;> rfl
  rw [asPoints, Datum.testPoints]
  cases left.toDatum.point? <;> cases right.toDatum.point? <;> rfl

/-- Values of different kinds do not agree. -/
theorem agrees_of_kind_ne {left right : FieldValue} (different : left.kind ≠ right.kind) :
    left.toDatum.agrees right.toDatum = false := by
  cases left <;> cases right <;>
    first
      | exact absurd rfl different
      | simp [toDatum, Datum.agrees, Datum.testPoints, Datum.point?]

/-- Values of different kinds are not ordered. -/
theorem atMost_of_kind_ne {left right : FieldValue} (different : left.kind ≠ right.kind) :
    left.toDatum.atMost right.toDatum = false := by
  cases left <;> cases right <;>
    first
      | exact absurd rfl different
      | simp [toDatum, Datum.atMost, Datum.testPoints, Datum.point?]

/-- Values agree when their kinds and their stored keys are equal. -/
theorem equal_holds_stored {left right : FieldValue} (leftEncodable : left.isEncodable = true)
    (rightEncodable : right.isEncodable = true) :
    (decide (left.kind = right.kind) &&
      Comparison.equal.holds left.stored.sortKey right.stored.sortKey) =
      left.toDatum.agrees right.toDatum := by
  by_cases same : left.kind = right.kind
  · rw [decide_eq_true same, Bool.true_and]
    cases leftKind : left.kind with
    | number => exact equal_holds_of_number leftKind (same.symm.trans leftKind)
    | boolean =>
      cases left <;> cases leftKind
      cases right <;> cases same
      rename_i leftFlag rightFlag
      cases leftFlag <;> cases rightFlag <;> rfl
    | string =>
      cases left <;> cases leftKind
      cases right <;> cases same
      rename_i leftText rightText
      rw [stored, stored, StoredValue.sortKey, StoredValue.sortKey, Comparison.equal_holds_text,
        toDatum, toDatum, Datum.agrees, beq_eq_decide]
      exact decide_eq_decide.mpr (Text.toStringLossy_inj leftEncodable rightEncodable)
  · rw [decide_eq_false same, Bool.false_and, agrees_of_kind_ne same]

/-- Values that are not both booleans are in ascending order when their kinds are equal and their
stored keys are in ascending order. -/
theorem atMost_holds_stored {left right : FieldValue} (leftEncodable : left.isEncodable = true)
    (rightEncodable : right.isEncodable = true)
    (comparable : ¬ (left.kind = .boolean ∧ right.kind = .boolean)) :
    (decide (left.kind = right.kind) &&
      Comparison.atMost.holds left.stored.sortKey right.stored.sortKey) =
      left.toDatum.atMost right.toDatum := by
  by_cases same : left.kind = right.kind
  · rw [decide_eq_true same, Bool.true_and]
    cases leftKind : left.kind with
    | number => exact atMost_holds_of_number leftKind (same.symm.trans leftKind)
    | boolean => exact absurd ⟨leftKind, same.symm.trans leftKind⟩ comparable
    | string =>
      cases left <;> cases leftKind
      cases right <;> cases same
      rename_i leftText rightText
      rw [stored, stored, StoredValue.sortKey, StoredValue.sortKey, Comparison.atMost_holds_text,
        toDatum, toDatum, Datum.atMost, ← Text.ofString_toStringLossy leftEncodable,
        ← Text.ofString_toStringLossy rightEncodable]
      simp only [Text.toStringLossy_ofString, Text.codesAtMost_ofString]
  · rw [decide_eq_false same, Bool.false_and, atMost_of_kind_ne same]

/-- A value with the kind under which it is compared, in the form in which it is handed over. -/
def typed (value : FieldValue) : ValueKind × Parameter := (value.kind, value.parameter)

/-- A comparable value is a field value that fits and is a number if it is a real. -/
theorem of_comparand {given : Datum} {pair : ValueKind × Parameter}
    (accepted : comparand given = .ok pair) :
    ∃ value : FieldValue, given = value.toDatum ∧ value.fits = true ∧ value.isNaN = false ∧
      pair = value.typed := by
  cases given with
  | boolean flag =>
    cases accepted
    exact ⟨.boolean flag, rfl, rfl, rfl, rfl⟩
  | integer number =>
    rw [comparand, ValueKind.ofDatum] at accepted
    split at accepted
    · rename_i fits
      cases accepted
      exact ⟨.integer number, rfl, fits, rfl, rfl⟩
    · cases accepted
  | real number =>
    rw [comparand, ValueKind.ofDatum] at accepted
    split at accepted
    · cases accepted
    · rename_i isNumber
      cases accepted
      exact ⟨.real number, rfl, rfl, Bool.eq_false_iff.mpr isNumber, rfl⟩
  | text label =>
    cases accepted
    exact ⟨.text label, rfl, rfl, rfl, rfl⟩
  | null => cases accepted
  | bytes content => cases accepted
  | sequence items => cases accepted
  | record entries => cases accepted

/-- Comparable values are field values that fit. -/
theorem of_mapM_comparand {given : List Datum} {pairs : List (ValueKind × Parameter)}
    (accepted : given.mapM comparand = .ok pairs) :
    ∃ values : List FieldValue, given = values.map toDatum ∧
      (∀ value ∈ values, value.fits = true ∧ value.isNaN = false) ∧
      pairs = values.map typed := by
  have each := forall₂_of_mapM accepted
  clear accepted
  induction each with
  | nil => exact ⟨[], rfl, by simp, rfl⟩
  | cons first later inductionHypothesis =>
    obtain ⟨value, rfl, fits, comparable, rfl⟩ := of_comparand first
    obtain ⟨values, rfl, each, rfl⟩ := inductionHypothesis
    exact ⟨value :: values, rfl, List.forall_mem_cons.mpr ⟨⟨fits, comparable⟩, each⟩, rfl⟩

/-- A value that fits can be handed over exactly when it can be kept. -/
theorem isBindable_parameter {value : FieldValue} (fits : value.fits = true) :
    value.parameter.isBindable = value.isEncodable := by
  cases value with
  | boolean flag => cases flag <;> rfl
  | integer number => exact fits
  | real number => rfl
  | text label => rfl

/-- The parameter of a value that fits is in range. -/
theorem fits_parameter {value : FieldValue} (fits : value.fits = true) :
    value.parameter.fits = true := by
  cases value with
  | boolean flag => cases flag <;> rfl
  | integer number => exact fits
  | real number => rfl
  | text label => rfl

end FieldValue
end Depot
