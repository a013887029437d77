import Depot.Proofs.Binding
import Depot.Proofs.Listing
import Depot.Proofs.Selecting

/-!
# Orders of rows

The order of a search sorts rows by keys that it reads from the tables, and breaks ties by row
numbers. Rows that stand for documents are sorted as the documents are by the keys of a sort.
-/

namespace Depot

/-- The key of a stored value is the key of the value. -/
@[simp] theorem FieldValue.sortKey_stored (value : FieldValue) :
    value.stored.sortKey = value.sortKey := by
  cases value with
  | boolean flag => cases flag <;> rfl
  | integer number => rfl
  | real number =>
    rw [stored, StoredValue.sortKey, sortKey]
    cases number.toExtended? <;> rfl
  | text label => rfl

namespace OrderClause

/-- Whether all values of an order can be handed to the index. -/
def isBindable (order : OrderClause) : Bool := order.parameters.all Parameter.isBindable

/-- An order means a key of documents. -/
def Means (order : OrderClause) (key : Metadata → SortKey) : Prop :=
  ∃ bound : OrderKey StoredValue,
    (∀ rest, order.key.bind? (order.parameters.map Parameter.bound ++ rest) = some (bound, rest)) ∧
      ∀ (tables : Tables) (row : DocumentRow) (document : Metadata),
        row.StandsFor tables.fields document → tables.orderKey bound row = key document

/-- The order of filing gives all documents one key. -/
theorem means_filing : filing.Means fun _ => .missing :=
  ⟨.filing, fun _ => rfl, fun _ _ _ _ => rfl⟩

/-- An order by the identifier. -/
theorem means_documentId (direction : SortDirection) :
    Means ⟨.documentId, direction, []⟩ fun document => .text document.documentId := by
  refine ⟨.documentId, fun _ => rfl, ?_⟩
  intro tables row document standsFor
  rw [Tables.orderKey, standsFor.documentId]

/-- Looking for a row of a document by a name finds the row of its field. -/
theorem find?_rows {name : Text} (nameEncodable : name.isEncodable = true) {fields : List Field}
    (encodable : ∀ field ∈ fields, field.isEncodable = true) (owner position : Nat) :
    ((Field.rows owner position fields).find? fun row =>
        Comparison.equal.holds (.text row.name) (.text name.toStringLossy)).map
        (fun row => row.value.sortKey) =
      (fields.find? fun field => field.name = name).map fun field => field.value.sortKey := by
  induction fields generalizing position with
  | nil => rfl
  | cons field rest inductionHypothesis =>
    rw [List.forall_mem_cons] at encodable
    have sameName := Text.toStringLossy_inj (field.isEncodable_iff.mp encodable.1).1 nameEncodable
    rw [Field.rows, List.find?_cons, List.find?_cons, Field.row, Comparison.equal_holds_text,
      decide_eq_decide.mpr sameName]
    cases decide (field.name = name) with
    | true => simp
    | false => exact inductionHypothesis encodable.2 (position + 1)

/-- An order by a field. -/
theorem means_field (direction : SortDirection) {name : Text}
    (nameEncodable : name.isEncodable = true) (ordinary : name ≠ FieldName.identifier) :
    Means ⟨.field (), direction, [.text name]⟩ fun document => document.sortKey name := by
  refine ⟨.field (.text name.toStringLossy), fun _ => rfl, ?_⟩
  intro tables row document standsFor
  have found := find?_rows nameEncodable standsFor.encodable row.rowId 0
  rw [← standsFor.fieldRows, List.find?_filter] at found
  simp only [Bool.decide_and, Bool.decide_eq_true] at found
  have keyed : document.sortKey name = (((tables.fields.find? fun field =>
      field.owner == row.rowId && Comparison.equal.holds (.text field.name)
        (.text name.toStringLossy)).map fun field => field.value.sortKey)).getD .missing := by
    rw [Metadata.sortKey, if_neg ordinary, ← found]
  refine Eq.trans ?_ keyed.symm
  rw [Tables.orderKey]
  simp only [StoredValue.sortKey]
  cases tables.fields.find? fun field => field.owner == row.rowId &&
    Comparison.equal.holds (.text field.name) (.text name.toStringLossy) <;> rfl

/-- An accepted sort names the identifier or a field, and a direction. -/
theorem of_ofSort {sort : SortOrder} {order : OrderClause}
    (accepted : ofSort (some sort) = .ok order) :
    ∃ name direction, sort.field = .text name ∧ sort.reading? = some (name, direction) ∧
      ((name = FieldName.identifier ∧ order = ⟨.documentId, direction, []⟩) ∨
        (name ≠ FieldName.identifier ∧ order = ⟨.field (), direction, [.text name]⟩)) := by
  rw [ofSort] at accepted
  cases named : queryFieldName sort.field with
  | error error => rw [named] at accepted; cases accepted
  | ok name =>
    have isName := Clause.of_queryFieldName named
    cases directed : SortDirection.ofDatum? sort.direction with
    | none => simp [named, directed, bind, Except.bind] at accepted
    | some direction =>
      have reads : sort.reading? = some (name, direction) := by
        rw [SortOrder.reading?, isName, directed]
        rfl
      refine ⟨name, direction, isName, reads, ?_⟩
      simp only [named, directed, bind, Except.bind] at accepted
      by_cases isIdentifier : name = FieldName.identifier
      · rw [if_pos isIdentifier] at accepted
        cases accepted
        exact .inl ⟨isIdentifier, rfl⟩
      · rw [if_neg isIdentifier] at accepted
        cases accepted
        exact .inr ⟨isIdentifier, rfl⟩

/-- The order of an accepted sort means its key, and has its direction. -/
theorem means_ofSort {sort : Option SortOrder} {order : OrderClause}
    (accepted : ofSort sort = .ok order) (bindable : order.isBindable = true) :
    order.Means (SortOrder.key sort) ∧ order.direction = SortOrder.way sort := by
  cases sort with
  | none =>
    cases accepted
    exact ⟨means_filing, rfl⟩
  | some sort =>
    obtain ⟨name, direction, -, reads, form⟩ := of_ofSort accepted
    have keyed : SortOrder.key (some sort) = fun document => document.sortKey name := by
      funext document
      rw [SortOrder.key, Option.bind_some, reads]
    have way : SortOrder.way (some sort) = direction := by
      rw [SortOrder.way, Option.bind_some, reads]
    rw [keyed, way]
    rcases form with ⟨isIdentifier, rfl⟩ | ⟨ordinary, rfl⟩
    · have identified (document : Metadata) :
          document.sortKey name = .text document.documentId := by
        rw [Metadata.sortKey, if_pos isIdentifier]
      rw [funext identified]
      exact ⟨means_documentId direction, rfl⟩
    · have nameEncodable : name.isEncodable = true := by simpa [isBindable] using bindable
      exact ⟨means_field direction nameEncodable ordinary, rfl⟩

end OrderClause

namespace Tables

/-- Sorting rows with their keys is sorting rows by their keys. -/
theorem ordered_eq_mergeSort (tables : Tables) (statement : BoundPage) :
    tables.ordered statement =
      (tables.select statement.indexName statement.condition).mergeSort fun left right =>
        precedes statement.direction (tables.orderKey statement.order left, left)
          (tables.orderKey statement.order right, right) := by
  let keyed (row : DocumentRow) : SortKey × DocumentRow :=
    (tables.orderKey statement.order row, row)
  have sorted := List.map_mergeSort (f := keyed)
    (r := fun left right => precedes statement.direction (keyed left) (keyed right))
    (s := precedes statement.direction)
    (l := tables.select statement.indexName statement.condition)
    fun _ _ _ _ => rfl
  rw [ordered]
  simp only [← sorted, keyed, List.map_map, Function.comp_def, List.map_id']

/-- Of two rows that stand in the order of their numbers, the keys decide. -/
theorem precedes_of_lt (direction : SortDirection) (leftKey rightKey : SortKey)
    {left right : DocumentRow} (numbered : left.rowId < right.rowId) :
    precedes direction (leftKey, left) (rightKey, right) =
      direction.admits leftKey rightKey := by
  simp only [precedes]
  split
  · rename_i same
    have sameKey : leftKey = rightKey := same
    rw [sameKey, SortDirection.admits_self, decide_eq_true (Nat.le_of_lt numbered)]
  · cases direction <;> rfl

/-- Rows in the order of their numbers are sorted as the documents that they stand for. -/
theorem forall₂_mergeSort {tables : Tables} {order : OrderKey StoredValue}
    {key : Metadata → SortKey} (direction : SortDirection)
    (keyOf : ∀ (row : DocumentRow) (document : Metadata),
      row.StandsFor tables.fields document → tables.orderKey order row = key document)
    {rows : List DocumentRow} {documents : List Metadata}
    (standFor : List.Forall₂ (fun row document => row.StandsFor tables.fields document)
      rows documents)
    (ascending : rows.Pairwise fun earlier later => earlier.rowId < later.rowId) :
    List.Forall₂ (fun row document => row.StandsFor tables.fields document)
      (rows.mergeSort fun left right => precedes direction
        (tables.orderKey order left, left) (tables.orderKey order right, right))
      (documents.mergeSort fun left right => direction.admits (key left) (key right)) := by
  obtain ⟨sameLength, each⟩ := List.forall₂_iff_zip.mp standFor
  -- rows and documents are sorted together, as pairs
  let pairs := rows.zip documents
  have ofRows : pairs.map Prod.fst = rows := List.map_fst_zip (Nat.le_of_eq sameLength)
  have ofDocuments : pairs.map Prod.snd = documents :=
    List.map_snd_zip (Nat.le_of_eq sameLength.symm)
  let byRow (left right : DocumentRow × Metadata) : Bool := precedes direction
    (tables.orderKey order left.1, left.1) (tables.orderKey order right.1, right.1)
  let byDocument (left right : DocumentRow × Metadata) : Bool :=
    direction.admits (key left.2) (key right.2)
  have agree : pairs.Pairwise fun earlier later =>
      byRow earlier later = byDocument earlier later := by
    have inOrder : pairs.Pairwise fun earlier later => earlier.1.rowId < later.1.rowId := by
      rw [← ofRows, List.pairwise_map] at ascending
      exact ascending
    refine inOrder.imp_of_mem ?_
    intro earlier later earlierMember laterMember numbered
    have earlierKey := keyOf earlier.1 earlier.2 (each earlierMember)
    have laterKey := keyOf later.1 later.2 (each laterMember)
    simp only [byRow, byDocument, earlierKey, laterKey]
    exact precedes_of_lt direction _ _ numbered
  have rowsSorted : (pairs.mergeSort byRow).map Prod.fst =
      rows.mergeSort fun left right => precedes direction
        (tables.orderKey order left, left) (tables.orderKey order right, right) := by
    rw [← ofRows]
    exact List.map_mergeSort fun _ _ _ _ => rfl
  have documentsSorted : (pairs.mergeSort byRow).map Prod.snd =
      documents.mergeSort fun left right => direction.admits (key left) (key right) := by
    rw [mergeSort_congr agree, ← ofDocuments]
    exact List.map_mergeSort fun _ _ _ _ => rfl
  rw [← rowsSorted, ← documentsSorted, List.forall₂_map_left_iff, List.forall₂_map_right_iff,
    List.forall₂_same]
  intro pair member
  exact each (List.mem_mergeSort.mp member)

end Tables
end Depot
