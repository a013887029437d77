import Depot.Proofs.Handover
import Depot.Proofs.Slices

/-!
# Searches

An open index whose tables represent a catalogue answers a search that it can prepare and bind with
a slice of the sorted documents, and counts all of them, if the statement that fetches the fields of
the slice has a place for each of its rows.
-/

namespace Depot

/-- Reading a document back from the rows that stand for it gives the document. -/
theorem DocumentRow.StandsFor.toMetadata {tables : Tables} {row : DocumentRow}
    {document : Metadata} (standsFor : row.StandsFor tables.fields document) :
    row.toMetadata (tables.fieldsOf row.rowId) = .ok document := by
  have inOrder : tables.fieldsOf row.rowId = Field.rows row.rowId 0 document.fields := by
    rw [Tables.fieldsOf, standsFor.fieldRows]
    apply List.mergeSort_of_pairwise
    refine (Field.pairwise_position_rows row.rowId 0 document.fields).imp ?_
    intro left right ordered
    exact decide_eq_true ordered
  rw [DocumentRow.toMetadata, inOrder, Field.mapM_toField_rows standsFor.encodable]
  show Except.ok (Metadata.mk row.indexName row.documentId row.contentHash row.contentType
    document.fields) = .ok document
  rw [standsFor.indexName, standsFor.documentId, standsFor.contentHash, standsFor.contentType]

/-- Rows are read back as the documents that they stand for. -/
theorem Connection.load_of_forall₂ {tables : Tables} {rows : List DocumentRow}
    {documents : List Metadata}
    (standFor : List.Forall₂ (fun row document => row.StandsFor tables.fields document)
      rows documents) : load tables rows = .ok documents := by
  induction standFor with
  | nil => rfl
  | cons first later inductionHypothesis =>
    rw [load] at inductionHypothesis ⊢
    rw [List.mapM_cons, first.toMetadata, inductionHypothesis]
    rfl

namespace Tables

variable {tables : Tables} {catalogue : Catalogue}

/-- A condition that means a predicate selects the rows of the documents with the predicate. -/
theorem Represents.forall₂_select (represents : tables.Represents catalogue)
    {condition : Condition StoredValue} {predicate : Metadata → Bool}
    (truth : ∀ row document, DocumentRow.StandsFor row tables.fields document →
      condition.holds tables.fields row none = predicate document) (indexName : String) :
    List.Forall₂ (fun row document => row.StandsFor tables.fields document)
      (tables.select (.text indexName) condition)
      ((catalogue.inIndex indexName).filter predicate) := by
  rw [Catalogue.inIndex, List.filter_filter, select]
  refine List.rel_filter ?_ represents.documents
  intro row document standsFor
  have named : Comparison.equal.holds (.text row.indexName) (StoredValue.text indexName).sortKey =
      decide (document.indexName = indexName) := by
    rw [← standsFor.indexName]
    exact Comparison.equal_holds_text row.indexName indexName
  simp only [named, truth row document standsFor, Bool.and_comm]

/-- The rows of a selection stand in the order of their numbers. -/
theorem Represents.pairwise_select (represents : tables.Represents catalogue)
    (condition : Condition StoredValue) (indexName : StoredValue) :
    (tables.select indexName condition).Pairwise fun earlier later =>
      earlier.rowId < later.rowId := by
  have ascending := represents.ascending
  rw [List.pairwise_map] at ascending
  exact ascending.sublist List.filter_sublist

end Tables

namespace Selection

variable {selection : Selection} {indexName : Text}

/-- The count statement of a selection that can be handed over. -/
theorem bindCount_of_binds {condition : Condition StoredValue}
    (prepared : selection.countFault? = none) (nameEncodable : indexName.isEncodable = true)
    (bindable : selection.condition.isBindable = true)
    (binds : selection.condition.Binds condition) :
    selection.bindCount (selection.countParameters indexName) =
      .ok ⟨.text indexName.toStringLossy, condition⟩ := by
  have each : ∀ parameter ∈ selection.countParameters indexName,
      parameter.isBindable = true :=
    List.forall_mem_cons.mpr ⟨nameEncodable, List.all_eq_true.mp bindable⟩
  have bound := binds.bind? []
  rw [List.append_nil] at bound
  rw [bindCount, prepared, bindAll]
  simp only [Parameter.mapM_bind_of_isBindable each]
  simp only [countParameters, List.map_cons, bind, Except.bind, bound]
  rfl

/-- The page statement of a selection that can be handed over. -/
theorem bindPage_of_binds {condition : Condition StoredValue} {order : OrderKey StoredValue}
    (prepared : selection.pageFault? = none) (nameEncodable : indexName.isEncodable = true)
    (conditionBindable : selection.condition.isBindable = true)
    (orderBindable : selection.order.isBindable = true)
    (conditionBinds : selection.condition.Binds condition)
    (orderBinds : ∀ rest, selection.order.key.bind?
      (selection.order.parameters.map Parameter.bound ++ rest) = some (order, rest))
    {request : PageRequest} (sizeFits : fitsInteger request.size = true)
    (offsetFits : fitsInteger request.offset = true) :
    selection.bindPage (selection.pageParameters indexName request) =
      .ok ⟨.text indexName.toStringLossy, condition, order, selection.order.direction,
        request.size, request.offset⟩ := by
  have each : ∀ parameter ∈ selection.pageParameters indexName request,
      parameter.isBindable = true := by
    refine List.forall_mem_cons.mpr ⟨nameEncodable, ?_⟩
    rw [List.forall_mem_append, List.forall_mem_append]
    refine ⟨⟨List.all_eq_true.mp conditionBindable, List.all_eq_true.mp orderBindable⟩, ?_⟩
    intro parameter member
    rcases List.mem_pair.mp member with rfl | rfl
    · exact sizeFits
    · exact offsetFits
  rw [bindPage, prepared, bindAll]
  simp only [Parameter.mapM_bind_of_isBindable each]
  simp only [pageParameters, List.map_cons, List.map_append, List.append_assoc, bind, Except.bind,
    conditionBinds.bind?, orderBinds]
  rfl

end Selection

namespace Connection

variable {connection : Connection} {catalogue : Catalogue} {selection : Selection}
  {indexName : Text}

/-- A page of an index, if the statement that fetches its fields has a place for each row. -/
def loaded (indexName : Text) (page : Page Metadata) : Except Failure (Page Metadata) :=
  if parameterLimit < page.content.length then
    .error (searchFailure indexName (.database .tooManyParameters))
  else .ok page

/-- A selection that can be prepared and handed over is answered with a slice of the sorted
documents. -/
theorem Represents.search_of_means (represents : connection.Represents catalogue)
    {predicate : Metadata → Bool} {key : Metadata → SortKey}
    (conditionMeans : selection.condition.Means predicate)
    (orderMeans : selection.order.Means key) (countPrepared : selection.countFault? = none)
    (pagePrepared : selection.pageFault? = none) (nameEncodable : indexName.isEncodable = true)
    (conditionBindable : selection.condition.isBindable = true)
    (orderBindable : selection.order.isBindable = true) {request : PageRequest}
    (sizeFits : fitsInteger request.size = true) (offsetFits : fitsInteger request.offset = true)
    {documents : List Metadata} (selected : documents =
      (catalogue.inIndex indexName.toStringLossy).filter predicate) :
    connection.search indexName selection request =
      loaded indexName ⟨((documents.mergeSort fun left right =>
          selection.order.direction.admits (key left) (key right)).drop request.offset).take
            request.size, documents.length, request.page, request.size⟩ := by
  obtain ⟨condition, conditionBinds, truth⟩ := conditionMeans
  obtain ⟨order, orderBinds, keyOf⟩ := orderMeans
  have rows := represents.tables.forall₂_select (truth connection.tables.fields)
    indexName.toStringLossy
  rw [← selected] at rows
  have ascending := represents.tables.pairwise_select condition (.text indexName.toStringLossy)
  have sorted := Tables.forall₂_mergeSort selection.order.direction (keyOf connection.tables) rows
    ascending
  have slice := List.forall₂_take request.size (List.forall₂_drop request.offset sorted)
  rw [search, represents.isOpen, Selection.bindCount_of_binds countPrepared nameEncodable
    conditionBindable conditionBinds, Selection.bindPage_of_binds pagePrepared nameEncodable
    conditionBindable orderBindable conditionBinds orderBinds sizeFits offsetFits]
  simp only [if_true, Tables.page, Tables.ordered_eq_mergeSort, load_of_forall₂ slice, Tables.count,
    rows.length_eq, slice.length_eq, loaded]

end Connection

namespace Selection

/-- Whether the index can keep the texts of a search. -/
def textsEncodable (indexName : Text) (query : Option Query) (sort : Option SortOrder) : Bool :=
  indexName.isEncodable && query.all Query.isEncodable && SortOrder.isEncodable sort

variable {query : Option Query} {sort : Option SortOrder} {selection : Selection}

/-- A selection of a query has an accepted condition and an accepted order. -/
theorem of_ofQuery (accepted : ofQuery query sort = .ok selection) :
    ((query = none ∧ selection.condition = .everything) ∨
        ∃ given, query = some given ∧ Clause.ofQuery given = .ok selection.condition) ∧
      OrderClause.ofSort sort = .ok selection.order := by
  unfold ofQuery at accepted
  cases ordered : OrderClause.ofSort sort with
  | error error =>
    cases query with
    | none => simp [ordered, bind, Except.bind] at accepted
    | some given =>
      cases judged : Clause.ofQuery given <;>
        simp [ordered, judged, bind, Except.bind] at accepted
  | ok order =>
    cases query with
    | none =>
      simp only [ordered, bind, Except.bind] at accepted
      cases accepted
      exact ⟨.inl ⟨rfl, rfl⟩, rfl⟩
    | some given =>
      cases judged : Clause.ofQuery given with
      | error error => simp [judged, bind, Except.bind] at accepted
      | ok condition =>
        simp only [ordered, judged, bind, Except.bind] at accepted
        cases accepted
        exact ⟨.inr ⟨given, rfl, judged⟩, rfl⟩

/-- The condition of an accepted query, for every query that is there. -/
theorem condition_ofQuery (accepted : ofQuery query sort = .ok selection) :
    selection.condition.isBindable = query.all Query.isEncodable ∧
      (∀ parameter ∈ selection.condition.parameters, parameter.fits = true) ∧
      (selection.condition.isBindable = true →
        selection.condition.Means fun document => query.all fun query => query.holds document) := by
  obtain ⟨⟨rfl, isEverything⟩ | ⟨given, rfl, judged⟩, -⟩ := of_ofQuery accepted
  · rw [isEverything]
    exact ⟨rfl, nofun, fun _ => Clause.means_everything⟩
  · exact ⟨Clause.isBindable_ofQuery judged, Clause.fits_ofQuery judged,
      Clause.means_ofQuery judged⟩

end Selection

end Depot
