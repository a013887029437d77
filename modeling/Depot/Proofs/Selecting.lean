import Depot.Proofs.Identifiers

/-!
# Queries select documents

The clause of an accepted query means the query, by induction on the tree: a leaf means its test,
and the balanced tree that joins the clauses of the children means what the composite means.
-/

namespace Depot

namespace Query

/-- Queries are built from the queries among their children. -/
@[induction_eliminator]
theorem induction {motive : Query → Prop}
    (node : ∀ kind field values low high children, (∀ child ∈ children, motive child) →
      motive (.node kind field values low high children))
    (foreign : ∀ given, motive (.foreign given)) (query : Query) : motive query := by
  have noChild : ∀ child ∈ ([] : List Query), motive child := by
    intro child member
    cases member
  exact @Query.rec motive (fun children => ∀ child ∈ children, motive child) node foreign noChild
    (fun _ _ ofChild ofRest => List.forall_mem_cons.mpr ⟨ofChild, ofRest⟩) query

end Query

namespace Clause

/-- The clauses of a list of queries are those of its members. -/
theorem ofQueries_eq_mapM (queries : List Query) : ofQueries queries = queries.mapM ofQuery := by
  induction queries with
  | nil => rfl
  | cons query rest inductionHypothesis =>
    rw [ofQueries, List.mapM_cons, inductionHypothesis]
    rfl

/-- An accepted leaf on a field means that the document has a value that passes its test. -/
theorem means_fieldLeaf {kind : QueryKind} {name : Text} (ordinary : name ≠ FieldName.identifier)
    {values : List Datum} {low high : Datum} {clause : Clause}
    (accepted : fieldLeaf kind name values low high = .ok clause)
    (bindable : clause.isBindable = true) :
    clause.Means fun document => (document.valuesOf name).any (kind.accepts values low high) := by
  cases kind with
  | present =>
    cases accepted
    exact means_present ordinary bindable
  | equals => exact means_equals ordinary accepted bindable
  | among => exact means_among ordinary accepted bindable
  | range => exact means_range ordinary accepted bindable
  | all => cases accepted
  | any => cases accepted
  | unknown literal typeName => cases accepted

/-- An accepted leaf means its test. -/
theorem means_leaf {kind : QueryKind} {field : Datum} {values : List Datum} {low high : Datum}
    {clause : Clause} (accepted : leaf kind field values low high = .ok clause)
    (bindable : clause.isBindable = true) :
    ∃ name, field = .text name ∧
      clause.Means fun document => (document.valuesOf name).any (kind.accepts values low high) := by
  obtain ⟨name, rfl, form⟩ := of_leaf accepted
  refine ⟨name, rfl, ?_⟩
  rcases form with ⟨rfl, ofIdentifier⟩ | ⟨ordinary, ofField⟩
  · refine (means_identifierLeaf ofIdentifier bindable).congr fun document => ?_
    rw [Metadata.valuesOf, if_pos rfl, List.any_cons, List.any_nil, Bool.or_false]
  · exact means_fieldLeaf ordinary ofField bindable

/-- Clauses of queries mean the queries when each of them does. -/
theorem forall₂_means {queries : List Query} {clauses : List Clause}
    (accepted : List.Forall₂ (fun query clause => ofQuery query = .ok clause) queries clauses)
    (bindable : ∀ clause ∈ clauses, clause.isBindable = true)
    (means : ∀ query ∈ queries, ∀ clause : Clause, ofQuery query = .ok clause →
      clause.isBindable = true → clause.Means fun document => query.holds document) :
    List.Forall₂ Means clauses (queries.map fun query document => query.holds document) := by
  induction accepted with
  | nil => exact .nil
  | cons first later inductionHypothesis =>
    rw [List.forall_mem_cons] at bindable means
    exact .cons (means.1 _ first bindable.1) (inductionHypothesis bindable.2 means.2)

/-- Clauses that mean their queries, joined as a balanced tree, mean the composite. -/
theorem means_balanced_queries (connective : Connective) {queries : List Query}
    {clauses : List Clause} (accepted : ofQueries queries = .ok clauses)
    (bindable : (balanced connective clauses).isBindable = true)
    (means : ∀ query ∈ queries, ∀ clause : Clause, ofQuery query = .ok clause →
      clause.isBindable = true → clause.Means fun document => query.holds document) :
    (balanced connective clauses).Means fun document =>
      composite connective (queries.map fun query => query.holds document) := by
  rw [ofQueries_eq_mapM] at accepted
  rw [isBindable, parameters_balanced, List.all_flatMap, List.all_eq_true] at bindable
  have each := forall₂_means (forall₂_of_mapM accepted) bindable means
  exact (means_balanced connective each).congr fun document => by
    rw [List.map_map]
    rfl

/-- An accepted node is a composite of accepted children or an accepted leaf. -/
theorem of_ofQuery {kind : QueryKind} {field : Datum} {values : List Datum} {low high : Datum}
    {children : List Query} {clause : Clause}
    (accepted : ofQuery (.node kind field values low high children) = .ok clause) :
    (∃ clauses, kind = .all ∧ ofQueries children = .ok clauses ∧
        clause = balanced .conjunction clauses) ∨
      (∃ clauses, kind = .any ∧ ofQueries children = .ok clauses ∧
        clause = balanced .disjunction clauses) ∨
      (kind ≠ .all ∧ kind ≠ .any ∧ leaf kind field values low high = .ok clause) := by
  cases kind with
  | all =>
    rw [ofQuery] at accepted
    cases judged : ofQueries children with
    | error error => rw [judged] at accepted; cases accepted
    | ok clauses =>
      rw [judged] at accepted
      cases accepted
      exact .inl ⟨clauses, rfl, rfl, rfl⟩
  | any =>
    rw [ofQuery] at accepted
    cases judged : ofQueries children with
    | error error => rw [judged] at accepted; cases accepted
    | ok clauses =>
      rw [judged] at accepted
      cases accepted
      exact .inr (.inl ⟨clauses, rfl, rfl, rfl⟩)
  | equals => exact .inr (.inr ⟨nofun, nofun, accepted⟩)
  | among => exact .inr (.inr ⟨nofun, nofun, accepted⟩)
  | range => exact .inr (.inr ⟨nofun, nofun, accepted⟩)
  | present => exact .inr (.inr ⟨nofun, nofun, accepted⟩)
  | unknown literal typeName => exact .inr (.inr ⟨nofun, nofun, accepted⟩)

/-- The clause of an accepted query means the query. -/
theorem means_ofQuery {query : Query} {clause : Clause} (accepted : ofQuery query = .ok clause)
    (bindable : clause.isBindable = true) :
    clause.Means fun document => query.holds document := by
  induction query generalizing clause with
  | foreign given => cases accepted
  | node kind field values low high children inductionHypothesis =>
    have ofChildren (connective : Connective) {clauses : List Clause}
        (judged : ofQueries children = .ok clauses)
        (joins : clause = balanced connective clauses) :
        clause.Means fun document =>
          composite connective (children.map fun child => child.holds document) := by
      subst joins
      exact means_balanced_queries connective judged bindable fun child member _ childAccepted =>
        inductionHypothesis child member childAccepted
    rcases of_ofQuery accepted with
      ⟨clauses, rfl, judged, joins⟩ | ⟨clauses, rfl, judged, joins⟩ | ⟨notAll, notAny, judged⟩
    · refine (ofChildren .conjunction judged joins).congr fun document => ?_
      rw [Query.holds, Query.holdsAll_eq_all, composite, List.all_map]
      rfl
    · refine (ofChildren .disjunction judged joins).congr fun document => ?_
      rw [Query.holds, Query.holdsAny_eq_any, composite, List.any_map, List.isEmpty_map]
      rfl
    · obtain ⟨name, rfl, means⟩ := means_leaf judged bindable
      cases kind <;> first | exact means | exact absurd rfl notAll | exact absurd rfl notAny

end Clause
end Depot
