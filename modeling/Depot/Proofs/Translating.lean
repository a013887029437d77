import Depot.Coordinator
import Depot.Proofs.Validity

/-!
# Queries within the stack

A query that is nested no deeper than the stack takes is translated as if there were no stack. A
deeper one is never translated: it is refused with what is wrong with the first of its leaves, or
uses up the stack before that leaf is reached.
-/

namespace Depot

namespace Query

mutual

/-- The number of levels of a query; what stands below a leaf is not looked at. -/
def levels : Query → Nat
  | .node kind _ _ _ _ children =>
    match kind with
    | .all => levelsOf children + 1
    | .any => levelsOf children + 1
    | _ => 1
  | .foreign _ => 1

/-- The greatest number of levels of a list of queries. -/
def levelsOf : List Query → Nat
  | [] => 0
  | child :: rest => max (levels child) (levelsOf rest)

end

/-- A list of queries has some levels at most when each of its members has. -/
theorem levelsOf_le_iff (queries : List Query) (bound : Nat) :
    levelsOf queries ≤ bound ↔ ∀ query ∈ queries, query.levels ≤ bound := by
  induction queries with
  | nil => simp [levelsOf]
  | cons child rest inductionHypothesis =>
    rw [levelsOf, Nat.max_le, inductionHypothesis, List.forall_mem_cons]

end Query

namespace Clause

/-- A list of queries is not translated on a stack for the reason of its first such member. -/
theorem refusal?_ofQueriesWithin (levels : Nat) (queries : List Query) :
    refusal? (ofQueriesWithin levels queries) =
      queries.findSome? fun query => refusal? (ofQueryWithin levels query) := by
  have members : ofQueriesWithin levels queries = queries.mapM (ofQueryWithin levels) := by
    induction queries with
    | nil =>
      rw [ofQueriesWithin]
      rfl
    | cons query rest inductionHypothesis =>
      rw [ofQueriesWithin, List.mapM_cons, inductionHypothesis]
      rfl
  rw [members]
  exact refusal?_mapM fun _ _ => rfl

/-- On a stack, lists of queries are judged as without one, unless the stack is used up, when their
members are. -/
theorem ofQueriesWithin_cases {levels : Nat} {queries : List Query}
    (members : ∀ query ∈ queries, ofQueryWithin levels query = .error .exhausted ∨
      ofQueryWithin levels query = (ofQuery query).mapError .refused) :
    ofQueriesWithin levels queries = .error .exhausted ∨
      ofQueriesWithin levels queries = (ofQueries queries).mapError .refused := by
  induction queries with
  | nil => exact .inr (by rw [ofQueriesWithin, ofQueries]; rfl)
  | cons query rest inductionHypothesis =>
    rw [List.forall_mem_cons] at members
    rw [ofQueriesWithin, ofQueries]
    rcases members.1 with first | first <;> rw [first]
    · exact .inl rfl
    · cases ofQuery query with
      | error error => exact .inr rfl
      | ok clause =>
        rcases inductionHypothesis members.2 with later | later <;> rw [later]
        · exact .inl rfl
        · cases ofQueries rest <;> exact .inr rfl

/-- On a stack, a node is a composite of its children, which have one level less, or a leaf. -/
theorem ofQueryWithin_node (levels : Nat) (kind : QueryKind) (field : Datum) (values : List Datum)
    (low high : Datum) (children : List Query) :
    (∃ connective,
        ofQueryWithin (levels + 1) (.node kind field values low high children) =
          (do .ok (balanced connective (← ofQueriesWithin levels children))) ∧
        ofQuery (.node kind field values low high children) =
          (do .ok (balanced connective (← ofQueries children))) ∧
        (Query.node kind field values low high children).levels = Query.levelsOf children + 1) ∨
      (ofQueryWithin (levels + 1) (.node kind field values low high children) =
          (ofQuery (.node kind field values low high children)).mapError .refused ∧
        (Query.node kind field values low high children).levels = 1) := by
  cases kind with
  | all => exact .inl ⟨.conjunction, rfl, rfl, rfl⟩
  | any => exact .inl ⟨.disjunction, rfl, rfl, rfl⟩
  | _ => exact .inr ⟨rfl, rfl⟩

/-- On a stack, queries are judged as without one, unless the stack is used up. -/
theorem ofQueryWithin_cases (levels : Nat) (query : Query) :
    ofQueryWithin levels query = .error .exhausted ∨
      ofQueryWithin levels query = (ofQuery query).mapError .refused := by
  induction query generalizing levels with
  | foreign given => cases levels <;> simp [ofQueryWithin, ofQuery, Except.mapError]
  | node kind field values low high children inductionHypothesis =>
    cases levels with
    | zero => exact .inl rfl
    | succ levels =>
      rcases ofQueryWithin_node levels kind field values low high children with
        ⟨connective, onStack, alone, -⟩ | ⟨leaf, -⟩
      · have ofChildren := ofQueriesWithin_cases fun child member =>
          inductionHypothesis child member levels
        rw [onStack, alone]
        rcases ofChildren with children | children <;> rw [children]
        · exact .inl rfl
        · cases ofQueries _ <;> exact .inr rfl
      · exact .inr leaf

/-- The stack is not used up by a query with no more levels than it takes. -/
theorem ofQueryWithin_ne_exhausted {levels : Nat} {query : Query}
    (within : query.levels ≤ levels) : ofQueryWithin levels query ≠ .error .exhausted := by
  induction query generalizing levels with
  | foreign given =>
    cases levels with
    | zero => cases within
    | succ levels => nofun
  | node kind field values low high children inductionHypothesis =>
    cases levels with
    | zero =>
      rcases ofQueryWithin_node 0 kind field values low high children with
        ⟨-, -, -, height⟩ | ⟨-, height⟩ <;> omega
    | succ levels =>
      rcases ofQueryWithin_node levels kind field values low high children with
        ⟨connective, onStack, -, height⟩ | ⟨leaf, -⟩
      · rw [height, Nat.add_le_add_iff_right, Query.levelsOf_le_iff] at within
        rw [onStack, ne_eq, ← refusal?_eq_some_iff, refusal?_bind_ok, refusal?_ofQueriesWithin]
        intro stopped
        obtain ⟨child, member, failed⟩ := List.exists_of_findSome?_eq_some stopped
        exact inductionHypothesis child member (within child member)
          (refusal?_eq_some_iff.mp failed)
      · rw [leaf]
        cases ofQuery _ <;> nofun

/-- A query that is translated on a stack has no more levels than it takes. -/
theorem levels_le_of_ofQueryWithin {levels : Nat} {query : Query} {clause : Clause}
    (translated : ofQueryWithin levels query = .ok clause) : query.levels ≤ levels := by
  induction query generalizing levels clause with
  | foreign given => cases levels <;> cases translated
  | node kind field values low high children inductionHypothesis =>
    cases levels with
    | zero => cases translated
    | succ levels =>
      rcases ofQueryWithin_node levels kind field values low high children with
        ⟨connective, onStack, -, height⟩ | ⟨-, height⟩
      · rw [height, Nat.add_le_add_iff_right, Query.levelsOf_le_iff]
        have passed := refusal?_eq_none_iff.mpr ⟨clause, translated⟩
        rw [onStack, refusal?_bind_ok, refusal?_ofQueriesWithin,
          List.findSome?_eq_none_iff] at passed
        intro child member
        obtain ⟨childClause, childTranslated⟩ := refusal?_eq_none_iff.mp (passed child member)
        exact inductionHypothesis child member childTranslated
      · omega

end Clause

namespace Selection

variable {levels : Nat} {query : Option Query} {sort : Option SortOrder} {selection : Selection}

/-- Whether a query, if there is one, has no more levels than a stack takes. -/
def fitsStack (levels : Nat) (query : Option Query) : Bool :=
  query.all fun given => given.levels ≤ levels

/-- A query with no more levels than the stack takes is judged as without a stack. -/
theorem translateWithin_of_fitsStack (fits : fitsStack levels query = true)
    (sort : Option SortOrder) :
    translateWithin levels query sort = (ofQuery query sort).mapError QueryError.raised := by
  unfold translateWithin ofQuery
  cases query with
  | none => cases OrderClause.ofSort sort <;> rfl
  | some given =>
    have alone := (Clause.ofQueryWithin_cases levels given).resolve_left
      (Clause.ofQueryWithin_ne_exhausted (of_decide_eq_true fits))
    simp only [alone]
    cases Clause.ofQuery given with
    | error error => rfl
    | ok clause => cases OrderClause.ofSort sort <;> rfl

/-- A query with more levels than the stack takes is never translated: it uses up the stack, unless
something is wrong with it and comes before. -/
theorem translateWithin_of_not_fitsStack (deep : fitsStack levels query = false)
    (sort : Option SortOrder) :
    translateWithin levels query sort = .error .exhausted ∨
      ∃ error, firstFault? query sort = some error ∧
        translateWithin levels query sort = .error error.raised := by
  rw [← refusal?_ofQuery]
  unfold translateWithin ofQuery
  cases query with
  | none => cases deep
  | some given =>
    rcases Clause.ofQueryWithin_cases levels given with exhausted | alone
    · exact .inl (by simp only [exhausted]; rfl)
    · simp only [alone]
      cases judged : Clause.ofQuery given with
      | error error => exact .inr ⟨error, rfl, rfl⟩
      | ok clause =>
        rw [judged] at alone
        have within := Clause.levels_le_of_ofQueryWithin alone
        rw [fitsStack, Option.all_some, decide_eq_false_iff_not] at deep
        exact absurd within deep

/-- The queries that are translated on a stack are those that are accepted and have no more levels
than it takes. -/
theorem translateWithin_eq_ok_iff :
    translateWithin levels query sort = .ok selection ↔
      ofQuery query sort = .ok selection ∧ fitsStack levels query = true := by
  cases fits : fitsStack levels query with
  | true =>
    rw [translateWithin_of_fitsStack fits]
    cases ofQuery query sort <;> simp [Except.mapError]
  | false =>
    rcases translateWithin_of_not_fitsStack fits sort with failed | ⟨error, -, failed⟩ <;>
      simp [failed]

/-- A query error that a translation reports is what is wrong first. -/
theorem firstFault?_of_translateWithin {error : QueryError}
    (refused : translateWithin levels query sort = .error (.query error)) :
    firstFault? query sort = some error := by
  have raised {other : QueryError} (same : Failure.query error = other.raised) :
      error = other := by
    rw [QueryError.raised] at same
    split at same <;> cases same
    rfl
  cases fits : fitsStack levels query with
  | true =>
    rw [translateWithin_of_fitsStack fits] at refused
    cases judged : ofQuery query sort with
    | ok selection => rw [judged] at refused; cases refused
    | error other =>
      rw [judged, Except.mapError, Except.error.injEq] at refused
      rw [raised refused.symm, ← refusal?_ofQuery, judged]
      rfl
  | false =>
    rcases translateWithin_of_not_fitsStack fits sort with failed | ⟨other, first, failed⟩ <;>
      rw [failed, Except.error.injEq] at refused
    · cases refused
    · rw [raised refused.symm, first]

end Selection

/-- On every stack, a query and a sort are accepted exactly when they have a meaning and the query
has no more levels than the stack takes. A query error is always what is wrong first, and what is
wrong first is reported if the query has no more levels and the wording can be made. A search
reports what its translation reports, before the index is asked. -/
theorem Coordinator.search_judges (coordinator : Coordinator) (indexName : Text)
    (query : Option Query) (request : PageRequest) :
    (∀ levels,
      ((∃ selection, Selection.translateWithin levels query request.sort = .ok selection) ↔
        query.all Query.isSoundThroughout = true ∧ request.sort.all SortOrder.isSound = true ∧
          Selection.fitsStack levels query = true) ∧
      (∀ error, Selection.translateWithin levels query request.sort = .error (.query error) →
        firstFault? query request.sort = some error) ∧
      (Selection.fitsStack levels query = true → ∀ error, error.isWritable = true →
        firstFault? query request.sort = some error →
        Selection.translateWithin levels query request.sort = .error (.query error))) ∧
    ∀ failure, Selection.translate query request.sort = .error failure →
      coordinator.search indexName query (some request) = .error failure := by
  refine ⟨fun levels => ⟨?_, fun error => Selection.firstFault?_of_translateWithin, ?_⟩, ?_⟩
  · rw [← and_assoc, ← firstFault?_eq_none_iff, ← Selection.refusal?_ofQuery, refusal?_eq_none_iff,
      ← exists_and_right]
    exact exists_congr fun _ => Selection.translateWithin_eq_ok_iff
  · intro fits error writable first
    rw [← Selection.refusal?_ofQuery, refusal?_eq_some_iff] at first
    rw [Selection.translateWithin_of_fitsStack fits, first, Except.mapError, QueryError.raised,
      if_pos writable]
  · intro failure refused
    rw [search, Option.getD_some, refused]

namespace Query

/-- A composite of one composite, and so on, down to one without children. -/
def nested : Nat → Query
  | 0 => matchAll
  | depth + 1 => composite .all [nested depth]

/-- A nested composite has one level more than it is deep. -/
theorem levels_nested (depth : Nat) : (nested depth).levels = depth + 1 := by
  induction depth with
  | zero => rfl
  | succ depth inductionHypothesis =>
    show max (nested depth).levels 0 + 1 = _
    rw [inductionHypothesis, Nat.max_zero]

/-- A nested composite has a meaning. -/
theorem isSoundThroughout_nested (depth : Nat) : (nested depth).isSoundThroughout = true := by
  have noLeaf : (nested depth).leaves = [] := by
    induction depth with
    | zero => rfl
    | succ depth inductionHypothesis =>
      show (nested depth).leaves ++ [] = []
      rw [inductionHypothesis, List.append_nil]
  rw [isSoundThroughout, noLeaf, List.all_nil]

end Query

/-- A query may have a meaning and still be nested deeper than the stack of the program takes. -/
theorem Coordinator.not_judges_nested :
    ¬ ∀ query : Query, (∃ selection, Selection.translate (some query) none = .ok selection) ↔
      query.isSoundThroughout = true := by
  intro promise
  obtain ⟨selection, translated⟩ :=
    (promise (.nested translationLevels)).mpr (Query.isSoundThroughout_nested _)
  have fits := (Selection.translateWithin_eq_ok_iff.mp translated).2
  rw [Selection.fitsStack, Option.all_some, Query.levels_nested, decide_eq_true_iff] at fits
  exact Nat.not_succ_le_self _ fits

end Depot
