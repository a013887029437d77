import Depot.Failure
import Depot.Index.Selection

/-!
# Translation

Selections are made by recursion, and the stack of the program takes only so many levels of a
query. `Selection.translate` is the selection of a query as the program makes it: queries that are
nested deeper use up the stack, at the first node that lies too deep, and whatever is wrong with a
node before it is reported first.
-/

namespace Depot

/-- The number of levels of a query that the stack takes: each of them needs three of its
thousand frames, and some frames are in use before. -/
def translationLevels : Nat := 320

namespace Clause

mutual

/-- The clause of a query on a stack that takes a number of levels. -/
def ofQueryWithin : Nat → Query → Except (StackFault QueryError) Clause
  | 0, _ => .error .exhausted
  | levels + 1, .node kind field values low high children =>
    match kind with
    | .all => do .ok (balanced .conjunction (← ofQueriesWithin levels children))
    | .any => do .ok (balanced .disjunction (← ofQueriesWithin levels children))
    | other => (leaf other field values low high).mapError .refused
  | _ + 1, .foreign given => .error (.refused (.notQuery given.typeName))

/-- The clauses of a list of queries, in order, on a stack that takes a number of levels. -/
def ofQueriesWithin : Nat → List Query → Except (StackFault QueryError) (List Clause)
  | _, [] => .ok []
  | levels, child :: rest => do
    .ok ((← ofQueryWithin levels child) :: (← ofQueriesWithin levels rest))

end

end Clause

/-- The selection of a query on a stack that takes a number of levels; the condition is made before
the order. -/
def Selection.translateWithin (levels : Nat) (query : Option Query) (sort : Option SortOrder) :
    Except Failure Selection := do
  let condition ← match query with
    | none => .ok .everything
    | some query => (Clause.ofQueryWithin levels query).mapError StackFault.failure
  .ok ⟨condition, ← (OrderClause.ofSort sort).mapError QueryError.raised⟩

/-- The selection of a query on the stack of the program. -/
def Selection.translate (query : Option Query) (sort : Option SortOrder) :
    Except Failure Selection :=
  translateWithin translationLevels query sort

end Depot
