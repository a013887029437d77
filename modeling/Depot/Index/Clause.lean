import Depot.Index.Condition
import Depot.Paging

/-!
# Clauses

A clause is a written condition or order together with the values of its places. Wide
composites are joined as a balanced tree, so that the depth of the written form grows with
the logarithm of the number of parts.
-/

namespace Depot

/-- A written condition and the values of its places. -/
structure Clause where
  condition : Condition Unit
  parameters : List Parameter
  deriving DecidableEq

namespace Clause

/-- The clause that every document fulfils. -/
def everything : Clause := ⟨.constant true, []⟩

/-- The clause that no document fulfils. -/
def nothing : Clause := ⟨.constant false, []⟩

/-- The written form of a clause. -/
def text (clause : Clause) : String := clause.condition.text

/-- The clause in parentheses. -/
def grouped (clause : Clause) : Clause := ⟨.grouped clause.condition, clause.parameters⟩

/-- Two clauses with a connective between them. -/
def joined (connective : Connective) (left right : Clause) : Clause :=
  ⟨.joined connective left.condition right.condition, left.parameters ++ right.parameters⟩

/-- Joins clauses, each in parentheses, halving a list of more than two. -/
def balanced (connective : Connective) (clauses : List Clause) : Clause :=
  match clauses with
  | [] => everything
  | [only] => only.grouped
  | [left, right] => joined connective left.grouped right.grouped
  | first :: second :: third :: rest =>
    let all := first :: second :: third :: rest
    let middle := all.length / 2
    joined connective (balanced connective (all.take middle)).grouped
      (balanced connective (all.drop middle)).grouped
termination_by clauses.length
decreasing_by
  all_goals simp only [List.length_take, List.length_drop, List.length_cons]; omega

end Clause

/-- What documents are ordered by, before the order in which they were filed. -/
inductive OrderKey (hole : Type) where
  | filing
  | documentId
  | field (name : hole)
  deriving DecidableEq

/-- A written order and the values of its places. -/
structure OrderClause where
  key : OrderKey Unit
  direction : SortDirection
  parameters : List Parameter

namespace OrderClause

/-- The order in which documents were filed. -/
def filing : OrderClause := ⟨.filing, .ascending, []⟩

/-- How a direction is written. -/
def directionText : SortDirection → String
  | .ascending => "ASC"
  | .descending => "DESC"

/-- The written form of an order. -/
def text (order : OrderClause) : String :=
  match order.key with
  | .filing => "ORDER BY d.id ASC"
  | .documentId => "ORDER BY d.doc_id " ++ directionText order.direction ++ ", d.id ASC"
  | .field _ =>
    "ORDER BY (SELECT f.value FROM document_fields f " ++
      "WHERE f.document_id = d.id AND f.name = ?) " ++
      directionText order.direction ++ ", d.id ASC"

end OrderClause

/-- What the index is asked for: a condition and an order. -/
structure Selection where
  condition : Clause
  order : OrderClause

/-- All documents in the order in which they were filed. -/
def Selection.everything : Selection := ⟨.everything, .filing⟩

end Depot
