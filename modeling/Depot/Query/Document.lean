import Depot.Failure
import Depot.Query.Basic

/-!
# Query documents

The document form of a query is a record with one key, the kind, over a body: a list of
documents for composites, a record with a `field` key for leaves. `Query.ofDatum` reads
a document, `Query.toDatum` writes one; other keys of a leaf's body are ignored, and
absent bounds are null. Both go down the levels of a document, and the stack of the program
takes only so many of them: `Query.ofDatumWithin` and `Query.toDatumWithin` read and write
what they take.
-/

namespace Depot

/-- Why a tree has no document form. -/
inductive QueryDocumentError where
  /-- The kind of a node is none of the six. -/
  | kindWithoutName (typeName : String)
  | foreign (typeName : String)

/-- The wording of a missing document form. -/
def QueryDocumentError.message : QueryDocumentError → String
  | kindWithoutName typeName => "'" ++ typeName ++ "' object has no attribute 'value'"
  | foreign typeName => "'" ++ typeName ++ "' object has no attribute 'to_dict'"

namespace Query

/-- A leaf from the body of its document. -/
def leafOfBody (kind : QueryKind) (body : Datum) : Except QueryError Query :=
  match body with
  | .record entries =>
    match Datum.entry? "field" entries with
    | none => .error (.missingField kind.label)
    | some field =>
      match kind with
      | .equals =>
        match Datum.entry? "value" entries with
        | none => .error .missingValue
        | some value => .ok (equals field value)
      | .among =>
        match Datum.entry? "values" entries with
        | some (.sequence values) => .ok (among field values)
        | _ => .error .missingValues
      | .range =>
        .ok (range field ((Datum.entry? "min" entries).getD .null)
          ((Datum.entry? "max" entries).getD .null))
      | _ => .ok (present field)
  | _ => .error (.missingField kind.label)

mutual

/-- The query that a document denotes. -/
def ofDatum : Datum → Except QueryError Query
  | .record [(key, body)] =>
    match QueryKind.ofLabel? key with
    | none => .error (.unknownKind key)
    | some kind =>
      if kind.isLeaf then leafOfBody kind body
      else
        match body with
        | .sequence items => do join kind (← ofData items)
        | _ => .error (.notList kind.label)
  | other => .error (.notSingleKey other)

/-- The queries that a list of documents denotes. -/
def ofData : List Datum → Except QueryError (List Query)
  | [] => .ok []
  | item :: rest => do .ok ((← ofDatum item) :: (← ofData rest))

end

mutual

/-- The document of a query. -/
def toDatum : Query → Except QueryDocumentError Datum
  | node kind field values low high children =>
    match kind with
    | .equals =>
      .ok (.record [(kind.label, .record [("field", field), ("value", values.headD .null)])])
    | .among =>
      .ok (.record [(kind.label, .record [("field", field), ("values", .sequence values)])])
    | .range =>
      .ok (.record [(kind.label, .record [("field", field), ("min", low), ("max", high)])])
    | .present => .ok (.record [(kind.label, .record [("field", field)])])
    | .unknown _ typeName => .error (.kindWithoutName typeName)
    | _ => do .ok (.record [(kind.label, .sequence (← toData children))])
  | foreign given => .error (.foreign given.typeName)

/-- The documents of a list of queries. -/
def toData : List Query → Except QueryDocumentError (List Datum)
  | [] => .ok []
  | child :: rest => do .ok ((← toDatum child) :: (← toData rest))

end

/-- The number of levels of a document that the stack takes: each of them needs two of its
thousand frames, and some frames are in use before. -/
def documentLevels : Nat := 490

mutual

/-- The query that a document denotes, on a stack that takes a number of levels. -/
def ofDatumWithin : Nat → Datum → Except (StackFault QueryError) Query
  | 0, _ => .error .exhausted
  | levels + 1, .record [(key, .sequence items)] =>
    match QueryKind.ofLabel? key with
    | some .all => do (all (← ofDataWithin levels items)).mapError .refused
    | some .any => do (any (← ofDataWithin levels items)).mapError .refused
    | _ => (ofDatum (.record [(key, .sequence items)])).mapError .refused
  | _ + 1, other => (ofDatum other).mapError .refused

/-- The queries that a list of documents denotes, on a stack that takes a number of levels. -/
def ofDataWithin : Nat → List Datum → Except (StackFault QueryError) (List Query)
  | _, [] => .ok []
  | levels, item :: rest => do
    .ok ((← ofDatumWithin levels item) :: (← ofDataWithin levels rest))

end

mutual

/-- The document of a query, on a stack that takes a number of levels. -/
def toDatumWithin : Nat → Query → Except (StackFault QueryDocumentError) Datum
  | 0, _ => .error .exhausted
  | levels + 1, .node kind field values low high children =>
    match kind with
    | .all => do .ok (.record [(kind.label, .sequence (← toDataWithin levels children))])
    | .any => do .ok (.record [(kind.label, .sequence (← toDataWithin levels children))])
    | other => (toDatum (.node other field values low high children)).mapError .refused
  | _ + 1, .foreign given => (toDatum (.foreign given)).mapError .refused

/-- The documents of a list of queries, on a stack that takes a number of levels. -/
def toDataWithin : Nat → List Query → Except (StackFault QueryDocumentError) (List Datum)
  | _, [] => .ok []
  | levels, child :: rest => do
    .ok ((← toDatumWithin levels child) :: (← toDataWithin levels rest))

end

/-- The query that a document denotes, on the stack of the program. -/
def read (given : Datum) : Except Failure Query :=
  (ofDatumWithin documentLevels given).mapError StackFault.failure

end Query
end Depot
