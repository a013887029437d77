import Depot.Field.Name

/-!
# What can be wrong with a query

One constructor for each cause, from the shape of a query document to the values that
its leaves compare with.
-/

namespace Depot

/-- Why a query, a sort or a value was refused. -/
inductive QueryError where
  | name (error : FieldNameError)
  | reserved (name : Text)
  | notANumber
  | integerRange (value : Int)
  | unsupportedValue (typeName : String)
  /-- Something else stands where a query is expected. -/
  | notQuery (typeName : String)
  /-- Something else stands among the children of a composite. -/
  | notChild (typeName : String)
  /-- The kind of a node is none that tests a field; `literal` shows it. -/
  | unsupportedKind (literal : String)
  | unsupportedIdentifierKind (literal : String)
  | unknownDirection (given : Datum)
  | booleanBound (name : Text)
  | mixedBounds (name : Text)
  | identifierNotText (typeName : String)
  /-- A query document is no record with a single key. -/
  | notSingleKey (given : Datum)
  | unknownKind (key : Text)
  | notList (kind : String)
  | missingField (kind : String)
  | missingValue
  | missingValues
  /-- A refusal in the index's own words. -/
  | reported (message : String)

/-- The wording of a query error. -/
def QueryError.message : QueryError → String
  | name error => error.message
  | reserved label => "Field name " ++ Text.quoted label ++ " is reserved"
  | notANumber => "NaN is not a comparable field value"
  | integerRange value => "Integer " ++ toString value ++ " is outside the 64-bit range"
  | unsupportedValue typeName => "Unsupported value type: " ++ typeName
  | notQuery typeName => "Expected a Query, got " ++ typeName
  | notChild typeName => "Composite children must be Query nodes, got " ++ typeName
  | unsupportedKind literal => "Unsupported query kind: " ++ literal
  | unsupportedIdentifierKind literal =>
    "Unsupported query kind for " ++ FieldName.identifier ++ ": " ++ literal
  | unknownDirection given => "Unknown sort direction: " ++ given.literal
  | booleanBound label => "Range on " ++ Text.quoted label ++ " cannot use boolean bounds"
  | mixedBounds label => "Range bounds on " ++ Text.quoted label ++ " must have the same type"
  | identifierNotText typeName =>
    FieldName.identifier ++ " values must be strings, got " ++ typeName
  | notSingleKey given => "Query node must be a single-key object, got " ++ given.literal
  | unknownKind key => "Unknown query kind: " ++ Text.quoted key
  | notList kind => "'" ++ kind ++ "' expects a list of queries"
  | missingField kind => "'" ++ kind ++ "' expects an object with a 'field' key"
  | missingValue => "'equals' requires a 'value'"
  | missingValues => "'in' requires a 'values' list"
  | reported message => message

/-- Whether the wording of an error can be made. The wording of a name is made before. -/
def QueryError.isWritable : QueryError → Bool
  | integerRange value => Datum.isWritableInteger value
  | unknownDirection given => given.isWritable
  | notSingleKey given => given.isWritable
  | _ => true

/-- Why something that is done level by level is not done: it is refused, or the stack of the
program takes no more levels. -/
inductive StackFault (ε : Type) where
  | refused (error : ε)
  | exhausted

end Depot
