import Depot.Field.Basic
import Depot.File.Fault
import Depot.File.Path
import Depot.Json.Error
import Depot.Paging
import Depot.Query.Error
import Depot.Text.Template

/-!
# Failures

Everything that an operation of a depot can report. Four families are meant for callers,
each with a title: a query that has no meaning, a document or payload that is not there,
and the two stores being out of reach. The others are mistakes in arguments and settings,
or faults of the surroundings that are passed on as they are.
-/

namespace Depot

/-- What the database of an index refuses to do. -/
inductive DatabaseFault where
  | closed
  | notDatabase
  | cannotOpenFile
  | readOnly
  | inputOutput
  | repeatedField
  | wrongParameters (places supplied : Nat)
  | wrongShape
  /-- A statement has more parameters than the database takes. -/
  | tooManyParameters
  /-- The condition of a statement is nested deeper than the database takes. -/
  | tooDeep
  deriving DecidableEq

/-- The wording of a database fault. -/
def DatabaseFault.message : DatabaseFault → String
  | closed => "Cannot operate on a closed database."
  | notDatabase => "file is not a database"
  | cannotOpenFile => "unable to open database file"
  | readOnly => "attempt to write a readonly database"
  | inputOutput => "disk I/O error"
  | repeatedField =>
    "UNIQUE constraint failed: document_fields.document_id, document_fields.name"
  | wrongParameters places supplied =>
    "Incorrect number of bindings supplied. The current statement uses " ++
      toString places ++ ", and there are " ++ toString supplied ++ " supplied."
  | wrongShape => "datatype mismatch"
  | tooManyParameters => "too many SQL variables"
  | tooDeep => "Expression tree is too large (maximum depth 1000)"

/-- What is not there. -/
inductive Missing where
  | payload (hash : Datum)
  | reported (message : String)

/-- The template of what is said of a payload that is not there. -/
def Missing.payloadTemplate : String := "Unknown content hash: %s"

/-- The wording of something missing. -/
def Missing.message : Missing → String
  | .payload hash =>
    match Text.fillTemplate payloadTemplate [hash] with
    | .ok wording => wording.toStringLossy
    | .error error => error.message
  | .reported message => message

/-- The digest of a payload that is not there stands at the end of what is said. -/
theorem Missing.fillTemplate_payloadTemplate {hash : Datum} (writable : hash.isWritable = true) :
    Text.fillTemplate payloadTemplate [hash] =
      .ok ⟨(Text.ofString "Unknown content hash: ").symbols ++ hash.display.symbols⟩ :=
  Text.fillTemplate_text writable "Unknown content hash: " (by decide)

/-- Why payloads cannot be kept or fetched. -/
inductive StoreFault where
  | cannotCreate (folder : Path) (fault : FileFault)
  | cannotWrite (hash : String) (fault : FileFault)
  | cannotRead (hash : String) (fault : FileFault)
  | reported (message : String)

/-- The wording of a store fault. -/
def StoreFault.message : StoreFault → String
  | cannotCreate folder fault =>
    "Cannot create blob directory " ++ folder.text ++ ": " ++ fault.message
  | cannotWrite hash fault => "Failed to write blob " ++ hash ++ ": " ++ fault.message
  | cannotRead hash fault => "Failed to read blob " ++ hash ++ ": " ++ fault.message
  | reported message => message

/-- Why the index cannot be used. -/
inductive IndexFault where
  | cannotOpen (path : Path) (fault : DatabaseFault)
  | cannotFile (documentId indexName : Text) (fault : DatabaseFault)
  | cannotSearch (indexName : Text) (fault : DatabaseFault)
  | cannotCreate (indexName : Text) (fault : DatabaseFault)
  | cannotList (fault : DatabaseFault)
  | reported (message : String)

/-- The wording of an index fault. -/
def IndexFault.message : IndexFault → String
  | cannotOpen path fault =>
    "Cannot open index database " ++ path.text ++ ": " ++ fault.message
  | cannotFile documentId indexName fault =>
    "Failed to index document " ++ Text.quoted documentId ++ " in " ++
      Text.quoted indexName ++ ": " ++ fault.message
  | cannotSearch indexName fault =>
    "Search on " ++ Text.quoted indexName ++ " failed: " ++ fault.message
  | cannotCreate indexName fault =>
    "Failed to create index " ++ Text.quoted indexName ++ ": " ++ fault.message
  | cannotList fault => "Failed to list indexes: " ++ fault.message
  | reported message => message

/-- What can be wrong with a setting. -/
inductive SettingError where
  | notInteger (name given : String)
  | pageSize
  | concurrency
  /-- The home folder is not known, and the data folder would lie in it. -/
  | noHome

/-- The wording of a setting error. -/
def SettingError.message : SettingError → String
  | notInteger name given => name ++ " must be an integer, got " ++ Text.quoted given
  | pageSize => "default_page_size must be >= 1"
  | concurrency => "fetch_concurrency must be >= 1"
  | noHome => "Could not determine home directory."

/-- Everything that an operation can report. -/
inductive Failure where
  | query (error : QueryError)
  | notFound (missing : Missing)
  | storeUnavailable (fault : StoreFault)
  | indexUnavailable (fault : IndexFault)
  | field (error : FieldError)
  | page (error : PageError)
  | setting (error : SettingError)
  /-- A payload is no run of bytes. -/
  | notBytes (typeName : String)
  /-- A number beside a statement is beyond the integers of the index. -/
  | integerTooLarge
  /-- A text beside a statement cannot be encoded. -/
  | encoding (fault : EncodingFault)
  | file (fault : FileFault)
  /-- A JSON document holds more digits than are read. -/
  | digits (count : Nat)
  /-- A wording asks for more digits than are written. -/
  | unwritable
  /-- The stack of the program is used up. -/
  | exhausted
  /-- A failure of some other family. -/
  | foreign (family message : String)

namespace Failure

/-- The wording of a failure. -/
def message : Failure → String
  | query error => error.message
  | notFound missing => missing.message
  | storeUnavailable fault => fault.message
  | indexUnavailable fault => fault.message
  | field error => error.message
  | page error => error.message
  | setting error => error.message
  | notBytes typeName => "Payload must be bytes, got " ++ typeName
  | integerTooLarge => "Python int too large to convert to SQLite INTEGER"
  | encoding fault => fault.message
  | file fault => fault.message
  | digits count => (JsonError.tooManyDigits count).message ""
  | unwritable => Datum.unwritableText
  | exhausted => "maximum recursion depth exceeded"
  | foreign _ message => message

/-- The title of a failure that is meant for callers. -/
def title? : Failure → Option String
  | query _ => some "QueryError"
  | notFound _ => some "NotFound"
  | storeUnavailable _ => some "StoreUnavailable"
  | indexUnavailable _ => some "IndexUnavailable"
  | _ => none

/-- Whether a search with payloads goes on without the item that failed. -/
def isSkippable : Failure → Bool
  | notFound _ => true
  | storeUnavailable _ => true
  | _ => false

end Failure

/-- The failure with which a query error is reported: the error itself, if its wording can be
made. -/
def QueryError.raised (error : QueryError) : Failure :=
  if error.isWritable then .query error else .unwritable

/-- The failure with which an unknown hash is reported: nothing is there, if that can be said. -/
def Failure.unknownHash (hash : Datum) : Failure :=
  match Text.fillTemplate Missing.payloadTemplate [hash] with
  | .ok _ => .notFound (.payload hash)
  | .error _ => .unwritable

/-- A text that is an unknown hash is reported. -/
@[simp] theorem Failure.unknownHash_text (hash : Text) :
    unknownHash (.text hash) = .notFound (.payload (.text hash)) := by
  unfold unknownHash
  split
  · rfl
  · rename_i failed
    rw [Missing.fillTemplate_payloadTemplate (Datum.isWritable_text hash)] at failed
    cases failed

/-- The failure of what is done with a query level by level. -/
def StackFault.failure : StackFault QueryError → Failure
  | refused error => error.raised
  | exhausted => .exhausted

end Depot
