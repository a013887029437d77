import Depot.Failure
import Depot.Json.Reader
import Depot.Metadata
import Depot.Query.Document

/-!
# Arguments of commands

Fields and equality filters are given as `NAME=VALUE`, queries as JSON documents. A value
that is the JSON text of a string, a number, true or false stands for that value; any other
text stands for itself.
-/

namespace Depot

/-- A refused argument and the option that it was given to. -/
structure ArgumentError where
  message : String
  option : String
  deriving DecidableEq

/-- Why the arguments of a command are refused: an argument has the wrong form, or its
content fails in the way it would fail elsewhere. -/
inductive CommandError where
  | argument (error : ArgumentError)
  | failure (failure : Failure)

namespace Command

/-- The value that a text stands for. -/
def readValue (text : Text) : Except Failure Datum :=
  match Json.read text with
  | .error (.malformed _ _) => .ok (.text text)
  | .error (.tooManyDigits count) => .error (.digits count)
  | .ok (.boolean value) => .ok (.boolean value)
  | .ok (.integer value) => .ok (.integer value)
  | .ok (.real value) => .ok (.real value)
  | .ok (.text value) => .ok (.text value)
  | .ok _ => .ok (.text text)

/-- The sign between a name and a value. -/
def pairSign : Symbol := .char '='

/-- The name and the value of an argument: what stands before and after the first equals
sign. -/
def splitPair? (pair : Text) : Option (Text × Text) :=
  match pair.symbols.takeWhile (· ≠ pairSign), pair.symbols.dropWhile (· ≠ pairSign) with
  | name, _ :: value => if name.isEmpty then none else some (⟨name⟩, ⟨value⟩)
  | _, [] => none

/-- Reads the arguments of an option; a name that comes again keeps its first place and takes
the last value. -/
def readPairs (option : String) (pairs : List Text) :
    Except CommandError (List (Text × Datum)) := do
  let entries ← pairs.mapM fun pair =>
    match splitPair? pair with
    | none => .error (.argument ⟨"Expected NAME=VALUE, got " ++ Text.quoted pair, option⟩)
    | some (name, value) =>
      match readValue value with
      | .error failure => .error (.failure failure)
      | .ok datum => .ok (name, datum)
  .ok (collectEntries entries)

/-- The option that fields are given to. -/
def fieldOption : String := "--field"

/-- The options of a document from the arguments of a command. Whatever is wrong with a
field is a refused argument. -/
def readOptions (documentId contentType : Option Text) (fields : List Text) :
    Except CommandError IndexOptions := do
  let refuse (message : String) : CommandError := .argument ⟨message, fieldOption⟩
  match readPairs fieldOption fields with
  | .error (.failure failure) => .error (refuse failure.message)
  | .error error => .error error
  | .ok entries =>
    let given := entries.map fun entry => (Datum.text entry.1, entry.2)
    match IndexOptions.build documentId contentType (some (.mapping given)) with
    | .error error => .error (refuse error.message)
    | .ok options => .ok options

/-- The query of a document, or nothing for an empty one. -/
def readDocument (document : Option Text) : Except CommandError (List Query) :=
  match document with
  | none => .ok []
  | some text =>
    if text.isEmpty then .ok []
    else
      match Json.read text with
      | .error (.tooManyDigits count) => .error (.failure (.digits count))
      | .error error =>
        .error (.argument ⟨"Invalid JSON: " ++ error.message text, "--query"⟩)
      | .ok datum =>
        match Query.read datum with
        | .error failure => .error (.failure failure)
        | .ok query => .ok [query]

/-- The query that all filters of a command make together: the equality filters, then the
fields that have to be present, then the query document. -/
def readQuery (equalities present : List Text) (document : Option Text) :
    Except CommandError (Option Query) := do
  let pairs ← readPairs "--eq" equalities
  let queries ← readDocument document
  let clauses := pairs.map (fun pair => Query.equals (.text pair.1) pair.2) ++
    present.map (fun name => Query.present (.text name)) ++ queries
  match clauses with
  | [] => .ok none
  | [only] => .ok (some only)
  | several => .ok (some (Query.composite .all several))

end Command
end Depot
