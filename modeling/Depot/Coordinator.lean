import Depot.Blob.Store
import Depot.Config
import Depot.Index.Connection
import Depot.Index.Translation
import Depot.Outage

/-!
# The coordinator

A coordinator joins a payload store and an index without a transaction over both: a
payload is stored before its document is filed, and stays behind if filing fails. A search
with payloads fetches them in a bounded pool and drops the documents whose payloads cannot
be had.

`World` is what stays when a coordinator is closed.
-/

namespace Depot

/-- The surroundings of a program: the directory tree, the working folder, the number of
identifiers that have been issued, and the outages. -/
structure World where
  tree : FileTree
  working : Location
  issued : Nat
  outages : Outages

/-- An opened depot. -/
structure Coordinator where
  blobs : BlobStore
  index : Connection
  indexPath : Path
  issued : Nat
  outages : Outages
  defaultPageSize : Nat
  fetchConcurrency : Nat
  pageSize_pos : 0 < defaultPageSize
  concurrency_pos : 0 < fetchConcurrency

namespace Coordinator

/-- The path that stands for an index that is kept in memory only. -/
def memoryPath : String := ":memory:"

/-- The greatest number of bytes of the name of an index file: the files that an index keeps
beside it have names that are eight bytes longer. -/
def indexNameLimit : Nat := FileTree.nameLimit - 8

/-- The greatest number of bytes of the location of an index file. -/
def indexPathLimit : Nat := 504

/-- Whether an index can keep its files beside a location. -/
def admitsIndex (location : Location) : Bool :=
  (location.getLast?.getD "").utf8ByteSize ≤ indexNameLimit &&
    (Path.mk .single location).text.utf8ByteSize ≤ indexPathLimit

/-- The tables that what stands at the location of an index file holds. A new file holds empty
tables, and so does a file of a single byte, which is taken for one that was just made. -/
def tablesOf : Option FileEntry → Except DatabaseFault Tables
  | none => .ok .empty
  | some .folder => .error .cannotOpenFile
  | some (.file (.tables tables)) => .ok tables
  | some (.file (.bytes data)) => if data.length ≤ 1 then .ok .empty else .error .notDatabase

/-- The endings of the names of the files that an index looks for beside its own before it reads
it: its journal and its log. With each stands the fault of an index that finds a folder. -/
def companions : List (String × DatabaseFault) :=
  [("-journal", .inputOutput), ("-wal", .cannotOpenFile)]

/-- The same for an index that is new, which makes these files and its shared memory. -/
def newCompanions : List (String × DatabaseFault) :=
  [("-wal", .inputOutput), ("-journal", .cannotOpenFile), ("-shm", .readOnly)]

/-- The files that an index needs beside its own, by what stands at its location. -/
def companionsOf : Option FileEntry → List (String × DatabaseFault)
  | none => newCompanions
  | some .folder => []
  | some (.file (.tables _)) => companions
  | some (.file (.bytes data)) => if data.length ≤ 1 then newCompanions else companions

/-- The location beside that of an index whose name has another ending. -/
def beside (location : Location) (ending : String) : Location :=
  location.dropLast ++ [location.getLast?.getD "" ++ ending]

/-- The fault of an index that finds a folder where it needs a file beside its own. -/
def companionFault? (tree : FileTree) (location : Location) : Option DatabaseFault :=
  (companionsOf (tree.at? location)).findSome? fun (ending, fault) =>
    if tree.at? (beside location ending) = some .folder then some fault else none

/-- The tables in the file of an index. -/
def openTables (tree : FileTree) (working : Location) (path : Path) :
    Except DatabaseFault Tables :=
  if path.text = memoryPath then .ok .empty
  else
    match tree.look working path with
    | .ok (location, found) =>
      if admitsIndex location then
        match companionFault? tree location with
        | some fault => .error fault
        | none => tablesOf found
      else .error .cannotOpenFile
    | .error _ => .error .cannotOpenFile

/-- The tables in the file of an index, or the failure to open it. -/
def openIndex (tree : FileTree) (working : Location) (path : Path) : Except Failure Tables :=
  if path.holdsNull then .error (.file .nullCharacter)
  else (openTables tree working path).mapError fun fault =>
    .indexUnavailable (.cannotOpen path fault)

/-- Writes tables into the file of an index. -/
def saveTables (tree : FileTree) (working : Location) (path : Path) (tables : Tables) :
    FileTree :=
  if path.text = memoryPath then tree
  else (tree.writeContent working path (.tables tables)).toOption.getD tree

/-- Opens a depot: makes the folder of the index and the folder of the payloads, opens the
index, and checks the page size and the number of fetches at once. Whatever was made before
a failure stays. -/
def openDepot (world : World) (config : Config) (base : Option Path) :
    Except Failure Coordinator × World :=
  let indexPath := config.resolvedIndex base
  match world.tree.makeFolders world.working indexPath.parent with
  | (folderTree, some fault) => (.error (.file fault), { world with tree := folderTree })
  | (folderTree, none) =>
    match BlobStore.openAt folderTree world.working (config.resolvedBlobs base) with
    | (.error failure, made) => (.error failure, { world with tree := made })
    | (.ok blobs, made) =>
      match openIndex made world.working indexPath with
      | .error failure => (.error failure, { world with tree := made })
      | .ok tables =>
        let tree := saveTables blobs.tree world.working indexPath tables
        let opened := { world with tree := tree }
        if pageSize : 1 ≤ config.defaultPageSize then
          if concurrency : 1 ≤ config.fetchConcurrency then
            (.ok {
              blobs := { blobs with tree := tree }
              index := ⟨tables, true⟩
              indexPath := indexPath
              issued := world.issued
              outages := world.outages
              defaultPageSize := config.defaultPageSize.toNat
              fetchConcurrency := config.fetchConcurrency.toNat
              pageSize_pos := by omega
              concurrency_pos := by omega }, opened)
          else (.error (.setting .concurrency), opened)
        else (.error (.setting .pageSize), opened)

/-- Closes a depot; what has been stored and filed stays. -/
def close (coordinator : Coordinator) : World :=
  ⟨saveTables coordinator.blobs.tree coordinator.blobs.working coordinator.indexPath
      coordinator.index.tables,
    coordinator.blobs.working, coordinator.issued, coordinator.outages⟩

/-- Closes the index alone. -/
def closeIndex (coordinator : Coordinator) : Coordinator :=
  { coordinator with index := { coordinator.index with isOpen := false } }

/-- The steps of storing that outages make fail. -/
def plannedFaults (coordinator : Coordinator) : PlannedFaults := fun step =>
  (coordinator.outages.failure? (.step step) none).map fun failure => .reported failure.message

/-- Stores a payload and gives its digest. Nothing is filed. -/
def store (coordinator : Coordinator) (payload : Datum) :
    Except Failure String × Coordinator :=
  match coordinator.outages.failure? .store payload.text? with
  | some failure => (.error failure, coordinator)
  | none =>
    match payload with
    | .bytes data =>
      let (result, blobs) := coordinator.blobs.store coordinator.plannedFaults data
      (result, { coordinator with blobs := blobs })
    | other => (.error (.notBytes other.typeName), coordinator)

/-- The payload of a digest. -/
def fetch (coordinator : Coordinator) (hash : Datum) : Except Failure (List UInt8) :=
  match coordinator.outages.failure? .fetch hash.text? with
  | some failure => .error failure
  | none => coordinator.blobs.fetch hash

/-- What becomes of fetching the payload of a digest that a document points at. -/
abbrev Fetching := String → Except Failure (List UInt8)

/-- Fetching from the payloads of a coordinator. -/
def fetching (coordinator : Coordinator) : Fetching := fun hash => coordinator.fetch (.text hash)

/-- The identifier with a number: thirty-two hexadecimal digits. -/
def generatedId (number : Nat) : String := String.ofList (Text.hexDigits 32 number)

/-- The parts of a document that its row holds, encoded in the order of the row. -/
def encodeParts (indexName documentId contentHash : Text) (contentType : Option Text) :
    Except EncodingFault (Placement × Option String) := do
  let placement : Placement :=
    ⟨← indexName.encode, ← documentId.encode, ← contentHash.encode⟩
  match contentType with
  | none => .ok (placement, none)
  | some text => do .ok (placement, some (← text.encode))

/-- The failure of a change of which a part cannot be encoded, where `database` says what a fault
of the database kept from being done. A closed index refuses before anything is encoded. -/
def encodingFailure (coordinator : Coordinator) (database : DatabaseFault → IndexFault)
    (fault : EncodingFault) : Failure :=
  if coordinator.index.isOpen then .encoding fault else .indexUnavailable (database .closed)

/-- Files a document that points at a digest. The digest need not be stored. A document
without an identifier, or with an empty one, gets the next generated one, which counts as
issued even if filing fails. -/
def file (coordinator : Coordinator) (indexName contentHash : Text) (options : IndexOptions) :
    Except Failure Placement × Coordinator :=
  match coordinator.outages.failure? .upsert (some indexName) with
  | some failure => (.error failure, coordinator)
  | none =>
    let (documentId, issued) : Text × Nat :=
      match options.documentId.filter (!·.isEmpty) with
      | some given => (given, coordinator.issued)
      | none => (generatedId (coordinator.issued + 1), coordinator.issued + 1)
    let counted := { coordinator with issued := issued }
    match encodeParts indexName documentId contentHash options.contentType with
    | .error fault =>
      (.error (coordinator.encodingFailure (.cannotFile documentId indexName) fault), counted)
    | .ok (placement, contentType) =>
      let (result, index) := coordinator.index.upsert placement.indexName placement.documentId
        placement.contentHash contentType options.fields
      (result.map fun _ => placement, { counted with index := index })

/-- What becomes of filing a document. -/
abbrev Filing :=
  Coordinator → Text → Text → IndexOptions → Except Failure Placement × Coordinator

/-- Stores a payload and then files a document that points at it. -/
def storeAndFileBy (filing : Filing) (coordinator : Coordinator) (payload : Datum)
    (indexName : Text) (options : IndexOptions) : Except Failure Placement × Coordinator :=
  match coordinator.store payload with
  | (.error failure, after) => (.error failure, after)
  | (.ok contentHash, after) => filing after indexName contentHash options

/-- Stores a payload and files a document that points at it. -/
def storeAndFile (coordinator : Coordinator) (payload : Datum) (indexName : Text)
    (options : IndexOptions) : Except Failure Placement × Coordinator :=
  coordinator.storeAndFileBy file payload indexName options

/-- Makes an index, if there is none of the name. -/
def createIndex (coordinator : Coordinator) (indexName : Text) :
    Except Failure Unit × Coordinator :=
  match coordinator.outages.failure? .createIndex (some indexName) with
  | some failure => (.error failure, coordinator)
  | none =>
    match indexName.encode with
    | .error fault =>
      (.error (coordinator.encodingFailure (.cannotCreate indexName) fault), coordinator)
    | .ok name =>
      let (result, index) := coordinator.index.createIndex name
      (result, { coordinator with index := index })

/-- The first page of the size of the settings. -/
def firstPage (coordinator : Coordinator) : PageRequest :=
  ⟨0, coordinator.defaultPageSize, none, coordinator.pageSize_pos⟩

/-- One page of the documents that match a query. The query and the order are checked
before the index is asked. -/
def search (coordinator : Coordinator) (indexName : Text) (query : Option Query)
    (request : Option PageRequest) : Except Failure (Page Metadata) :=
  let request := request.getD coordinator.firstPage
  match Selection.translate query request.sort with
  | .error failure => .error failure
  | .ok selection =>
    match coordinator.outages.failure? .search (some indexName) with
    | some failure => .error failure
    | none => coordinator.index.search indexName selection request

/-- The document with an identifier, if there is one. -/
def metadata (coordinator : Coordinator) (indexName : Text) (documentId : Datum) :
    Except Failure (Option Metadata) := do
  let page ← coordinator.search indexName
    (some (.equals (.text FieldName.identifier) documentId)) (some ⟨0, 1, none, by decide⟩)
  .ok page.content.head?

/-- The document with an identifier and the payload that is fetched for it. Nothing is fetched
when there is no document. -/
def retrieveBy (fetching : Fetching) (coordinator : Coordinator) (indexName : Text)
    (documentId : Datum) : Except Failure Retrieved := do
  match ← coordinator.metadata indexName documentId with
  | none => .ok ⟨none, []⟩
  | some metadata => .ok ⟨some metadata, ← fetching metadata.contentHash⟩

/-- The document with an identifier and its payload. -/
def retrieve (coordinator : Coordinator) (indexName : Text) (documentId : Datum) :
    Except Failure Retrieved :=
  coordinator.retrieveBy coordinator.fetching indexName documentId

/-- A document with its payload, or nothing if the payload is missing or out of reach. -/
def fetchItem (fetching : Fetching) (metadata : Metadata) : Except Failure (Option Retrieved) :=
  match fetching metadata.contentHash with
  | .ok payload => .ok (some ⟨some metadata, payload⟩)
  | .error failure => if failure.isSkippable then .ok none else .error failure

/-- The number of fetches at once: the number asked for, or that of the settings if it is
absent or zero, but no more than there are items and no less than one. -/
def workers (coordinator : Coordinator) (wanted : Option Int) (items : Nat) : Nat :=
  let limit : Int :=
    match wanted with
    | none => coordinator.fetchConcurrency
    | some count => if count = 0 then coordinator.fetchConcurrency else count
  (max 1 (min limit (max 1 items : Nat))).toNat

/-- The results of tasks that are done in the order of `completion`, a list of positions:
each result is put down at its position, and the results are read in the order of the
tasks. The first failure in that order is reported. -/
def gather {α β : Type} (task : α → Except Failure β) (completion : List Nat) (items : List α) :
    Except Failure (List β) :=
  let done : List (Nat × Except Failure β) := completion.filterMap fun position =>
    items[position]?.map fun item => (position, task item)
  (List.range items.length).foldr (fun position later =>
    match valueOf? position done with
    | some (.ok result) => do .ok (result :: (← later))
    | some (.error failure) => .error failure
    | none => later) (.ok [])

/-- One page of the documents that match a query with the payloads that are fetched for them.
One worker fetches them in order and stops at the first failure; several finish in the order of
`completion`. Documents whose payloads cannot be had are dropped, and the page keeps the numbers
of the search. -/
def searchAndFetchBy (fetching : Fetching) (completion : Nat → List Nat)
    (coordinator : Coordinator) (indexName : Text) (query : Option Query)
    (request : Option PageRequest) (wanted : Option Int) : Except Failure (Page Retrieved) := do
  let page ← coordinator.search indexName query request
  let items := page.content
  let fetched ←
    if coordinator.workers wanted items.length = 1 then items.mapM (fetchItem fetching)
    else gather (fetchItem fetching) (completion items.length) items
  .ok (page.withContent (fetched.filterMap id))

/-- One page of the documents that match a query with their payloads. -/
def searchAndFetch (coordinator : Coordinator) (indexName : Text) (query : Option Query)
    (request : Option PageRequest) (wanted : Option Int) : Except Failure (Page Retrieved) :=
  coordinator.searchAndFetchBy coordinator.fetching List.range indexName query request wanted

end Coordinator
end Depot
