import Depot.Proofs.Chronicle

/-!
# Storing and filing in two phases

Storing and filing at once has no transaction over both. When the first phase fails, nothing is
filed; when the second fails, the payload stays behind, and filing alone makes up for it.
`Coordinator.fileBy` files with a transaction of any body, so that filing may be given up at any
of its statements.
-/

namespace Depot

/-- The body of a transaction that files a document: its index, identifier, digest, content type
and fields. -/
abbrev FilingWork := String → String → String → Option String → List Field → Work Unit

namespace Coordinator

/-- Filing with a transaction of any body in place of the one that files a document. -/
def fileBy (work : FilingWork) : Filing := fun coordinator indexName contentHash options =>
  match coordinator.outages.failure? .upsert (some indexName) with
  | some failure => (.error failure, coordinator)
  | none =>
    let documentId := coordinator.targetId options
    match encodeParts indexName documentId contentHash options.contentType with
    | .error fault =>
      (.error (coordinator.encodingFailure (.cannotFile documentId indexName) fault),
        coordinator.chosen options)
    | .ok (placement, contentType) =>
      let (result, index) := coordinator.index.transact
        (work placement.indexName placement.documentId placement.contentHash contentType
          options.fields)
      ((result.mapError
          (Connection.workFailure (.cannotFile placement.documentId placement.indexName))).map
        fun _ => placement, { coordinator.chosen options with index := index })

/-- The tables of a depot after the document of a call has been filed under an identifier. -/
def filedUnder (coordinator : Coordinator) (indexName : Text) (hash : String)
    (options : IndexOptions) (documentId : String) : Tables :=
  Work.filed coordinator.index.tables indexName.toStringLossy documentId hash
    (options.contentType.map Text.toStringLossy) options.fields

/-- Two depots have the same entries below the location of their payloads. -/
def SameFiles (home : Location) (left right : Coordinator) : Prop :=
  ∀ names, left.blobs.tree.at? (home ++ names) = right.blobs.tree.at? (home ++ names)

/-- What storing and filing at once promises when one of its phases fails. A failure to store is
passed on before anything is filed and changes no file. A failure to file, at any statement of the
transaction, is passed on, changes nothing of the index and leaves the payload behind. When filing
alone succeeds after that, storing and filing could have succeeded at once, and both reach the same
payloads and the same tables, each with the document under the identifier that it gave. -/
structure FailsInPhases (coordinator : Coordinator) (home : Location)
    (given : List (List UInt8)) (payload : Datum) (indexName : Text) (options : IndexOptions) :
    Prop where
  notStored : ∀ failure, (coordinator.store payload).1 = .error failure →
    (∀ filing : Filing, coordinator.storeAndFileBy filing payload indexName options =
      (.error failure, (coordinator.store payload).2)) ∧
    (coordinator.store payload).2.index = coordinator.index ∧
    ∀ location content,
      (coordinator.store payload).2.blobs.tree.at? location = some (.file content) ↔
        coordinator.blobs.tree.at? location = some (.file content)
  notFiled : ∀ work hash failure, (coordinator.store payload).1 = .ok hash →
    (fileBy work (coordinator.store payload).2 indexName hash options).1 = .error failure →
    ∃ failed, coordinator.storeAndFileBy (fileBy work) payload indexName options =
        (.error failure, failed) ∧
      failed.index = coordinator.index ∧
      ∃ data, payload = .bytes data ∧ failed.blobs.GivesBack given hash data
  madeUpFor : ∀ work hash failure failed, (coordinator.store payload).1 = .ok hash →
    coordinator.storeAndFileBy (fileBy work) payload indexName options =
      (.error failure, failed) →
    ∀ waiting : Coordinator, SameFiles home waiting failed →
      waiting.index.tables = failed.index.tables →
    ∀ late after, waiting.file indexName hash options = (.ok late, after) →
      (∃ atOnce, (storeAndFile { coordinator with
          outages := [], index := { coordinator.index with isOpen := waiting.index.isOpen } }
        payload indexName options).1 = .ok atOnce) ∧
      ∀ ready : Coordinator, ready.blobs = coordinator.blobs →
        ready.index.tables = coordinator.index.tables →
      ∀ atOnce done, ready.storeAndFile payload indexName options = (.ok atOnce, done) →
        SameFiles home after done ∧
        after.index.tables = coordinator.filedUnder indexName hash options late.documentId ∧
        done.index.tables = coordinator.filedUnder indexName hash options atOnce.documentId ∧
        ((options.documentId.filter (!·.isEmpty)).isSome = true →
          late.documentId = atOnce.documentId)

section

variable {coordinator : Coordinator} {indexName contentHash : Text} {options : IndexOptions}

/-- Filing is one of these ways of filing. -/
theorem fileBy_upsert : fileBy Work.upsert = file := by
  funext coordinator indexName contentHash options
  cases outage : coordinator.outages.failure? .upsert (some indexName) with
  | some failure =>
    rw [fileBy, file, outage]
  | none =>
    rw [file_of_calm outage, fileBy, outage]
    rfl

/-- Filing that fails changes nothing of the index, at whatever statement its transaction was given
up. -/
theorem index_fileBy_of_error {work : FilingWork} {failure : Failure}
    (failed : (fileBy work coordinator indexName contentHash options).1 = .error failure) :
    (fileBy work coordinator indexName contentHash options).2.index = coordinator.index := by
  rw [fileBy] at failed ⊢
  split
  · rfl
  · rename_i calm
    rw [calm] at failed
    dsimp only at failed ⊢
    split
    · rfl
    · rename_i placement contentType encoded
      rw [encoded] at failed
      dsimp only at failed ⊢
      rw [Connection.transact] at failed ⊢
      split
      · rename_i isOpen
        rw [if_pos isOpen] at failed
        split
        · rename_i done
          rw [done] at failed
          cases failed
        · rfl
      · rfl

/-- Filing leaves the store of payloads alone. -/
theorem blobs_fileBy (work : FilingWork) (coordinator : Coordinator) (indexName contentHash : Text)
    (options : IndexOptions) :
    (fileBy work coordinator indexName contentHash options).2.blobs = coordinator.blobs := by
  rw [fileBy]
  split
  · rfl
  · dsimp only
    split <;> rfl

/-- Filing that succeeds has met no outage, an open index, and parts and fields that can be kept; it
leaves the tables with the document. -/
theorem of_file_ok {placement : Placement} {after : Coordinator}
    (done : coordinator.file indexName contentHash options = (.ok placement, after)) :
    coordinator.outages.failure? .upsert (some indexName) = none ∧
      coordinator.partsEncodable indexName contentHash options = true ∧
      coordinator.index.isOpen = true ∧ Field.areFileable options.fields = true ∧
      placement = coordinator.placement indexName contentHash options ∧
      after.index.tables = coordinator.filedUnder indexName contentHash.toStringLossy options
        placement.documentId := by
  cases outage : coordinator.outages.failure? .upsert (some indexName) with
  | some failure =>
    rw [file, outage] at done
    cases done
  | none =>
    cases encodable : coordinator.partsEncodable indexName contentHash options with
    | false =>
      obtain ⟨fault, failed⟩ := file_of_not_partsEncodable outage encodable
      rw [failed] at done
      cases done
    | true =>
      rw [file_of_partsEncodable outage encodable] at done
      rcases coordinator.index.upsert_cases indexName.toStringLossy
        (coordinator.targetId options).toStringLossy contentHash.toStringLossy
        (options.contentType.map Text.toStringLossy) options.fields with
        ⟨isOpen, fileable, filed⟩ | ⟨-, failure, failed⟩
      · rw [filed] at done
        cases done
        exact ⟨rfl, rfl, isOpen, fileable, rfl, rfl⟩
      · rw [failed] at done
        cases done

/-- Filing succeeds without an outage, on an open index, with parts and fields that can be kept. -/
theorem file_of_fileable (calm : coordinator.outages.failure? .upsert (some indexName) = none)
    (encodable : coordinator.partsEncodable indexName contentHash options = true)
    (isOpen : coordinator.index.isOpen = true)
    (fileable : Field.areFileable options.fields = true) :
    (coordinator.file indexName contentHash options).1 =
      .ok (coordinator.placement indexName contentHash options) := by
  rw [file_of_partsEncodable calm encodable]
  rcases coordinator.index.upsert_cases indexName.toStringLossy
    (coordinator.targetId options).toStringLossy contentHash.toStringLossy
    (options.contentType.map Text.toStringLossy) options.fields with
    ⟨-, -, filed⟩ | ⟨refused, -⟩
  · rw [filed]
    rfl
  · rw [isOpen, fileable] at refused
    cases refused

/-- Whether the parts of a row can be kept does not depend on the identifiers that have been
issued. -/
theorem partsEncodable_eq (left right : Coordinator) (indexName contentHash : Text)
    (options : IndexOptions) :
    left.partsEncodable indexName contentHash options =
      right.partsEncodable indexName contentHash options := by
  rw [partsEncodable, partsEncodable, targetId, targetId]
  cases options.documentId.filter (!·.isEmpty) with
  | none =>
    rw [Option.getD_none, Option.getD_none, Text.isEncodable_ofString, Text.isEncodable_ofString]
  | some given => rw [Option.getD_some, Option.getD_some]

end

section

variable {coordinator : Coordinator} {home : Location} {kept given : List (List UInt8)}
  {payload : Datum} {indexName : Text} {options : IndexOptions}

/-- Storing without outages succeeds if it has succeeded with some. -/
theorem store_of_no_outages (keeps : coordinator.blobs.Keeps home kept) {hash : String}
    (done : (coordinator.store payload).1 = .ok hash) (index : Connection) :
    (store { coordinator with outages := [], index := index } payload).1 = .ok hash := by
  obtain ⟨data, rfl, stored, -⟩ := of_store_ok done
  obtain ⟨rfl, short, -⟩ := keeps.of_store_ok stored
  exact keeps.store_of_calm short fun _ => rfl

/-- Two depots with the same store that store a payload have the same store afterwards. -/
theorem blobs_store_eq (keeps : coordinator.blobs.Keeps home kept) {other : Coordinator}
    (sameBlobs : other.blobs = coordinator.blobs) {hash otherHash : String}
    (done : (coordinator.store payload).1 = .ok hash)
    (otherDone : (other.store payload).1 = .ok otherHash) :
    otherHash = hash ∧ (other.store payload).2.blobs = (coordinator.store payload).2.blobs := by
  obtain ⟨data, rfl, stored, after⟩ := of_store_ok done
  obtain ⟨otherData, same, otherStored, otherAfter⟩ := of_store_ok otherDone
  cases same
  rw [sameBlobs] at otherStored otherAfter
  have sameOutcome := keeps.store_eq_of_ok stored otherStored
  rw [sameOutcome] at stored after
  rw [stored] at otherStored
  cases otherStored
  refine ⟨rfl, ?_⟩
  rw [after, otherAfter]

/-- A failure to store is passed on, and nothing else happens. -/
theorem not_stored (keeps : coordinator.blobs.Keeps home kept) {failure : Failure}
    (failed : (coordinator.store payload).1 = .error failure) :
    (∀ filing : Filing, coordinator.storeAndFileBy filing payload indexName options =
        (.error failure, (coordinator.store payload).2)) ∧
      (coordinator.store payload).2.index = coordinator.index ∧
      ∀ location content,
        (coordinator.store payload).2.blobs.tree.at? location = some (.file content) ↔
          coordinator.blobs.tree.at? location = some (.file content) := by
  refine ⟨fun filing => storeAndFileBy_of_error failed filing indexName options, ?_⟩
  rcases coordinator.store_cases payload with ⟨data, rfl, outcome⟩ | ⟨refusal, outcome⟩
  · rw [outcome] at failed ⊢
    exact ⟨rfl, keeps.files_of_store_error failed⟩
  · rw [outcome]
    exact ⟨rfl, fun _ _ => Iff.rfl⟩

/-- A failure to file is passed on, leaves the index as it was and the payload behind. -/
theorem not_filed (keeps : coordinator.blobs.Keeps home kept) (fromGiven : kept ⊆ given)
    {work : FilingWork} {hash : String} {failure : Failure}
    (stored : (coordinator.store payload).1 = .ok hash)
    (refused : (fileBy work (coordinator.store payload).2 indexName hash options).1 =
      .error failure) :
    ∃ failed, coordinator.storeAndFileBy (fileBy work) payload indexName options =
        (.error failure, failed) ∧
      failed.index = coordinator.index ∧
      ∃ data, payload = .bytes data ∧ failed.blobs.GivesBack given hash data := by
  refine ⟨(fileBy work (coordinator.store payload).2 indexName hash options).2, ?_, ?_, ?_⟩
  · rw [storeAndFileBy_of_ok stored]
    exact Prod.ext refused rfl
  · rw [index_fileBy_of_error refused]
    obtain ⟨data, -, -, after⟩ := of_store_ok stored
    rw [after]
  · rw [blobs_fileBy]
    obtain ⟨data, rfl, blobsStored, after⟩ := of_store_ok stored
    obtain ⟨rfl, -, keepsAfter⟩ := keeps.of_store_ok blobsStored
    refine ⟨data, rfl, ?_⟩
    rw [after]
    refine keepsAfter.givesBack ?_ List.mem_cons_self
    intro other member
    exact (List.mem_cons.mp member).imp_right fun before => fromGiven before

/-- The tables and the store after storing and filing at once have succeeded. -/
theorem of_storeAndFile_ok {placement : Placement} {done : Coordinator}
    (succeeded : coordinator.storeAndFile payload indexName options = (.ok placement, done)) :
    ∃ hash, (coordinator.store payload).1 = .ok hash ∧
      (coordinator.store payload).2.file indexName hash options = (.ok placement, done) ∧
      done.blobs = (coordinator.store payload).2.blobs := by
  rcases coordinator.storeAndFile_cases payload indexName options with
    ⟨failure, -, outcome⟩ | ⟨hash, stored, outcome⟩
  · rw [outcome] at succeeded
    cases succeeded
  · rw [outcome] at succeeded
    refine ⟨hash, stored, succeeded, ?_⟩
    have sameBlobs := blobs_fileBy Work.upsert (coordinator.store payload).2 indexName hash options
    rw [fileBy_upsert, succeeded] at sameBlobs
    exact sameBlobs

/-- Storing and filing could have succeeded at once if filing alone succeeds later. -/
theorem storeAndFile_of_file_ok (keeps : coordinator.blobs.Keeps home kept) {hash : String}
    (stored : (coordinator.store payload).1 = .ok hash) {waiting after : Coordinator}
    {late : Placement}
    (filed : waiting.file indexName hash options = (.ok late, after)) :
    ∃ atOnce, (storeAndFile { coordinator with
        outages := [], index := { coordinator.index with isOpen := waiting.index.isOpen } }
      payload indexName options).1 = .ok atOnce := by
  obtain ⟨-, encodable, isOpen, fileable, -, -⟩ := of_file_ok filed
  have storedCalmly := store_of_no_outages keeps stored
    { coordinator.index with isOpen := waiting.index.isOpen }
  obtain ⟨data, -, -, afterStoring⟩ := of_store_ok storedCalmly
  rw [storeAndFile, storeAndFileBy_of_ok storedCalmly, afterStoring]
  exact ⟨_, file_of_fileable rfl ((partsEncodable_eq _ waiting _ _ _).trans encodable) isOpen
    fileable⟩

/-- A depot that keeps payloads fails in phases. -/
theorem failsInPhases (keeps : coordinator.blobs.Keeps home kept) (fromGiven : kept ⊆ given)
    (payload : Datum) (indexName : Text) (options : IndexOptions) :
    coordinator.FailsInPhases home given payload indexName options where
  notStored := fun _ failed => not_stored keeps failed
  notFiled := fun _ _ _ stored refused => not_filed keeps fromGiven stored refused
  madeUpFor := by
    intro work hash failure failed stored outcome waiting sameFiles sameTables late after filed
    refine ⟨storeAndFile_of_file_ok keeps stored filed, ?_⟩
    intro ready readyBlobs readyTables atOnce done succeeded
    rw [storeAndFileBy_of_ok stored] at outcome
    have failedBlobs := blobs_fileBy work (coordinator.store payload).2 indexName hash options
    have failedIndex := index_fileBy_of_error (congrArg Prod.fst outcome)
    rw [outcome] at failedBlobs failedIndex
    -- Storing that succeeds gives the same store under any outages, so both calls start from it.
    obtain ⟨otherHash, readyStored, readyFiled, doneBlobs⟩ := of_storeAndFile_ok succeeded
    obtain ⟨rfl, storedAlike⟩ := blobs_store_eq keeps readyBlobs stored readyStored
    obtain ⟨-, -, -, -, latePlacement, lateTables⟩ := of_file_ok filed
    obtain ⟨-, -, -, -, readyPlacement, doneTables⟩ := of_file_ok readyFiled
    obtain ⟨data, -, -, afterStoring⟩ := of_store_ok stored
    obtain ⟨readyData, -, -, afterReady⟩ := of_store_ok readyStored
    refine ⟨?_, ?_, ?_, ?_⟩
    · intro names
      have lateBlobs := blobs_fileBy Work.upsert waiting indexName otherHash options
      rw [fileBy_upsert, filed] at lateBlobs
      rw [lateBlobs, sameFiles names, failedBlobs, doneBlobs, storedAlike]
    · rw [lateTables, filedUnder, filedUnder, sameTables, failedIndex, afterStoring,
        Text.toStringLossy_ofString]
    · rw [doneTables, filedUnder, filedUnder, afterReady, readyTables,
        Text.toStringLossy_ofString]
    · intro named
      obtain ⟨documentId, isGiven⟩ := Option.isSome_iff_exists.mp named
      rw [latePlacement, readyPlacement, placement, placement, targetId, targetId, isGiven,
        Option.getD_some, Option.getD_some]

end
end Coordinator

namespace Chronicle

/-- After any events, storing and filing at once fails in phases in a depot that opened with an
empty index and nothing in the folder of its payloads: no phase undoes the other, and filing alone
makes up for the second one. -/
theorem run_failsInPhases {world : World} {config : Config} {base : Option Path}
    {coordinator : Coordinator} {home : Location}
    (opened : (Coordinator.openDepot world config base).1 = .ok coordinator)
    (newIndex : coordinator.index.tables = .empty)
    (located : coordinator.blobs.tree.locate coordinator.blobs.working
      (config.resolvedBlobs base) = .ok home)
    (newStore : ∀ names, names ≠ [] → coordinator.blobs.tree.at? (home ++ names) = none)
    (events : List DepotEvent) :
    Coordinator.fileBy Work.upsert = Coordinator.file ∧
      ∃ last, Chronicle.run config base ⟨coordinator, [], []⟩ events = .ok last ∧
        ∀ payload indexName options, last.coordinator.FailsInPhases home
          (events.filterMap DepotEvent.given?) payload indexName options := by
  refine ⟨Coordinator.fileBy_upsert, ?_⟩
  obtain ⟨last, done, sound, -, -⟩ :=
    (sound_of_openDepot opened newIndex located newStore).run events
  refine ⟨last, done, fun payload indexName options => ?_⟩
  refine Coordinator.failsInPhases sound.stocked.keeps ?_ payload indexName options
  intro kept member
  rcases of_mem_kept done member with before | given
  · cases before
  · exact given

/-- Nothing can be filed. -/
def filingOut : Outages := [(.upsert, ⟨none, .indexUnavailable (.reported "down")⟩)]

/-- When filing is out of order in a new depot, a payload is stored and stays behind. -/
theorem run_failsInPhases_filingOut :
    (Coordinator.openDepot Session.emptyWorld Session.fileSettings none).1 =
        .ok Session.newDepot ∧
      Session.newDepot.index.tables = .empty ∧
      Session.newDepot.blobs.tree.locate Session.newDepot.blobs.working
        (Session.fileSettings.resolvedBlobs none) = .ok ["data", "blobs"] ∧
      (∀ names, names ≠ [] →
        Session.newDepot.blobs.tree.at? (["data", "blobs"] ++ names) = none) ∧
      ∃ failed, Coordinator.storeAndFile { Session.newDepot with outages := filingOut }
          (.bytes [1]) "d" ⟨some "x", none, []⟩ =
            (.error (.indexUnavailable (.reported "down")), failed) ∧
        failed.index = Session.newDepot.index ∧
        failed.blobs.fetch (.text Session.digestOfOne) = .ok [1] := by
  have opened : (Coordinator.openDepot Session.emptyWorld Session.fileSettings none).1 =
      .ok Session.newDepot := rfl
  refine ⟨opened, rfl, rfl, Session.at?_newDepot, ?_⟩
  obtain ⟨isFiling, last, done, fails⟩ := run_failsInPhases opened rfl rfl Session.at?_newDepot
    [.outages filingOut]
  cases done
  have digest : Sha256.hexDigest [1] = Session.digestOfOne := by decide +kernel
  have succeeded : (Coordinator.store { Session.newDepot with outages := filingOut }
      (.bytes [1])).1.isOk = true := by decide +kernel
  cases stored : (Coordinator.store { Session.newDepot with outages := filingOut }
      (.bytes [1])).1 with
  | error failure =>
    rw [stored] at succeeded
    cases succeeded
  | ok hash =>
    obtain ⟨_, -, -, after⟩ := Coordinator.of_store_ok stored
    have refused : (Coordinator.fileBy Work.upsert
        (Coordinator.store { Session.newDepot with outages := filingOut } (.bytes [1])).2 "d" hash
        ⟨some "x", none, []⟩).1 = .error (.indexUnavailable (.reported "down")) := by
      rw [after]
      rfl
    obtain ⟨failed, outcome, sameIndex, data, isData, fetched, answered, isHash, unique⟩ :=
      (fails (.bytes [1]) "d" ⟨some "x", none, []⟩).notFiled Work.upsert hash _ stored refused
    cases isData
    rw [isFiling] at outcome
    rw [← isHash, unique nofun, digest] at answered
    exact ⟨failed, outcome, sameIndex, answered⟩

end Chronicle
end Depot
