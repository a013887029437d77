import Depot.Proofs.Sessions
import Depot.Proofs.Sharing
import Depot.Proofs.StoringPromise

/-!
# What happens to a depot

A chronicle runs a depot beside what its callers know: the payloads that it keeps, and the
documents that have been filed, each with the payload that was stored for it, the last one first.
Calls may fail because of outages, of what they are given, or because the index is closed; only
what succeeds is recorded. After any events the store keeps the payloads and the index has the last
document of every key.
-/

namespace Depot

/-- What happens to a depot: a call that concerns its index alone, storing, storing and filing, a
change of the outages, or the loss of the file of a payload. -/
inductive DepotEvent where
  | call (indexCall : DepotCall)
  | store (payload : Datum)
  | storeAndFile (payload : Datum) (indexName : Text) (options : IndexOptions)
  | outages (outages : Outages)
  | lose (payload : List UInt8)

/-- A document that was filed, and the payload that was stored for it if both were done at once. -/
structure Write where
  document : Metadata
  payload : Option (List UInt8)
  deriving DecidableEq

namespace DepotEvent

/-- Whether a depot is open after an event. -/
def leavesOpen (isOpen : Bool) : DepotEvent → Bool
  | .call indexCall => indexCall.leavesOpen isOpen
  | _ => isOpen

/-- The outages after an event. -/
def leavesOutages (outages : Outages) : DepotEvent → Outages
  | .outages changed => changed
  | _ => outages

/-- The payload that an event hands over. -/
def given? : DepotEvent → Option (List UInt8)
  | .store (.bytes data) => some data
  | .storeAndFile (.bytes data) _ _ => some data
  | _ => none

/-- The payload that an event stores. -/
def stored? (coordinator : Coordinator) (event : DepotEvent) : Option (List UInt8) :=
  event.given?.filter fun data => (coordinator.store (.bytes data)).1.isOk

/-- What an event files. -/
def write? (coordinator : Coordinator) : DepotEvent → Option Write
  | .call (.file indexName contentHash options) =>
    if (coordinator.file indexName contentHash options).1.isOk then
      some ⟨coordinator.document indexName contentHash options, none⟩
    else none
  | .storeAndFile (.bytes data) indexName options =>
    if (coordinator.storeAndFile (.bytes data) indexName options).1.isOk then
      some ⟨coordinator.document indexName (Sha256.hexDigest data) options, some data⟩
    else none
  | _ => none

end DepotEvent

/-- The depot after an event, or the failure to open it again. -/
def Coordinator.undergo (config : Config) (base : Option Path) (coordinator : Coordinator) :
    DepotEvent → Except Failure Coordinator
  | .call indexCall => coordinator.perform config base indexCall
  | .store payload => .ok (coordinator.store payload).2
  | .storeAndFile payload indexName options =>
    .ok (coordinator.storeAndFile payload indexName options).2
  | .outages outages => .ok { coordinator with outages := outages }
  | .lose payload =>
    .ok { coordinator with blobs := coordinator.blobs.perform (.lose payload) }

/-- The last of the writes under a key. -/
def Write.last? (writes : List Write) (indexName documentId : String) : Option Write :=
  writes.find? fun write => write.document.key = (indexName, documentId)

/-- A depot beside the payloads that it keeps and what has been filed in it, the last one first. -/
structure Chronicle where
  coordinator : Coordinator
  kept : List (List UInt8)
  writes : List Write

namespace Chronicle

/-- The payloads that are kept after an event. -/
def keptAfter (chronicle : Chronicle) (event : DepotEvent) : List (List UInt8) :=
  match event with
  | .lose payload =>
    chronicle.kept.filter fun other => Sha256.hexDigest other ≠ Sha256.hexDigest payload
  | _ => (event.stored? chronicle.coordinator).toList ++ chronicle.kept

/-- What has been filed after an event; only an index in memory is lost when the depot is opened
again. -/
def writesAfter (config : Config) (base : Option Path) (chronicle : Chronicle)
    (event : DepotEvent) : List Write :=
  match event with
  | .call .reopen =>
    if (config.resolvedIndex base).text = Coordinator.memoryPath then [] else chronicle.writes
  | _ => (event.write? chronicle.coordinator).toList ++ chronicle.writes

/-- The chronicle after an event, or the failure to open the depot again. -/
def undergo (config : Config) (base : Option Path) (chronicle : Chronicle) (event : DepotEvent) :
    Except Failure Chronicle := do
  let coordinator ← chronicle.coordinator.undergo config base event
  .ok ⟨coordinator, chronicle.keptAfter event, chronicle.writesAfter config base event⟩

/-- The chronicle after events. -/
def run (config : Config) (base : Option Path) (chronicle : Chronicle)
    (events : List DepotEvent) : Except Failure Chronicle :=
  events.foldlM (undergo config base) chronicle

end Chronicle

namespace Catalogue

section

variable {documents : List Metadata} {document : Metadata}

/-- Overwriting a document changes what is found under its key alone. -/
theorem find?_overwrite (present : document.key ∈ documents.map Metadata.key)
    (key : String × String) :
    (documents.map fun other => if other.key = document.key then document else other).find?
        (fun other => decide (other.key = key)) =
      if document.key = key then some document
      else documents.find? fun other => decide (other.key = key) := by
  -- Overwriting keeps the keys, so the same entry is found as before.
  have sameTest : ((fun other : Metadata => decide (other.key = key)) ∘
      fun other => if other.key = document.key then document else other) =
        fun other => decide (other.key = key) := by
    funext other
    rw [Function.comp_apply]
    split
    · rename_i same
      rw [same]
    · rfl
  rw [List.find?_map, sameTest]
  cases found : documents.find? fun other => decide (other.key = key) with
  | none =>
    have notKey : document.key ≠ key := by
      rintro rfl
      obtain ⟨old, member, sameKey⟩ := List.mem_map.mp present
      exact List.find?_eq_none.mp found old member (decide_eq_true sameKey)
    rw [if_neg notKey]
    rfl
  | some other =>
    have otherKey := List.find?_some found
    rw [decide_eq_true_eq] at otherKey
    by_cases isKey : document.key = key
    · rw [if_pos isKey, Option.map_some, if_pos (otherKey.trans isKey.symm)]
    · rw [if_neg isKey, Option.map_some, if_neg fun same => isKey (same.symm.trans otherKey)]

/-- A document with a new key is found under it. -/
theorem find?_append_of_not_mem (absent : document.key ∉ documents.map Metadata.key)
    (key : String × String) :
    (documents ++ [document]).find? (fun other => decide (other.key = key)) =
      if document.key = key then some document
      else documents.find? fun other => decide (other.key = key) := by
  rw [List.find?_append, List.find?_singleton]
  by_cases isKey : document.key = key
  · have nothing : documents.find? (fun other => decide (other.key = key)) = none := by
      rw [List.find?_eq_none]
      intro other member otherKey
      exact absent (List.mem_map.mpr ⟨other, member, (of_decide_eq_true otherKey).trans isKey.symm⟩)
    simp [nothing, isKey]
  · simp [isKey]

end

/-- The document of a key after a document has been filed. -/
theorem find?_file (catalogue : Catalogue) (document : Metadata) (indexName documentId : String) :
    (catalogue.file document).find? indexName documentId =
      if document.key = (indexName, documentId) then some document
      else catalogue.find? indexName documentId := by
  rw [find?, find?, file, place]
  split
  · rename_i present
    exact find?_overwrite present _
  · rename_i absent
    exact find?_append_of_not_mem absent _

end Catalogue

/-- Tables that have, of every key, the document that was filed last under it. -/
def Tables.Records (tables : Tables) (writes : List Write) : Prop :=
  ∃ catalogue, tables.Represents catalogue ∧ ∀ indexName documentId,
    catalogue.find? indexName documentId =
      (Write.last? writes indexName documentId).map Write.document

/-- A document that is written is the last of its key. -/
theorem Write.last?_cons (write : Write) (writes : List Write) (indexName documentId : String) :
    Write.last? (write :: writes) indexName documentId =
      if write.document.key = (indexName, documentId) then some write
      else Write.last? writes indexName documentId := by
  rw [last?, List.find?_cons, last?]
  by_cases isKey : write.document.key = (indexName, documentId)
  · simp [isKey]
  · simp [isKey]

namespace Coordinator

section

variable {coordinator : Coordinator} {config : Config} {base : Option Path} {home : Location}
  {kept : List (List UInt8)} {writes : List Write}

/-- Storing either reaches the store of payloads, or fails and changes nothing. -/
theorem store_cases (coordinator : Coordinator) (payload : Datum) :
    (∃ data, payload = .bytes data ∧ coordinator.store payload =
        ((coordinator.blobs.store coordinator.plannedFaults data).1,
          { coordinator with
            blobs := (coordinator.blobs.store coordinator.plannedFaults data).2 })) ∨
      ∃ failure, coordinator.store payload = (.error failure, coordinator) := by
  cases outage : coordinator.outages.failure? .store payload.text? with
  | some failure => exact .inr ⟨failure, by simp only [store, outage]⟩
  | none =>
    cases payload with
    | bytes data => exact .inl ⟨data, rfl, by simp only [store, outage]⟩
    | _ => exact .inr ⟨_, by simp only [store, outage]; rfl⟩

/-- Storing changes nothing of a depot but its store, and keeps what it stores. -/
theorem Stocked.store (stocked : coordinator.Stocked config base home kept) (payload : Datum) :
    (coordinator.store payload).2 =
        { coordinator with blobs := (coordinator.store payload).2.blobs } ∧
      (coordinator.store payload).2.Stocked config base home
        (((DepotEvent.store payload).stored? coordinator).toList ++ kept) := by
  rcases coordinator.store_cases payload with ⟨data, rfl, outcome⟩ | ⟨failure, outcome⟩
  · have keepsAfter := stocked.keeps.store coordinator.plannedFaults data
    have changed := stocked.keeps.changedBelow_store coordinator.plannedFaults data
    have sameFolder := coordinator.blobs.store_snd coordinator.plannedFaults data
    have recorded : ((DepotEvent.store (.bytes data)).stored? coordinator).toList ++ kept =
        if (coordinator.blobs.store coordinator.plannedFaults data).1.isOk then data :: kept
        else kept := by
      rw [DepotEvent.stored?, DepotEvent.given?, Option.filter_some, outcome]
      split <;> rfl
    rw [recorded, outcome]
    exact ⟨rfl, stocked.of_changedBelow sameFolder changed keepsAfter⟩
  · have recorded : (DepotEvent.store payload).stored? coordinator = none := by
      rw [DepotEvent.stored?]
      cases payload with
      | bytes data =>
        rw [DepotEvent.given?, Option.filter_some, outcome]
        rfl
      | _ => rfl
    rw [recorded, outcome]
    exact ⟨rfl, stocked⟩

/-- Filing leaves a stocked depot and records a document that is filed, whatever payload is noted
for it. -/
theorem Stocked.file (stocked : coordinator.Stocked config base home kept)
    (records : coordinator.index.tables.Records writes) (indexName contentHash : Text)
    (options : IndexOptions) (payload : Option (List UInt8)) :
    (coordinator.file indexName contentHash options).2.Stocked config base home kept ∧
      (coordinator.file indexName contentHash options).2.index.tables.Records
        ((if (coordinator.file indexName contentHash options).1.isOk then
          some ⟨coordinator.document indexName contentHash options, payload⟩ else none).toList ++
            writes) ∧
      (coordinator.file indexName contentHash options).2.index.isOpen =
        coordinator.index.isOpen ∧
      (coordinator.file indexName contentHash options).2.outages = coordinator.outages := by
  obtain ⟨catalogue, represents, agree⟩ := records
  obtain ⟨issued, ⟨succeeded, encodable, after⟩ | ⟨failed, after⟩⟩ :=
    coordinator.file_cases indexName contentHash options
  · rw [succeeded, after]
    let document := coordinator.document indexName contentHash options
    refine ⟨stocked.of_eq rfl rfl, ⟨catalogue.file document, ?_, ?_⟩, rfl, rfl⟩
    · have fieldsEncodable : ∀ field ∈ document.fields, field.isEncodable = true := encodable
      exact represents.filed fieldsEncodable
    · intro name documentId
      rw [Catalogue.find?_file, if_pos rfl, Option.toList_some, List.singleton_append,
        Write.last?_cons, agree]
      split <;> rfl
  · rw [failed, after]
    exact ⟨stocked.of_eq rfl rfl, ⟨catalogue, represents, agree⟩, rfl, rfl⟩

/-- Making an index leaves a stocked depot with the documents that it had. -/
theorem Stocked.createIndex (stocked : coordinator.Stocked config base home kept)
    (records : coordinator.index.tables.Records writes) (indexName : Text) :
    (coordinator.createIndex indexName).2.Stocked config base home kept ∧
      (coordinator.createIndex indexName).2.index.tables.Records writes ∧
      (coordinator.createIndex indexName).2.index.isOpen = coordinator.index.isOpen ∧
      (coordinator.createIndex indexName).2.outages = coordinator.outages := by
  obtain ⟨catalogue, represents, agree⟩ := records
  rcases coordinator.createIndex_cases indexName with ⟨-, after⟩ | ⟨-, after⟩
  · rw [after]
    refine ⟨stocked.of_eq rfl rfl, ⟨_, represents.addIndexName indexName.toStringLossy, ?_⟩, rfl,
      rfl⟩
    intro name documentId
    rw [Catalogue.find?, Catalogue.documents_addIndex]
    exact agree name documentId
  · rw [after]
    exact ⟨stocked, ⟨catalogue, represents, agree⟩, rfl, rfl⟩

/-- A failure to store is all that comes of storing and filing at once. -/
theorem storeAndFileBy_of_error {payload : Datum} {failure : Failure}
    (failed : (coordinator.store payload).1 = .error failure) (filing : Filing)
    (indexName : Text) (options : IndexOptions) :
    coordinator.storeAndFileBy filing payload indexName options =
      (.error failure, (coordinator.store payload).2) := by
  rw [storeAndFileBy]
  generalize coordinator.store payload = outcome at failed ⊢
  obtain ⟨result, after⟩ := outcome
  cases failed
  rfl

/-- Storing that succeeds is followed by filing. -/
theorem storeAndFileBy_of_ok {payload : Datum} {hash : String}
    (stored : (coordinator.store payload).1 = .ok hash) (filing : Filing) (indexName : Text)
    (options : IndexOptions) :
    coordinator.storeAndFileBy filing payload indexName options =
      filing (coordinator.store payload).2 indexName hash options := by
  rw [storeAndFileBy]
  generalize coordinator.store payload = outcome at stored ⊢
  obtain ⟨result, after⟩ := outcome
  cases stored
  rfl

/-- Storing and filing at once is storing, and then filing if that succeeded. -/
theorem storeAndFile_cases (coordinator : Coordinator) (payload : Datum) (indexName : Text)
    (options : IndexOptions) :
    (∃ failure, (coordinator.store payload).1 = .error failure ∧
        coordinator.storeAndFile payload indexName options =
          (.error failure, (coordinator.store payload).2)) ∨
      ∃ hash, (coordinator.store payload).1 = .ok hash ∧
        coordinator.storeAndFile payload indexName options =
          (coordinator.store payload).2.file indexName hash options := by
  cases stored : (coordinator.store payload).1 with
  | error failure =>
    exact .inl ⟨failure, rfl, storeAndFileBy_of_error stored file indexName options⟩
  | ok hash => exact .inr ⟨hash, rfl, storeAndFileBy_of_ok stored file indexName options⟩

/-- Storing that succeeds hands bytes to the store of payloads. -/
theorem of_store_ok {payload : Datum} {hash : String}
    (stored : (coordinator.store payload).1 = .ok hash) :
    ∃ data, payload = .bytes data ∧
      (coordinator.blobs.store coordinator.plannedFaults data).1 = .ok hash ∧
      (coordinator.store payload).2 = { coordinator with
        blobs := (coordinator.blobs.store coordinator.plannedFaults data).2 } := by
  rcases coordinator.store_cases payload with ⟨data, rfl, outcome⟩ | ⟨failure, outcome⟩
  · rw [outcome] at stored ⊢
    exact ⟨data, rfl, stored, rfl⟩
  · rw [outcome] at stored
    cases stored

/-- What a stocked depot stores is a run of bytes, and comes back as its digest. -/
theorem Stocked.of_store_ok (stocked : coordinator.Stocked config base home kept)
    {payload : Datum} {hash : String} (stored : (coordinator.store payload).1 = .ok hash) :
    ∃ data, payload = .bytes data ∧ hash = Sha256.hexDigest data := by
  obtain ⟨data, isData, handedOver, -⟩ := Coordinator.of_store_ok stored
  exact ⟨data, isData, (stocked.keeps.of_store_ok handedOver).1⟩

/-- Storing and filing at once leaves a stocked depot, which keeps the payload if it was stored, and
records the document if it was filed. -/
theorem Stocked.storeAndFile (stocked : coordinator.Stocked config base home kept)
    (records : coordinator.index.tables.Records writes) (payload : Datum) (indexName : Text)
    (options : IndexOptions) :
    (coordinator.storeAndFile payload indexName options).2.Stocked config base home
        (((DepotEvent.storeAndFile payload indexName options).stored? coordinator).toList ++
          kept) ∧
      (coordinator.storeAndFile payload indexName options).2.index.tables.Records
        (((DepotEvent.storeAndFile payload indexName options).write? coordinator).toList ++
          writes) ∧
      (coordinator.storeAndFile payload indexName options).2.index.isOpen =
        coordinator.index.isOpen ∧
      (coordinator.storeAndFile payload indexName options).2.outages = coordinator.outages := by
  obtain ⟨sameRest, stockedStored⟩ := stocked.store payload
  have sameStored : (DepotEvent.storeAndFile payload indexName options).stored? coordinator =
      (DepotEvent.store payload).stored? coordinator := by
    cases payload <;> rfl
  rw [sameStored]
  rcases coordinator.storeAndFile_cases payload indexName options with
    ⟨failure, failed, outcome⟩ | ⟨hash, stored, outcome⟩
  · have nothing : (DepotEvent.storeAndFile payload indexName options).write? coordinator =
        none := by
      cases payload with
      | bytes data =>
        rw [DepotEvent.write?, outcome]
        rfl
      | _ => rfl
    rw [nothing, outcome]
    refine ⟨stockedStored, ?_⟩
    rw [sameRest]
    exact ⟨records, rfl, rfl⟩
  · obtain ⟨data, rfl, rfl⟩ := stocked.of_store_ok stored
    have recordsStored : (coordinator.store (.bytes data)).2.index.tables.Records writes := by
      rw [sameRest]
      exact records
    obtain ⟨stockedAfter, recordsAfter, sameOpen, sameOutages⟩ :=
      stockedStored.file recordsStored indexName (Sha256.hexDigest data) options (some data)
    have sameDocument : (coordinator.store (.bytes data)).2.document indexName
        (Sha256.hexDigest data) options =
          coordinator.document indexName (Sha256.hexDigest data) options := by
      rw [sameRest]
      rfl
    rw [DepotEvent.write?, outcome]
    rw [sameDocument] at recordsAfter
    refine ⟨stockedAfter, recordsAfter, sameOpen.trans ?_, sameOutages.trans ?_⟩
    · rw [sameRest]
    · rw [sameRest]

end
end Coordinator

namespace Chronicle

/-- A chronicle of a stocked depot whose index has the documents that were filed. -/
structure Sound (chronicle : Chronicle) (config : Config) (base : Option Path) (home : Location) :
    Prop where
  stocked : chronicle.coordinator.Stocked config base home chronicle.kept
  records : chronicle.coordinator.index.tables.Records chronicle.writes

section

variable {chronicle : Chronicle} {config : Config} {base : Option Path} {home : Location}

/-- Every event leaves a sound chronicle. -/
theorem Sound.undergo (sound : chronicle.Sound config base home) (event : DepotEvent) :
    ∃ next, chronicle.undergo config base event = .ok next ∧ next.Sound config base home ∧
      next.coordinator.index.isOpen = event.leavesOpen chronicle.coordinator.index.isOpen ∧
      next.coordinator.outages = event.leavesOutages chronicle.coordinator.outages := by
  obtain ⟨stocked, records⟩ := sound
  cases event with
  | call indexCall =>
    cases indexCall with
    | createIndex indexName =>
      obtain ⟨stockedAfter, recordsAfter, sameOpen, sameOutages⟩ :=
        stocked.createIndex records indexName
      exact ⟨_, rfl, ⟨stockedAfter, recordsAfter⟩, sameOpen, sameOutages⟩
    | file indexName contentHash options =>
      obtain ⟨stockedAfter, recordsAfter, sameOpen, sameOutages⟩ :=
        stocked.file records indexName contentHash options none
      exact ⟨_, rfl, ⟨stockedAfter, recordsAfter⟩, sameOpen, sameOutages⟩
    | closeIndex => exact ⟨_, rfl, ⟨stocked.of_eq rfl rfl, records⟩, rfl, rfl⟩
    | reopen =>
      obtain ⟨reopened, opened, tables⟩ := stocked.settled.reopen
      obtain ⟨-, isOpen, outages⟩ := Coordinator.settled_of_openDepot opened
      have undergone : chronicle.undergo config base (.call .reopen) = .ok ⟨reopened,
          chronicle.kept, if (config.resolvedIndex base).text = Coordinator.memoryPath then []
            else chronicle.writes⟩ := by
        rw [Chronicle.undergo, Coordinator.undergo, Coordinator.perform, opened]
        rfl
      refine ⟨_, undergone, ⟨stocked.reopen opened, ?_⟩, isOpen, outages⟩
      rw [tables]
      split
      · exact ⟨.empty, Tables.represents_empty, fun _ _ => rfl⟩
      · exact records
  | store payload =>
    obtain ⟨sameRest, stockedAfter⟩ := stocked.store payload
    refine ⟨_, rfl, ⟨stockedAfter, ?_⟩, ?_, ?_⟩
    · rw [sameRest]
      exact records
    · rw [sameRest]
      rfl
    · rw [sameRest]
      rfl
  | storeAndFile payload indexName options =>
    obtain ⟨stockedAfter, recordsAfter, sameOpen, sameOutages⟩ :=
      stocked.storeAndFile records payload indexName options
    exact ⟨_, rfl, ⟨stockedAfter, recordsAfter⟩, sameOpen, sameOutages⟩
  | outages outages => exact ⟨_, rfl, ⟨stocked.of_eq rfl rfl, records⟩, rfl, rfl⟩
  | lose payload =>
    refine ⟨_, rfl, ⟨?_, records⟩, rfl, rfl⟩
    have isDigits := BlobStore.isDigits_hexDigest payload
    exact stocked.of_changedBelow rfl (stocked.keeps.changedBelow_removeFile isDigits)
      (stocked.keeps.removeFile isDigits)

/-- Events leave a sound chronicle. -/
theorem Sound.run (sound : chronicle.Sound config base home) (events : List DepotEvent) :
    ∃ last, chronicle.run config base events = .ok last ∧ last.Sound config base home ∧
      last.coordinator.index.isOpen =
        events.foldl DepotEvent.leavesOpen chronicle.coordinator.index.isOpen ∧
      last.coordinator.outages =
        events.foldl DepotEvent.leavesOutages chronicle.coordinator.outages := by
  induction events generalizing chronicle with
  | nil => exact ⟨chronicle, rfl, sound, rfl, rfl⟩
  | cons event rest inductionHypothesis =>
    obtain ⟨next, undergone, soundNext, nextOpen, nextOutages⟩ := sound.undergo event
    obtain ⟨last, done, soundLast, lastOpen, lastOutages⟩ := inductionHypothesis soundNext
    refine ⟨last, ?_, soundLast, ?_, ?_⟩
    · rw [Chronicle.run, List.foldlM_cons, undergone]
      exact done
    · rw [lastOpen, nextOpen, List.foldl_cons]
    · rw [lastOutages, nextOutages, List.foldl_cons]

/-- A depot that opens with an empty index and nothing in the folder of its payloads begins a sound
chronicle. -/
theorem sound_of_openDepot {world : World} {coordinator : Coordinator}
    (opened : (Coordinator.openDepot world config base).1 = .ok coordinator)
    (newIndex : coordinator.index.tables = .empty)
    (located : coordinator.blobs.tree.locate coordinator.blobs.working
      (config.resolvedBlobs base) = .ok home)
    (newStore : ∀ names, names ≠ [] → coordinator.blobs.tree.at? (home ++ names) = none) :
    (Chronicle.mk coordinator [] []).Sound config base home where
  stocked := Coordinator.stocked_of_openDepot opened located newStore
  records := by
    rw [newIndex]
    exact ⟨.empty, Tables.represents_empty, fun _ _ => rfl⟩

/-- What an event leaves: the depot, the payloads that are kept, and what has been filed. -/
theorem of_undergo {next : Chronicle} {event : DepotEvent}
    (undergone : chronicle.undergo config base event = .ok next) :
    next.kept = chronicle.keptAfter event ∧
      next.writes = chronicle.writesAfter config base event := by
  rw [undergo] at undergone
  cases depot : chronicle.coordinator.undergo config base event with
  | error failure =>
    rw [depot] at undergone
    cases undergone
  | ok coordinator =>
    rw [depot] at undergone
    cases undergone
    exact ⟨rfl, rfl⟩

/-- The chronicle after a first event and others. -/
theorem of_run_cons {last : Chronicle} {event : DepotEvent} {rest : List DepotEvent}
    (done : chronicle.run config base (event :: rest) = .ok last) :
    ∃ next, chronicle.undergo config base event = .ok next ∧
      next.run config base rest = .ok last := by
  rw [run, List.foldlM_cons] at done
  cases undergone : chronicle.undergo config base event with
  | error failure =>
    rw [undergone] at done
    cases done
  | ok next =>
    rw [undergone] at done
    exact ⟨next, rfl, done⟩

/-- A payload that is kept after an event was kept before or has been handed over. -/
theorem of_mem_keptAfter {event : DepotEvent} {payload : List UInt8}
    (member : payload ∈ chronicle.keptAfter event) :
    payload ∈ chronicle.kept ∨ event.given? = some payload := by
  have ofStored (inStored :
      payload ∈ (event.stored? chronicle.coordinator).toList ++ chronicle.kept) :
      payload ∈ chronicle.kept ∨ event.given? = some payload := by
    rcases List.mem_append.mp inStored with stored | before
    · rw [Option.mem_toList, DepotEvent.stored?, Option.filter_eq_some_iff] at stored
      exact .inr stored.1
    · exact .inl before
  cases event with
  | lose lost => exact .inl (List.mem_of_mem_filter member)
  | _ => exact ofStored member

/-- A payload that is kept after events was kept before or has been handed over. -/
theorem of_mem_kept {last : Chronicle} {events : List DepotEvent}
    (done : chronicle.run config base events = .ok last) {payload : List UInt8}
    (member : payload ∈ last.kept) :
    payload ∈ chronicle.kept ∨ payload ∈ events.filterMap DepotEvent.given? := by
  induction events generalizing chronicle with
  | nil =>
    cases done
    exact .inl member
  | cons event rest inductionHypothesis =>
    obtain ⟨next, undergone, doneRest⟩ := of_run_cons done
    rw [List.mem_filterMap]
    rcases inductionHypothesis doneRest with early | late
    · rw [(of_undergo undergone).1] at early
      rcases of_mem_keptAfter early with before | given
      · exact .inl before
      · exact .inr ⟨event, List.mem_cons_self, given⟩
    · obtain ⟨other, memberOther, given⟩ := List.mem_filterMap.mp late
      exact .inr ⟨other, List.mem_cons_of_mem event memberOther, given⟩

/-- Every document that was filed with a payload points at it, and the payload is kept. -/
def Backed (chronicle : Chronicle) : Prop :=
  ∀ document payload, ⟨document, some payload⟩ ∈ chronicle.writes →
    document.contentHash = Sha256.hexDigest payload ∧ payload ∈ chronicle.kept

/-- A document that is filed with a payload points at it, and the payload is stored. -/
theorem of_write? {coordinator : Coordinator} {event : DepotEvent} {document : Metadata}
    {payload : List UInt8} (wrote : event.write? coordinator = some ⟨document, some payload⟩) :
    document.contentHash = Sha256.hexDigest payload ∧
      event.stored? coordinator = some payload := by
  cases event with
  | call indexCall =>
    cases indexCall with
    | file indexName contentHash options =>
      rw [DepotEvent.write?] at wrote
      split at wrote <;> cases wrote
    | _ => cases wrote
  | storeAndFile given indexName options =>
    cases given with
    | bytes data =>
      rw [DepotEvent.write?] at wrote
      split at wrote
      · rename_i succeeded
        cases wrote
        refine ⟨Text.toStringLossy_ofString _, ?_⟩
        rw [DepotEvent.stored?, DepotEvent.given?, Option.filter_some, if_pos]
        rcases coordinator.storeAndFile_cases (.bytes payload) indexName options with
          ⟨failure, -, outcome⟩ | ⟨hash, stored, -⟩
        · rw [outcome] at succeeded
          cases succeeded
        · rw [stored]
          rfl
      · cases wrote
    | _ => cases wrote
  | _ => cases wrote

/-- What has been filed after an event was filed before or by the event. -/
theorem of_mem_writesAfter {event : DepotEvent} {write : Write}
    (member : write ∈ chronicle.writesAfter config base event) :
    write ∈ chronicle.writes ∨ event.write? chronicle.coordinator = some write := by
  have ofWrite (inWrites :
      write ∈ (event.write? chronicle.coordinator).toList ++ chronicle.writes) :
      write ∈ chronicle.writes ∨ event.write? chronicle.coordinator = some write := by
    rcases List.mem_append.mp inWrites with wrote | before
    · exact .inr (Option.mem_toList.mp wrote)
    · exact .inl before
  cases event with
  | call indexCall =>
    cases indexCall with
    | reopen =>
      rw [writesAfter] at member
      split at member
      · cases member
      · exact .inl member
    | _ => exact ofWrite member
  | _ => exact ofWrite member

/-- Payloads stay behind their documents unless their files are lost. -/
theorem Backed.undergo {next : Chronicle} (backed : chronicle.Backed) {event : DepotEvent}
    (undamaged : ∀ payload, event ≠ .lose payload)
    (undergone : chronicle.undergo config base event = .ok next) : next.Backed := by
  obtain ⟨kept, writes⟩ := of_undergo undergone
  have keptAfter : next.kept =
      (event.stored? chronicle.coordinator).toList ++ chronicle.kept := by
    rw [kept]
    cases event with
    | lose payload => exact absurd rfl (undamaged payload)
    | _ => rfl
  intro document payload member
  rw [writes] at member
  rw [keptAfter]
  rcases of_mem_writesAfter member with before | wrote
  · obtain ⟨hash, memberBefore⟩ := backed document payload before
    exact ⟨hash, List.mem_append_right _ memberBefore⟩
  · obtain ⟨hash, stored⟩ := of_write? wrote
    refine ⟨hash, List.mem_append_left _ ?_⟩
    rw [stored]
    exact List.mem_singleton_self payload

/-- Payloads stay behind their documents through events that lose no files. -/
theorem Backed.run {last : Chronicle} (backed : chronicle.Backed) {events : List DepotEvent}
    (undamaged : ∀ payload, .lose payload ∉ events)
    (done : chronicle.run config base events = .ok last) : last.Backed := by
  induction events generalizing chronicle with
  | nil =>
    cases done
    exact backed
  | cons event rest inductionHypothesis =>
    obtain ⟨next, undergone, doneRest⟩ := of_run_cons done
    refine inductionHypothesis (backed.undergo ?_ undergone) ?_ doneRest
    · rintro payload rfl
      exact undamaged payload List.mem_cons_self
    · intro payload member
      exact undamaged payload (List.mem_cons_of_mem event member)

end
end Chronicle

/-- A depot that opens in an empty tree has nothing in the folder of its payloads. -/
theorem Session.at?_newDepot (names : List String) (named : names ≠ []) :
    newDepot.blobs.tree.at? (["data", "blobs"] ++ names) = none := by
  have tree : newDepot.blobs.tree = ⟨[(["data"], .folder), (["data", "blobs"], .folder),
      (["data", "index"], .file (.tables .empty))]⟩ := rfl
  rw [tree]
  simp [FileTree.at?, valueOf?, named]

/-- The digest of a single one. -/
def Session.digestOfOne : String :=
  "4bf5122f344554c53bde2ebb8cd2b7e3d1600ad631c385a5d7cce23c7785459a"

end Depot
