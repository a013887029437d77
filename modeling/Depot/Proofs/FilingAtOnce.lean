import Depot.Command.Run
import Depot.Http.Service
import Depot.Proofs.TwoPhases

/-!
# Options that are checked before anything is stored

Options are built from fields before a payload is stored, so that a document which cannot be filed
is refused while there is nothing to clean up. What is built can be filed, apart from a real that is
no number and texts that cannot be encoded: these are met in the second phase, when the payload has
been stored.
-/

namespace Depot

/-- Computations that keep what they are given give back the whole list. -/
theorem map_of_mapM {ε α β γ : Type} {compute : α → Except ε β} {before : α → γ} {after : β → γ}
    (keeps : ∀ argument result, compute argument = .ok result → after result = before argument)
    {arguments : List α} {results : List β} (done : arguments.mapM compute = .ok results) :
    results.map after = arguments.map before := by
  have each := forall₂_of_mapM done
  clear done
  induction each with
  | nil => rfl
  | cons first later inductionHypothesis =>
    rw [List.map_cons, List.map_cons, keeps _ _ first, inductionHypothesis]

namespace Field

/-- A name and a value as they are given for a field. -/
def entry (field : Field) : Datum × Datum := (.text field.name, field.value.toDatum)

/-- The name and the value that an item gives; what is no field is all name. -/
def Item.entry : Item → Datum × Datum
  | .accepted field => field.entry
  | .other given => (given, .null)

/-- The names and the values that a source gives. -/
def Source.entries : Option Source → List (Datum × Datum)
  | none => []
  | some (.mapping given) => given
  | some (.items listed) => listed.map Item.entry

/-- A field that is made has the name and the value that were given. -/
theorem entry_of_make {name value : Datum} {field : Field} (made : make name value = .ok field) :
    field.entry = (name, value) := by
  rw [make] at made
  cases judged : FieldName.validate name with
  | error error => rw [judged] at made; cases made
  | ok accepted =>
    obtain ⟨rfl, -⟩ := (FieldName.validate_eq_ok_iff name accepted).mp judged
    rw [judged] at made
    simp only at made
    split at made
    · rw [ofUsable] at made
      cases read : FieldValue.ofDatum? value with
      | none => rw [read] at made; cases made
      | some held =>
        rw [read] at made
        simp only at made
        split at made
        · cases made
          exact Prod.ext rfl (FieldValue.toDatum_of_ofDatum? read)
        · cases made
    · cases made

/-- Fields that are found to have distinct names are left as they are. -/
theorem of_distinct {fields kept : List Field} (accepted : distinct fields = .ok kept) :
    kept = fields ∧ (fields.map name).Nodup := by
  rw [distinct] at accepted
  cases repeated : repeatedName? [] fields with
  | some name => rw [repeated] at accepted; cases accepted
  | none =>
    rw [repeated] at accepted
    cases accepted
    exact ⟨rfl, ((repeatedName?_eq_none_iff [] fields).mp repeated).1⟩

/-- The fields that are collected are those that were given, with distinct names. -/
theorem of_collect {source : Option Source} {fields : List Field}
    (accepted : collect source = .ok fields) :
    fields.map entry = Source.entries source ∧ (fields.map name).Nodup := by
  match source with
  | none =>
    cases accepted
    exact ⟨rfl, List.nodup_nil⟩
  | some (.mapping entries) =>
    rw [collect] at accepted
    cases made : entries.mapM fun entry => make entry.1 entry.2 with
    | error error => rw [made] at accepted; cases accepted
    | ok kept =>
      rw [made] at accepted
      obtain ⟨rfl, unique⟩ := of_distinct accepted
      refine ⟨?_, unique⟩
      exact (map_of_mapM (fun _ _ => entry_of_make) made).trans
        (List.map_id'' (fun _ => rfl) entries)
  | some (.items items) =>
    rw [collect] at accepted
    cases taken : items.mapM Item.accept with
    | error error => rw [taken] at accepted; cases accepted
    | ok kept =>
      rw [taken] at accepted
      obtain ⟨rfl, unique⟩ := of_distinct accepted
      have ofItem (item : Item) (field : Field) (isField : item.accept = .ok field) :
          field.entry = item.entry := by
        cases item <;> cases isField
        rfl
      exact ⟨map_of_mapM ofItem taken, unique⟩

end Field

namespace IndexOptions

/-- Whether the index can keep the texts of options. -/
def isEncodable (options : IndexOptions) : Bool :=
  options.documentId.all Text.isEncodable && options.contentType.all Text.isEncodable &&
    options.fields.all Field.isEncodable

/-- Whether the index can compare the values of options. -/
def isComparable (options : IndexOptions) : Bool :=
  options.fields.all fun field => !field.value.isNaN

/-- The fields of options that are built are those that were given, with distinct names. -/
theorem of_build {documentId contentType : Option Text} {source : Option Field.Source}
    {options : IndexOptions} (built : build documentId contentType source = .ok options) :
    options.fields.map Field.entry = Field.Source.entries source ∧
      (options.fields.map Field.name).Nodup := by
  rw [build] at built
  cases collected : Field.collect source with
  | error error => rw [collected] at built; cases built
  | ok fields =>
    rw [collected] at built
    cases built
    exact Field.of_collect collected

end IndexOptions

namespace Coordinator

/-- What storing and filing at once promises of options that were built from fields: it succeeds,
and the document that is read back has exactly the fields that were given. -/
def FilesAtOnce (coordinator : Coordinator) (payload : Datum) (indexName : Text)
    (options : IndexOptions) (given : List (Datum × Datum)) : Prop :=
  ∃ placement after document,
    coordinator.storeAndFile payload indexName options = (.ok placement, after) ∧
    after.metadata indexName (.text placement.documentId) = .ok (some document) ∧
    document.fields.map Field.entry = given

/-- The index can keep the row and the fields of a document whose texts it can keep. -/
theorem partsEncodable_and_fields (coordinator : Coordinator) (indexName : Text) (hash : String)
    (options : IndexOptions) :
    (coordinator.partsEncodable indexName hash options &&
        options.fields.all Field.isEncodable) =
      (indexName.isEncodable && options.isEncodable) := by
  have target : (coordinator.targetId options).isEncodable =
      options.documentId.all Text.isEncodable := by
    rw [targetId]
    cases options.documentId with
    | none => exact Text.isEncodable_ofString _
    | some given =>
      rw [Option.all_some, Option.filter_some]
      cases noText : given.isEmpty with
      | false => simp
      | true =>
        have empty : given = ("" : String) := by
          obtain ⟨symbols⟩ := given
          rw [Text.isEmpty, List.isEmpty_iff] at noText
          cases noText
          rfl
        simp [empty]
  rw [partsEncodable, IndexOptions.isEncodable, target, Text.isEncodable_ofString, Bool.and_true]
  simp only [Bool.and_assoc]

section

variable {coordinator : Coordinator} {indexName : Text} {hash : String} {options : IndexOptions}

/-- An open index files every document with distinct names whose values it can compare and whose
texts it can keep. -/
theorem file_of_fit (hash : String)
    (calm : coordinator.outages.failure? .upsert (some indexName) = none)
    (isOpen : coordinator.index.isOpen = true) (distinct : (options.fields.map Field.name).Nodup)
    (comparable : options.isComparable = true)
    (encodable : (indexName.isEncodable && options.isEncodable) = true) :
    ∃ placement after, coordinator.file indexName hash options = (.ok placement, after) := by
  rw [← partsEncodable_and_fields coordinator indexName hash options,
    Bool.and_eq_true] at encodable
  have fileable : Field.areFileable options.fields = true := by
    rw [Field.areFileable_iff]
    refine ⟨?_, List.all_eq_true.mp encodable.2, distinct⟩
    simpa [IndexOptions.isComparable] using comparable
  exact ⟨_, _, Prod.ext (file_of_fileable calm encodable.1 isOpen fileable) rfl⟩

/-- A document with distinct names that an open index does not file has a value that is no number,
or a text that cannot be encoded. -/
theorem file_of_not_fit (hash : String)
    (calm : coordinator.outages.failure? .upsert (some indexName) = none)
    (isOpen : coordinator.index.isOpen = true) (distinct : (options.fields.map Field.name).Nodup)
    (unfit : (options.isComparable && (indexName.isEncodable && options.isEncodable)) = false) :
    ∃ failure, (coordinator.file indexName hash options).1 = .error failure ∧
      (failure = .query .notANumber ∨ ∃ fault, failure = .encoding fault) := by
  rw [← partsEncodable_and_fields coordinator indexName hash options] at unfit
  cases encodable : coordinator.partsEncodable indexName hash options with
  | false =>
    have stopped (isEncodable : coordinator.partsEncodable indexName hash options = true) :
        ¬ FieldsJudged options.fields := by
      rw [encodable] at isEncodable
      cases isEncodable
    obtain ⟨fault, failed⟩ := file_of_not_judged calm isOpen stopped
    exact ⟨_, failed, .inr ⟨fault, rfl⟩⟩
  | true =>
    cases comparable : options.isComparable with
    | false =>
      have notANumber : ∃ field ∈ options.fields, field.value.isNaN = true := by
        simpa [IndexOptions.isComparable] using comparable
      refine ⟨_, ?_, .inl rfl⟩
      rw [file_of_partsEncodable calm encodable, Connection.upsert_of_notANumber isOpen notANumber]
      rfl
    | true =>
      rw [comparable, encodable, Bool.true_and, Bool.true_and] at unfit
      have numbers : ∀ field ∈ options.fields, field.value.isNaN = false := by
        simpa [IndexOptions.isComparable] using comparable
      have notJudged : ¬ FieldsJudged options.fields := by
        rintro (⟨field, member, notANumber⟩ | all | again)
        · rw [numbers field member] at notANumber
          cases notANumber
        · rw [List.all_eq_true.mpr all] at unfit
          cases unfit
        · exact again (distinct.sublist ((List.takeWhile_sublist _).map _))
      obtain ⟨fault, failed⟩ := file_of_not_judged calm isOpen fun _ => notJudged
      exact ⟨_, failed, .inr ⟨fault, rfl⟩⟩

/-- Filing that succeeds enters the document into the catalogue and changes no outage. -/
theorem represents_of_file {catalogue : Catalogue}
    (represents : coordinator.index.Represents catalogue) {placement : Placement}
    {after : Coordinator}
    (filed : coordinator.file indexName hash options = (.ok placement, after)) :
    after.index.Represents (catalogue.file (coordinator.document indexName hash options)) ∧
      after.outages = coordinator.outages := by
  obtain ⟨issued, ⟨-, encodable, outcome⟩ | ⟨failed, -⟩⟩ :=
    coordinator.file_cases indexName hash options
  · let document := coordinator.document indexName hash options
    have kept : ∀ field ∈ document.fields, field.isEncodable = true := encodable
    rw [filed] at outcome
    cases outcome
    exact ⟨⟨represents.isOpen, represents.tables.filed kept⟩, rfl⟩
  · rw [filed] at failed
    cases failed

/-- A document that is filed is read back with its fields. -/
theorem metadata_of_file {catalogue : Catalogue}
    (represents : coordinator.index.Represents catalogue)
    (calm : ∀ indexName, coordinator.outages.failure? .search (some indexName) = none)
    {placement : Placement} {after : Coordinator}
    (filed : coordinator.file indexName hash options = (.ok placement, after)) :
    ∃ document, after.metadata indexName (.text placement.documentId) = .ok (some document) ∧
      document.fields = options.fields := by
  obtain ⟨representsAfter, sameOutages⟩ := represents_of_file represents filed
  obtain ⟨-, encodable, -, -, rfl, -⟩ := of_file_ok filed
  have nameEncodable : indexName.isEncodable = true := by
    simp only [partsEncodable, Bool.and_eq_true] at encodable
    exact encodable.1.1.1
  let document := coordinator.document indexName hash options
  have calmAfter (name : Text) : after.outages.failure? .search (some name) = none := by
    rw [sameOutages]
    exact calm name
  have found := metadata_of_represents representsAfter calmAfter indexName.toStringLossy
    document.documentId
  have isKey : document.key = (indexName.toStringLossy, document.documentId) := rfl
  rw [Text.ofString_toStringLossy nameEncodable, Catalogue.find?_file, if_pos isKey] at found
  exact ⟨document, found, rfl⟩

/-- Without outages every payload is stored, unless the path of its digest is too long. -/
theorem store_of_short {home : Location} {kept : List (List UInt8)}
    (keeps : coordinator.blobs.Keeps home kept) (noOutages : coordinator.outages = [])
    {data : List UInt8} (short : (coordinator.blobs.pathOf (Sha256.hexDigest data)).IsShort) :
    (coordinator.store (.bytes data)).1 = .ok (Sha256.hexDigest data) := by
  obtain ⟨blobs, index, path, issued, outages⟩ := coordinator
  subst noOutages
  exact keeps.store_of_calm short fun _ => rfl

/-- What is stored is filed as promised exactly when its values can be compared and its texts can
be encoded. Otherwise the second phase refuses it, and the payload stays behind without a
document. -/
theorem filesAtOnce_iff {home : Location} {kept given : List (List UInt8)} {catalogue : Catalogue}
    (keeps : coordinator.blobs.Keeps home kept) (fromGiven : kept ⊆ given)
    (represents : coordinator.index.Represents catalogue) (noOutages : coordinator.outages = [])
    (distinct : (options.fields.map Field.name).Nodup) {data : List UInt8}
    (stored : (coordinator.store (.bytes data)).1 = .ok hash) :
    (coordinator.FilesAtOnce (.bytes data) indexName options (options.fields.map Field.entry) ↔
        options.isComparable = true ∧ indexName.isEncodable = true ∧ options.isEncodable = true) ∧
      (¬ coordinator.FilesAtOnce (.bytes data) indexName options
          (options.fields.map Field.entry) →
        ∃ failure failed,
          coordinator.storeAndFile (.bytes data) indexName options = (.error failure, failed) ∧
          failed.index = coordinator.index ∧ failed.blobs.GivesBack given hash data ∧
          (failure = .query .notANumber ∨ ∃ fault, failure = .encoding fault)) := by
  obtain ⟨_, ⟨⟩, -, after⟩ := of_store_ok stored
  have atOnce : coordinator.storeAndFile (.bytes data) indexName options =
      (coordinator.store (.bytes data)).2.file indexName hash options :=
    storeAndFileBy_of_ok stored file indexName options
  have sameIndex : (coordinator.store (.bytes data)).2.index = coordinator.index := by rw [after]
  have calm (capability : Capability) (argument : Option Text) :
      (coordinator.store (.bytes data)).2.outages.failure? capability argument = none := by
    rw [after, noOutages, Outages.failure?_nil]
  have representsStored : (coordinator.store (.bytes data)).2.index.Represents catalogue := by
    rw [sameIndex]
    exact represents
  have isOpen := representsStored.isOpen
  cases fit : options.isComparable && (indexName.isEncodable && options.isEncodable) with
  | true =>
    rw [Bool.and_eq_true] at fit
    obtain ⟨placement, filedAfter, filed⟩ :=
      file_of_fit hash (calm .upsert _) isOpen distinct fit.1 fit.2
    obtain ⟨document, found, sameFields⟩ :=
      metadata_of_file representsStored (fun name => calm .search _) filed
    have promised : coordinator.FilesAtOnce (.bytes data) indexName options
        (options.fields.map Field.entry) :=
      ⟨placement, filedAfter, document, atOnce.trans filed, found, by rw [sameFields]⟩
    exact ⟨⟨fun _ => ⟨fit.1, (Bool.and_eq_true _ _).mp fit.2⟩, fun _ => promised⟩,
      fun broken => absurd promised broken⟩
  | false =>
    obtain ⟨failure, refused, cause⟩ :=
      file_of_not_fit hash (calm .upsert _) isOpen distinct fit
    rw [← fileBy_upsert] at refused
    obtain ⟨failed, outcome, unchanged, _, ⟨⟩, leftBehind⟩ :=
      not_filed keeps fromGiven stored refused
    rw [fileBy_upsert] at outcome
    refine ⟨⟨?_, fun fits => ?_⟩, fun _ => ⟨failure, failed, outcome, unchanged, leftBehind, cause⟩⟩
    · rintro ⟨placement, done, document, succeeded, -, -⟩
      have contradiction := succeeded.symm.trans outcome
      cases contradiction
    · rw [fits.1, fits.2.1, fits.2.2] at fit
      cases fit

end
end Coordinator

/-- A request with options that are refused leaves the depot as it is. -/
theorem Http.storeAndFileBody_of_refused {request : Request} {response : Response}
    (refused : textOptions (request.parameter? "id") (request.parameter? "content_type")
      (request.parameter? "fields") = .error response) (coordinator : Coordinator)
    (indexName : String) :
    storeAndFileBody coordinator indexName request = (response, coordinator) := by
  rw [storeAndFileBody, refused]

/-- A command with options that are refused opens no depot. -/
theorem Command.run_put_of_refused {filing : FilingArguments} {error : CommandError}
    (refused : readOptions filing.documentId filing.contentType filing.fields = .error error)
    (console : Console) (world : World) (environment : List (String × String))
    (path indexName : String) (dataFolder : Option String) :
    (run console world environment ⟨.put path indexName filing, dataFolder⟩).2 = world := by
  rw [run]
  split
  · rfl
  · rw [work]
    simp only [refused]
    split <;> rfl

namespace Chronicle

/-- After any events in a depot that opened with an empty index and nothing in the folder of its
payloads, and that is open and without outages at last, storing a payload whose path is not too long
and filing it with options that were built files exactly the given fields, if no value is the real
that is no number and all texts can be encoded. Otherwise the payload stays behind, and the index
refuses the document. Requests and commands whose options are refused store nothing. -/
theorem run_filesAtOnce {world : World} {config : Config} {base : Option Path}
    {coordinator : Coordinator} {home : Location}
    (opened : (Coordinator.openDepot world config base).1 = .ok coordinator)
    (newIndex : coordinator.index.tables = .empty)
    (located : coordinator.blobs.tree.locate coordinator.blobs.working
      (config.resolvedBlobs base) = .ok home)
    (newStore : ∀ names, names ≠ [] → coordinator.blobs.tree.at? (home ++ names) = none)
    (events : List DepotEvent) (openLast : events.foldl DepotEvent.leavesOpen true = true)
    (noOutages : events.foldl DepotEvent.leavesOutages world.outages = [])
    {documentId contentType : Option Text} {source : Option Field.Source} {options : IndexOptions}
    (built : IndexOptions.build documentId contentType source = .ok options) (indexName : Text) :
    ∃ last, Chronicle.run config base ⟨coordinator, [], []⟩ events = .ok last ∧
      (∀ data, (last.coordinator.blobs.pathOf (Sha256.hexDigest data)).IsShort →
        (last.coordinator.FilesAtOnce (.bytes data) indexName options
            (Field.Source.entries source) ↔
          options.isComparable = true ∧ indexName.isEncodable = true ∧
            options.isEncodable = true) ∧
        (¬ last.coordinator.FilesAtOnce (.bytes data) indexName options
            (Field.Source.entries source) →
          ∃ failure failed,
            last.coordinator.storeAndFile (.bytes data) indexName options =
              (.error failure, failed) ∧
            failed.index = last.coordinator.index ∧
            failed.blobs.GivesBack (events.filterMap DepotEvent.given?) (Sha256.hexDigest data)
              data ∧
            (failure = .query .notANumber ∨ ∃ fault, failure = .encoding fault))) ∧
      (∀ (name : String) (request : Http.Request) (response : Http.Response),
        Http.textOptions (request.parameter? "id") (request.parameter? "content_type")
            (request.parameter? "fields") = .error response →
          Http.storeAndFileBody last.coordinator name request = (response, last.coordinator)) ∧
      ∀ (console : Console) (surroundings : World) (environment : List (String × String))
        (path name : String) (filing : FilingArguments) (dataFolder : Option String)
        (error : CommandError),
        Command.readOptions filing.documentId filing.contentType filing.fields = .error error →
          (Command.run console surroundings environment ⟨.put path name filing, dataFolder⟩).2 =
            surroundings := by
  obtain ⟨-, openFirst, outages⟩ := Coordinator.settled_of_openDepot opened
  obtain ⟨last, done, sound, lastOpen, lastOutages⟩ :=
    (sound_of_openDepot opened newIndex located newStore).run events
  obtain ⟨catalogue, represents, -⟩ := sound.records
  obtain ⟨sameEntries, distinct⟩ := IndexOptions.of_build built
  have fromGiven : last.kept ⊆ events.filterMap DepotEvent.given? := by
    intro kept member
    rcases of_mem_kept done member with before | given
    · cases before
    · exact given
  have isOpen : last.coordinator.index.isOpen = true := by
    rw [lastOpen, openFirst]
    exact openLast
  have calm : last.coordinator.outages = [] := by
    rw [lastOutages, outages]
    exact noOutages
  refine ⟨last, done, fun data short => ?_, ?_, ?_⟩
  · have stored := Coordinator.store_of_short sound.stocked.keeps calm short
    rw [← sameEntries]
    exact Coordinator.filesAtOnce_iff sound.stocked.keeps fromGiven ⟨isOpen, represents⟩ calm
      distinct stored
  · intro name request response refused
    exact Http.storeAndFileBody_of_refused refused last.coordinator name
  · intro console surroundings environment path name filing dataFolder error refused
    exact Command.run_put_of_refused refused console surroundings environment path name dataFolder

/-- A number and a text. -/
def numberAndText : List (Datum × Datum) :=
  [(.text "a", .integer 1), (.text "b", .text "two")]

/-- A number and a text are filed at once after an index has been made. -/
theorem run_filesAtOnce_numberAndText :
    (Coordinator.openDepot Session.emptyWorld Session.fileSettings none).1 =
        .ok Session.newDepot ∧
      (∀ names, names ≠ [] →
        Session.newDepot.blobs.tree.at? (["data", "blobs"] ++ names) = none) ∧
      ∃ options last, IndexOptions.build (some "x") none (some (.mapping numberAndText)) =
          .ok options ∧
        Chronicle.run Session.fileSettings none ⟨Session.newDepot, [], []⟩
          [.call (.createIndex "d")] = .ok last ∧
        last.coordinator.FilesAtOnce (.bytes [1]) "d" options numberAndText := by
  have opened : (Coordinator.openDepot Session.emptyWorld Session.fileSettings none).1 =
      .ok Session.newDepot := rfl
  have built : IndexOptions.build (some "x") none (some (.mapping numberAndText)) = .ok _ := rfl
  refine ⟨opened, Session.at?_newDepot, _, _, built, rfl, ?_⟩
  obtain ⟨last, done, files, -⟩ := run_filesAtOnce opened rfl rfl Session.at?_newDepot
    [.call (.createIndex "d")] rfl rfl built "d"
  cases done
  have short : (Session.newDepot.blobs.pathOf (Sha256.hexDigest [1])).IsShort := by
    rw [Path.IsShort]
    decide +kernel
  exact (files [1] short).1.mpr ⟨by decide, by decide, by decide⟩

/-- A real that is no number is built into options, but a payload cannot be filed with them. -/
theorem not_filesAtOnce_notANumber :
    ¬ ∀ options, IndexOptions.build (some "x") none
        (some (.mapping [(.text "a", .real .nan)])) = .ok options →
      ∃ placement after,
        Session.newDepot.storeAndFile (.bytes [1]) "d" options = (.ok placement, after) := by
  intro promise
  obtain ⟨placement, after, done⟩ := promise _ rfl
  obtain ⟨hash, -, filed, -⟩ := Coordinator.of_storeAndFile_ok done
  obtain ⟨-, -, -, fileable, -, -⟩ := Coordinator.of_file_ok filed
  revert fileable
  decide

end Chronicle
end Depot
