import Mathlib
import Depot.Http.Service
import Depot.Proofs.Sessions
import Depot.Proofs.Validity

/-!
# Two forms of fields

The body of a request that files a document gives its fields as an object or as a list of objects
with a name and a value each. Both forms are read as the same pairs, and both leave the same state.
They are answered alike as well, except when a pair is refused: the object form is a bad request
then, whose remark says what is wrong with the first such pair, and the list form is a failure that
was not foreseen.
-/

namespace Depot

namespace Field

/-- What is wrong with a name and a value of a field, if anything is: the name is empty, has a
forbidden character or is reserved, or the value is an integer that the index cannot keep. -/
def fault? (name : Text) (value : FieldValue) : Option FieldError :=
  if name.isEmpty then some (.name (.notName (.text name)))
  else if name.symbols.any FieldName.isForbidden then some (.name (.forbiddenCharacters name))
  else if FieldName.isInternal name then some (.reserved name)
  else if value.fits then none
  else some (.integerRange name)

/-- What is wrong with the first pair with which something is wrong. -/
def firstFault? (pairs : List (Text × FieldValue)) : Option FieldError :=
  pairs.findSome? fun pair => fault? pair.1 pair.2

/-- Making a field reports what is wrong with its name and its value. -/
theorem refusal?_make (name : Text) (value : FieldValue) :
    refusal? (make (.text name) value.toDatum) = fault? name value := by
  rw [make, FieldName.validate, fault?]
  by_cases empty : name.isEmpty = true
  · rw [if_pos empty, if_pos empty]
    rfl
  · by_cases forbidden : name.symbols.any FieldName.isForbidden = true
    · rw [if_neg empty, if_neg empty, if_pos forbidden, if_pos forbidden]
      rfl
    · have valid : FieldName.isValid name = true := by
        simp only [FieldName.isValid, eq_false_of_ne_true empty, eq_false_of_ne_true forbidden,
          Bool.not_false, Bool.and_self]
      rw [if_neg empty, if_neg empty, if_neg forbidden, if_neg forbidden]
      cases internal : FieldName.isInternal name with
      | true =>
        have unusable : ¬ FieldName.isUsable name = true := by
          rw [FieldName.isUsable, valid, internal]
          decide
        simp only [dif_neg unusable, if_true]
        rfl
      | false =>
        have usable : FieldName.isUsable name = true := by
          rw [FieldName.isUsable, valid, internal]
          rfl
        simp only [dif_pos usable, ofUsable, FieldValue.ofDatum?_toDatum]
        by_cases fits : value.fits = true
        · rw [dif_pos fits]
          simp [refusal?, fits]
        · rw [dif_neg fits]
          simp [refusal?, fits]

/-- Nothing is wrong with pairs of usable names with values that fit. -/
theorem firstFault?_eq_none_iff (pairs : List (Text × FieldValue)) :
    firstFault? pairs = none ↔
      ∀ pair ∈ pairs, FieldName.isUsable pair.1 = true ∧ pair.2.fits = true := by
  rw [firstFault?, List.findSome?_eq_none_iff]
  refine forall₂_congr fun pair _ => ?_
  rw [fault?, FieldName.isUsable, FieldName.isValid]
  cases pair.1.isEmpty <;> cases pair.1.symbols.any FieldName.isForbidden <;>
    cases FieldName.isInternal pair.1 <;> cases pair.2.fits <;> simp

end Field

namespace Http

namespace FieldsBody

/-- Fields as an object. -/
def object (pairs : List (Text × FieldValue)) : Datum :=
  .record (pairs.map fun pair => (pair.1, pair.2.toDatum))

/-- Fields as a list of objects. -/
def list (pairs : List (Text × FieldValue)) : Datum :=
  .sequence (pairs.map fun pair =>
    .record [("name", .text pair.1), ("value", pair.2.toDatum)])

/-- The object is read as its pairs. -/
theorem read?_object (pairs : List (Text × FieldValue)) :
    read? (object pairs) = some (.named pairs) := by
  have values : (pairs.map fun pair => (pair.1, pair.2.toDatum)).mapM
      (fun entry : Text × Datum => (FieldValue.ofDatum? entry.2).map fun value =>
        (entry.1, value)) = some pairs := by
    rw [List.mapM_map]
    induction pairs with
    | nil => rfl
    | cons pair rest inductionHypothesis =>
      simp [List.mapM_cons, inductionHypothesis]
  rw [object, read?, values]
  rfl

/-- The list is read as its pairs. -/
theorem read?_list (pairs : List (Text × FieldValue)) :
    read? (list pairs) = some (.listed pairs) := by
  have readItem (pair : Text × FieldValue) :
      readItem? (.record [("name", .text pair.1), ("value", pair.2.toDatum)]) = some pair := by
    change (FieldValue.ofDatum? pair.2.toDatum).bind (fun value => some (pair.1, value)) = some pair
    rw [FieldValue.ofDatum?_toDatum]
    rfl
  have items : (pairs.map fun pair => Datum.record [("name", .text pair.1),
      ("value", pair.2.toDatum)]).mapM readItem? = some pairs := by
    induction pairs with
    | nil => rfl
    | cons pair rest inductionHypothesis =>
      rw [List.map_cons, List.mapM_cons, readItem, inductionHypothesis]
      rfl
  rw [list, read?, items]
  rfl

end FieldsBody

namespace Response

/-- Lists can be quoted when their parts can be. -/
theorem areQuotable_append (left right : List Datum) :
    areQuotable (left ++ right) = (areQuotable left && areQuotable right) := by
  induction left with
  | nil => simp [areQuotable]
  | cons item rest inductionHypothesis =>
    simp [areQuotable, inductionHypothesis, Bool.and_assoc]

/-- Both forms of fields can be quoted, or none. -/
theorem isQuotable_list (pairs : List (Text × FieldValue)) :
    isQuotable (FieldsBody.list pairs) = isQuotable (FieldsBody.object pairs) := by
  rw [FieldsBody.list, FieldsBody.object, isQuotable, isQuotable]
  induction pairs with
  | nil => rfl
  | cons pair rest inductionHypothesis =>
    have keys : (Text.encodingFault? "name").isNone = true ∧
        (Text.encodingFault? "value").isNone = true := by decide
    rw [List.map_cons, List.map_cons, areQuotable, areEntriesQuotable, inductionHypothesis]
    simp only [isQuotable, areEntriesQuotable, keys.1, keys.2, Bool.true_and, Bool.and_true]

/-- A record can be quoted or not, whichever of two values a key has of which both or none can be
quoted. -/
theorem areEntriesQuotable_insertEntry {first second : Datum}
    (same : isQuotable first = isQuotable second) (key : Text) (entries : List (Text × Datum)) :
    areEntriesQuotable (insertEntry key first entries) =
      areEntriesQuotable (insertEntry key second entries) := by
  induction entries with
  | nil => simp only [insertEntry, areEntriesQuotable, same]
  | cons entry rest inductionHypothesis =>
    rw [insertEntry, insertEntry]
    split
    · rw [areEntriesQuotable, areEntriesQuotable, same]
    · rw [areEntriesQuotable, areEntriesQuotable, inductionHypothesis]

end Response

namespace Part

/-- A required text that is there is so whatever else the body holds. -/
theorem requiredText_eq_ok {first : Datum} {given : Option Datum} {text : Text}
    (isThere : requiredText first given = .ok text) (second : Datum) :
    requiredText second given = .ok text := by
  cases given with
  | none => cases isThere
  | some datum => exact isThere

/-- What is refused in the place of a required text can be quoted when the body can be. -/
theorem areQuotable_requiredText {first second : Datum}
    (same : Response.isQuotable first = Response.isQuotable second) (given : Option Datum) :
    Response.areQuotable (refused (requiredText first given)) =
      Response.areQuotable (refused (requiredText second given)) := by
  cases given with
  | none => simp only [requiredText, refused, Response.areQuotable, same]
  | some datum => rfl

end Part

namespace FilingBody

/-- A body with fields besides other entries. -/
def withFields (entries : List (Text × Datum)) (form : Datum) : Datum :=
  .record (insertEntry "fields" form entries)

/-- The fields of a form in one of its two shapes, or none. -/
def Shows (form : Datum) (fields : Option FieldsBody) : Prop :=
  Part.optional FieldsBody.read? (some form) = .ok fields

/-- The body of its parts, or what was refused of them. -/
def ofParts (indexName contentHash : Part Text) (documentId contentType : Part (Option Text))
    (fields : Option FieldsBody) : Part FilingBody :=
  match indexName, contentHash, documentId, contentType with
  | .ok indexName, .ok contentHash, .ok documentId, .ok contentType =>
    .ok ⟨indexName, contentHash, documentId, contentType, fields⟩
  | indexName, contentHash, documentId, contentType =>
    .error (Part.refused indexName ++ Part.refused contentHash ++ Part.refused documentId ++
      Part.refused contentType)

/-- A body with fields in form is read from its other entries. -/
theorem read_withFields_eq (entries : List (Text × Datum)) {form : Datum}
    {fields : Option FieldsBody} (shows : Shows form fields) :
    read (withFields entries form) =
      ofParts (Part.requiredText (withFields entries form) (Datum.entry? "index" entries))
        (Part.requiredText (withFields entries form) (Datum.entry? "hash" entries))
        (Part.optional Datum.text? (Datum.entry? "id" entries))
        (Part.optional Datum.text? (Datum.entry? "content_type" entries)) fields := by
  have other (name : String) (different : ("fields" : Text) ≠ name) :
      Datum.entry? name (insertEntry "fields" form entries) = Datum.entry? name entries :=
    valueOf?_insertEntry_of_ne different form entries
  have own : Datum.entry? "fields" (insertEntry "fields" form entries) = some form :=
    valueOf?_insertEntry_self _ form entries
  rw [withFields, read, own, shows, other "index" (by decide), other "hash" (by decide),
    other "id" (by decide), other "content_type" (by decide)]
  generalize Part.requiredText _ (Datum.entry? "index" entries) = indexName
  generalize Part.requiredText _ (Datum.entry? "hash" entries) = contentHash
  generalize Part.optional Datum.text? (Datum.entry? "id" entries) = documentId
  generalize Part.optional Datum.text? (Datum.entry? "content_type" entries) = contentType
  cases indexName <;> cases contentHash <;> cases documentId <;> cases contentType <;>
    simp [ofParts, Part.refused]

/-- What a body says besides its fields does not depend on how they are given. A body that is
refused for something else is so with every form, and what is refused can be quoted when the form
can be. -/
theorem read_withFields (entries : List (Text × Datum)) :
    (∃ body : FilingBody, ∀ form fields, Shows form fields →
        read (withFields entries form) = .ok { body with fields := fields }) ∨
      ∃ refused : Datum → List Datum,
        (∀ form fields, Shows form fields →
          read (withFields entries form) = .error (refused form)) ∧
        ∀ first second : Datum, Response.isQuotable first = Response.isQuotable second →
          Response.areQuotable (refused first) = Response.areQuotable (refused second) := by
  by_cases inForm : ∃ indexName contentHash documentId contentType,
      Part.requiredText .null (Datum.entry? "index" entries) = .ok indexName ∧
      Part.requiredText .null (Datum.entry? "hash" entries) = .ok contentHash ∧
      Part.optional Datum.text? (Datum.entry? "id" entries) = .ok documentId ∧
      Part.optional Datum.text? (Datum.entry? "content_type" entries) = .ok contentType
  · obtain ⟨indexName, contentHash, documentId, contentType, hasIndex, hasHash, hasId, hasType⟩ :=
      inForm
    refine .inl ⟨⟨indexName, contentHash, documentId, contentType, none⟩, ?_⟩
    intro form fields shows
    rw [read_withFields_eq entries shows, Part.requiredText_eq_ok hasIndex,
      Part.requiredText_eq_ok hasHash, hasId, hasType]
    rfl
  · refine .inr ⟨fun form =>
      Part.refused (Part.requiredText (withFields entries form) (Datum.entry? "index" entries)) ++
      Part.refused (Part.requiredText (withFields entries form) (Datum.entry? "hash" entries)) ++
      Part.refused (Part.optional Datum.text? (Datum.entry? "id" entries)) ++
      Part.refused (Part.optional Datum.text? (Datum.entry? "content_type" entries)), ?_, ?_⟩
    · intro form fields shows
      rw [read_withFields_eq entries shows, ofParts]
      intro indexName contentHash documentId contentType hasIndex hasHash hasId hasType
      exact inForm ⟨indexName, contentHash, documentId, contentType,
        Part.requiredText_eq_ok hasIndex .null, Part.requiredText_eq_ok hasHash .null, hasId,
        hasType⟩
    · intro first second same
      have sameBody : Response.isQuotable (withFields entries first) =
          Response.isQuotable (withFields entries second) := by
        rw [withFields, withFields, Response.isQuotable, Response.isQuotable]
        exact Response.areEntriesQuotable_insertEntry same _ _
      simp only [Response.areQuotable_append, Part.areQuotable_requiredText sameBody]

end FilingBody

/-- The fields that are made of pairs one after the other fail with the first fault. -/
theorem refusal?_mapM_make (pairs : List (Text × FieldValue)) :
    refusal? (pairs.mapM fun pair => Field.make (.text pair.1) pair.2.toDatum) =
      Field.firstFault? pairs :=
  refusal?_mapM fun pair _ => Field.refusal?_make pair.1 pair.2

/-- The fields of an object are collected from the fields that its pairs make. -/
theorem collect_object (pairs : List (Text × FieldValue)) :
    Field.collect (some (.mapping (pairs.map fun pair => (.text pair.1, pair.2.toDatum)))) =
      (pairs.mapM fun pair => Field.make (.text pair.1) pair.2.toDatum) >>= Field.distinct := by
  rw [Field.collect, List.mapM_map]
  rfl

/-- Fields that are made already are only required to have distinct names. -/
theorem collect_accepted (fields : List Field) :
    Field.collect (some (.items (fields.map .accepted))) = Field.distinct fields := by
  have accepted : (fields.map Field.Item.accepted).mapM Field.Item.accept = .ok fields := by
    rw [List.mapM_map]
    induction fields with
    | nil => rfl
    | cons field rest inductionHypothesis =>
      rw [List.mapM_cons, inductionHypothesis]
      rfl
  rw [Field.collect, accepted]
  rfl

section

variable (documentId contentType : Option Text) {pairs : List (Text × FieldValue)}

/-- Pairs with which nothing is wrong give the same options in both forms. -/
theorem bodyOptions_of_sound (sound : Field.firstFault? pairs = none) :
    bodyOptions documentId contentType (some (.listed pairs)) =
      bodyOptions documentId contentType (some (.named pairs)) := by
  rw [← refusal?_mapM_make, refusal?_eq_none_iff] at sound
  obtain ⟨fields, made⟩ := sound
  rw [bodyOptions, bodyOptions, made]
  simp only [buildOptions, IndexOptions.build, collect_object, collect_accepted, made]
  rfl

/-- A fault in a pair is reported of an object, whereas the list form fails. -/
theorem bodyOptions_of_fault {error : FieldError} (fault : Field.firstFault? pairs = some error) :
    bodyOptions documentId contentType (some (.named pairs)) =
        .error (.detail statusBadRequest error.message) ∧
      bodyOptions documentId contentType (some (.listed pairs)) = .error (.bare statusFailed) := by
  rw [← refusal?_mapM_make, refusal?_eq_some_iff] at fault
  constructor
  · rw [bodyOptions, buildOptions, IndexOptions.build, collect_object, fault]
    rfl
  · rw [bodyOptions, fault]

end

/-- The fields of a body are reached: nothing else is wrong with the body. -/
def FilingBody.InForm (entries : List (Text × Datum)) : Prop :=
  ∃ body, FilingBody.read (FilingBody.withFields entries .null) = .ok body

namespace FieldsBody

/-- The object shows its pairs. -/
theorem shows_object (pairs : List (Text × FieldValue)) :
    FilingBody.Shows (object pairs) (some (.named pairs)) := by
  rw [FilingBody.Shows, object, Part.optional, ← object, read?_object]
  · rfl
  · nofun

/-- The list shows its pairs. -/
theorem shows_list (pairs : List (Text × FieldValue)) :
    FilingBody.Shows (list pairs) (some (.listed pairs)) := by
  rw [FilingBody.Shows, list, Part.optional, ← list, read?_list]
  · rfl
  · nofun

end FieldsBody

section

variable (coordinator : Coordinator) {entries : List (Text × Datum)}
  {pairs : List (Text × FieldValue)}

/-- Bodies with which something else is wrong are answered alike. -/
theorem fileBody_of_not_inForm (refused : ¬ FilingBody.InForm entries) :
    fileBody coordinator (some (FilingBody.withFields entries (FieldsBody.list pairs))) =
      fileBody coordinator (some (FilingBody.withFields entries (FieldsBody.object pairs))) := by
  obtain ⟨body, inForm⟩ | ⟨data, isRefused, same⟩ := FilingBody.read_withFields entries
  · exact absurd ⟨_, inForm .null none rfl⟩ refused
  · simp only [fileBody, Option.getD_some, isRefused _ _ (FieldsBody.shows_list pairs),
      isRefused _ _ (FieldsBody.shows_object pairs), Response.ofRefused,
      same _ _ (Response.isQuotable_list pairs)]

/-- Bodies in form are answered alike when nothing is wrong with the pairs. -/
theorem fileBody_of_sound (inForm : FilingBody.InForm entries)
    (sound : Field.firstFault? pairs = none) :
    fileBody coordinator (some (FilingBody.withFields entries (FieldsBody.list pairs))) =
      fileBody coordinator (some (FilingBody.withFields entries (FieldsBody.object pairs))) := by
  obtain ⟨body, reads⟩ | ⟨data, isRefused, -⟩ := FilingBody.read_withFields entries
  · simp only [fileBody, Option.getD_some, reads _ _ (FieldsBody.shows_list pairs),
      reads _ _ (FieldsBody.shows_object pairs), bodyOptions_of_sound _ _ sound]
  · obtain ⟨body, isRead⟩ := inForm
    rw [isRefused .null none rfl] at isRead
    cases isRead

/-- Of bodies in form with a fault in a pair nothing is filed. -/
theorem fileBody_of_fault (inForm : FilingBody.InForm entries) {error : FieldError}
    (fault : Field.firstFault? pairs = some error) :
    fileBody coordinator (some (FilingBody.withFields entries (FieldsBody.object pairs))) =
        (.detail statusBadRequest error.message, coordinator) ∧
      fileBody coordinator (some (FilingBody.withFields entries (FieldsBody.list pairs))) =
        (.bare statusFailed, coordinator) := by
  obtain ⟨body, reads⟩ | ⟨data, isRefused, -⟩ := FilingBody.read_withFields entries
  · constructor
    · simp only [fileBody, Option.getD_some, reads _ _ (FieldsBody.shows_object pairs),
        (bodyOptions_of_fault _ _ fault).1]
    · simp only [fileBody, Option.getD_some, reads _ _ (FieldsBody.shows_list pairs),
        (bodyOptions_of_fault _ _ fault).2]
  · obtain ⟨body, isRead⟩ := inForm
    rw [isRefused .null none rfl] at isRead
    cases isRead

end

/-- A depot that can be opened is closed after the work. -/
theorem withDepot_of_ok {world : World} {config : Config} {coordinator : Coordinator}
    (opened : (Coordinator.openDepot world config none).1 = .ok coordinator)
    (work : Coordinator → Response × Coordinator) :
    withDepot world config work = ((work coordinator).1, (work coordinator).2.close) := by
  rw [withDepot]
  cases both : Coordinator.openDepot world config none with
  | mk result after =>
    rw [both] at opened
    simp only at opened
    subst opened
    rfl

/-- Work that is not done makes no difference. -/
theorem withDepot_of_error {world : World} {config : Config}
    (closed : ¬ ∃ coordinator, (Coordinator.openDepot world config none).1 = .ok coordinator)
    (first second : Coordinator → Response × Coordinator) :
    withDepot world config first = withDepot world config second := by
  rw [withDepot, withDepot]
  cases both : Coordinator.openDepot world config none with
  | mk result after =>
    cases result with
    | error failure => rfl
    | ok coordinator => exact absurd ⟨coordinator, by rw [both]⟩ closed

/-- A request that files a document with fields in a form, and with other entries in its body. -/
structure Request.Files (request : Request) (entries : List (Text × Datum)) (form : Datum) :
    Prop where
  target : destination request.method (unescape request.path.toList) = .route .file
  body : request.body.read = .ok (some (FilingBody.withFields entries form))

/-- The work of a request that files a document. -/
theorem Request.Files.respond {request : Request} {entries : List (Text × Datum)} {form : Datum}
    (files : request.Files entries form) (world : World) (config : Config) :
    respond world config request =
      withDepot world config fun coordinator =>
        fileBody coordinator (some (FilingBody.withFields entries form)) := by
  rw [Http.respond, files.target]
  simp only [follow, withBody, files.body]

/-- Fields as an object and as a list leave the same state. They are answered alike exactly when
nothing is wrong with a name or a value, or something else is: with the depot, which cannot be
opened, or with the rest of the body. Otherwise nothing is filed, the object is a bad request with a
remark on the first fault, and the list is a failure that was not foreseen. -/
theorem respond_fieldForms (world : World) (config : Config) (entries : List (Text × Datum))
    (pairs : List (Text × FieldValue)) {asObject asList : Request}
    (object : asObject.Files entries (FieldsBody.object pairs))
    (list : asList.Files entries (FieldsBody.list pairs)) :
    (respond world config asList).2 = (respond world config asObject).2 ∧
    ((respond world config asList).1 = (respond world config asObject).1 ↔
      (∀ pair ∈ pairs, FieldName.isUsable pair.1 = true ∧ pair.2.fits = true) ∨
        (¬ ∃ coordinator, (Coordinator.openDepot world config none).1 = .ok coordinator) ∨
        ¬ FilingBody.InForm entries) ∧
    ∀ error coordinator, Field.firstFault? pairs = some error →
      (Coordinator.openDepot world config none).1 = .ok coordinator → FilingBody.InForm entries →
      respond world config asObject = (.detail statusBadRequest error.message, coordinator.close) ∧
        respond world config asList = (.bare statusFailed, coordinator.close) := by
  rw [object.respond, list.respond, ← Field.firstFault?_eq_none_iff]
  by_cases opens : ∃ coordinator, (Coordinator.openDepot world config none).1 = .ok coordinator
  · obtain ⟨coordinator, opened⟩ := opens
    rw [withDepot_of_ok opened, withDepot_of_ok opened]
    by_cases inForm : FilingBody.InForm entries
    · cases fault : Field.firstFault? pairs with
      | none =>
        rw [fileBody_of_sound coordinator inForm fault]
        exact ⟨rfl, ⟨fun _ => .inl rfl, fun _ => rfl⟩, nofun⟩
      | some error =>
        obtain ⟨ofObject, ofList⟩ := fileBody_of_fault coordinator inForm fault
        rw [ofObject, ofList]
        refine ⟨rfl, ⟨nofun, ?_⟩, ?_⟩
        · rintro (none | closed | refused)
          · cases none
          · exact absurd ⟨coordinator, opened⟩ closed
          · exact absurd inForm refused
        · intro again other isFault openedToo _
          cases isFault
          cases opened.symm.trans openedToo
          exact ⟨rfl, rfl⟩
    · rw [fileBody_of_not_inForm coordinator inForm]
      exact ⟨rfl, ⟨fun _ => .inr (.inr inForm), fun _ => rfl⟩,
        fun _ _ _ _ isInForm => absurd isInForm inForm⟩
  · rw [withDepot_of_error opens]
    refine ⟨rfl, ⟨fun _ => .inr (.inl opens), fun _ => rfl⟩, fun error coordinator _ opened => ?_⟩
    exact absurd ⟨coordinator, opened⟩ opens

/-- A request to file a document that a JSON text describes. -/
def filingRequest (text : String) : Request := ⟨"POST", "/index", [], ⟨Utf8.write text, true⟩⟩

/-- A document with a reserved field, as an object. -/
def reservedObject : Request :=
  filingRequest "\x7b\"index\":\"d\",\"hash\":\"h\",\"fields\":\x7b\"_a\":1\x7d\x7d"

/-- The same document with a list of fields. -/
def reservedList : Request :=
  filingRequest
    "\x7b\"index\":\"d\",\"hash\":\"h\",\"fields\":[\x7b\"name\":\"_a\",\"value\":1\x7d]\x7d"

/-- The entries of the document besides its fields. -/
def reservedEntries : List (Text × Datum) := [("index", .text "d"), ("hash", .text "h")]

/-- The name and the value of the field. -/
def reservedPairs : List (Text × FieldValue) := [("_a", .integer 1)]

/-- The object is posted. -/
theorem files_reservedObject :
    reservedObject.Files reservedEntries (FieldsBody.object reservedPairs) := ⟨by cbv, by cbv⟩

/-- The list is posted. -/
theorem files_reservedList :
    reservedList.Files reservedEntries (FieldsBody.list reservedPairs) := ⟨by cbv, by cbv⟩

/-- Nothing else is wrong with the document. -/
theorem inForm_reservedEntries : FilingBody.InForm reservedEntries :=
  ⟨⟨"d", "h", none, none, none⟩, by cbv⟩

/-- The reserved name is the first fault. -/
theorem firstFault?_reservedPairs : Field.firstFault? reservedPairs = some (.reserved "_a") := by
  cbv

/-- A reserved name is remarked upon in an object only, and nothing is filed. -/
theorem respond_fieldForms_reserved :
    respond Session.emptyWorld Session.fileSettings reservedObject =
        (.detail statusBadRequest (FieldError.reserved "_a").message, Session.newDepot.close) ∧
      respond Session.emptyWorld Session.fileSettings reservedList =
        (.bare statusFailed, Session.newDepot.close) :=
  (respond_fieldForms Session.emptyWorld Session.fileSettings _ _ files_reservedObject
    files_reservedList).2.2 (.reserved "_a") Session.newDepot firstFault?_reservedPairs rfl
    inForm_reservedEntries

/-- The two forms of a document with a reserved field are not answered alike. -/
theorem not_sameAnswer_reserved :
    (respond Session.emptyWorld Session.fileSettings reservedList).1 ≠
      (respond Session.emptyWorld Session.fileSettings reservedObject).1 := by
  have opened : (Coordinator.openDepot Session.emptyWorld Session.fileSettings none).1 =
      .ok Session.newDepot := rfl
  obtain ⟨ofObject, ofList⟩ :=
    fileBody_of_fault Session.newDepot inForm_reservedEntries firstFault?_reservedPairs
  rw [files_reservedObject.respond, files_reservedList.respond, withDepot_of_ok opened,
    withDepot_of_ok opened, ofObject, ofList]
  nofun

end Http
end Depot
