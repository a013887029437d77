import Depot.Proofs.Encodable

/-!
# What a filing transaction does

The transaction that files a document stops at the first statement that fails. Its outcome
depends on the fields alone: on the fields up to the first one that cannot be encoded, on the
names that repeat among them, and on values that are no numbers. The tables do not matter, since
the old fields of the document are dropped first.
-/

namespace Depot

/-- The names of the fields that a row of documents has in the tables. -/
def Tables.FieldNames (tables : Tables) (rowId : Nat) (names : List Text) : Prop :=
  ∀ name : Text, name.isEncodable = true →
    ((tables.fields.any fun row => row.owner == rowId && row.name == name.toStringLossy) = true ↔
      name ∈ names)

namespace Tables

/-- The tables with further field rows. -/
def addFields (tables : Tables) (rows : List FieldRow) : Tables :=
  { tables with fields := tables.fields ++ rows }

@[simp] theorem addFields_nil (tables : Tables) : tables.addFields [] = tables := by
  simp [addFields]

@[simp] theorem addFields_addFields (tables : Tables) (first second : List FieldRow) :
    (tables.addFields first).addFields second = tables.addFields (first ++ second) := by
  simp [addFields]

/-- A document whose fields have been dropped has no fields. -/
theorem fieldNames_dropFields (tables : Tables) (rowId : Nat) :
    (tables.dropFields rowId).FieldNames rowId [] := by
  intro name _
  simp only [dropFields, List.any_filter, List.not_mem_nil, iff_false, Bool.not_eq_true,
    List.any_eq_false]
  intro row _
  cases same : row.owner == rowId <;> simp [same, bne]

/-- Adding the row of a field adds its name. -/
theorem FieldNames.addFields_row {tables : Tables} {rowId : Nat} {names : List Text}
    (known : tables.FieldNames rowId names) {field : Field} (encodable : field.isEncodable = true)
    (position : Nat) :
    (tables.addFields [field.row rowId position]).FieldNames rowId (field.name :: names) := by
  intro name nameEncodable
  have fieldEncodable := (field.isEncodable_iff.mp encodable).1
  rw [addFields, List.any_append, Bool.or_eq_true, known name nameEncodable, List.mem_cons]
  simp only [List.any_cons, List.any_nil, Field.row, beq_self_eq_true, Bool.true_and,
    Bool.or_false, beq_iff_eq, Text.toStringLossy_inj fieldEncodable nameEncodable]
  rw [or_comm, eq_comm]

/-- The row of a field whose name is new is added. -/
theorem FieldNames.insertField_of_not_mem {tables : Tables} {rowId : Nat} {names : List Text}
    (known : tables.FieldNames rowId names) {field : Field} (encodable : field.isEncodable = true)
    (fresh : field.name ∉ names) (position : Nat) :
    tables.insertField (field.row rowId position) =
      .ok (tables.addFields [field.row rowId position]) := by
  have absent := mt (known field.name (field.isEncodable_iff.mp encodable).1).mp fresh
  exact if_neg absent

/-- The row of a field whose name is there is refused. -/
theorem FieldNames.insertField_of_mem {tables : Tables} {rowId : Nat} {names : List Text}
    (known : tables.FieldNames rowId names) {field : Field} (encodable : field.isEncodable = true)
    (taken : field.name ∈ names) (position : Nat) :
    tables.insertField (field.row rowId position) = .error .repeatedField := by
  have present := (known field.name (field.isEncodable_iff.mp encodable).1).mpr taken
  exact if_pos present

end Tables

namespace Work

/-- A field that cannot be encoded stops the transaction. -/
theorem insertField_of_not_isEncodable {field : Field} (refused : field.isEncodable = false)
    (rowId position : Nat) (tables : Tables) :
    ∃ fault,
      (insertField rowId position field).run tables = (.error (.encoding fault), tables) := by
  obtain ⟨fault, failed⟩ := Field.ofField_of_not_isEncodable refused rowId position
  exact ⟨fault, by rw [insertField, failed]; rfl⟩

/-- Any other field is inserted unless its name is there. -/
theorem insertField_of_isEncodable {field : Field} (encodable : field.isEncodable = true)
    (rowId position : Nat) (tables : Tables) :
    (insertField rowId position field).run tables =
      match tables.insertField (field.row rowId position) with
      | .ok changed => (.ok (), changed)
      | .error fault => (.error (WorkFault.database fault), tables) := by
  rw [insertField, Field.ofField_of_isEncodable encodable]
  change (match tables.insertField (field.row rowId position) with
    | .ok changed => (set changed : Work Unit)
    | .error fault => (throw (WorkFault.database fault) : Work Unit)).run tables = _
  cases tables.insertField (field.row rowId position) <;> rfl

/-- Fields are inserted one after the other up to the first that fails. -/
theorem insertFields_cons (rowId position : Nat) (field : Field) (rest : List Field)
    (tables : Tables) :
    (insertFields rowId position (field :: rest)).run tables =
      match (insertField rowId position field).run tables with
      | (.ok _, changed) => (insertFields rowId (position + 1) rest).run changed
      | (.error fault, changed) => (.error fault, changed) := by
  rw [insertFields, ExceptT.run_bind]
  simp only [bind, StateT.bind]
  rcases (insertField rowId position field).run tables with ⟨_ | _, changed⟩ <;> rfl

/-- Fields with new and distinct names that can all be encoded are inserted in order. -/
theorem insertFields_of_fresh {tables : Tables} {rowId : Nat} {names : List Text}
    {fields : List Field} (known : tables.FieldNames rowId names)
    (encodable : ∀ field ∈ fields, field.isEncodable = true)
    (fresh : Field.repeatedName? names fields = none) (position : Nat) :
    (insertFields rowId position fields).run tables =
      (.ok (), tables.addFields (Field.rows rowId position fields)) := by
  induction fields generalizing tables names position with
  | nil => simp [Field.rows]; rfl
  | cons field rest inductionHypothesis =>
    rw [List.forall_mem_cons] at encodable
    rw [Field.repeatedName?] at fresh
    split at fresh
    · cases fresh
    · rename_i absent
      have unused : field.name ∉ names := by simpa using absent
      rw [insertFields_cons, insertField_of_isEncodable encodable.1,
        known.insertField_of_not_mem encodable.1 unused]
      simp only [Field.rows]
      rw [inductionHypothesis (known.addFields_row encodable.1 position) encodable.2 fresh]
      simp

/-- A name that comes again before anything else fails stops the transaction. -/
theorem insertFields_of_repeated {tables : Tables} {rowId : Nat} {names : List Text}
    {fields : List Field} (known : tables.FieldNames rowId names) {name : Text}
    (again : Field.repeatedName? names (fields.takeWhile Field.isEncodable) = some name)
    (position : Nat) :
    ((insertFields rowId position fields).run tables).1 = .error (.database .repeatedField) := by
  induction fields generalizing tables names position with
  | nil => cases again
  | cons field rest inductionHypothesis =>
    cases encodable : field.isEncodable with
    | false => simp [List.takeWhile, encodable, Field.repeatedName?] at again
    | true =>
      rw [List.takeWhile_cons_of_pos encodable, Field.repeatedName?] at again
      rw [insertFields_cons, insertField_of_isEncodable encodable]
      by_cases taken : field.name ∈ names
      · rw [known.insertField_of_mem encodable taken]
      · rw [known.insertField_of_not_mem encodable taken]
        rw [if_neg (by simpa using taken)] at again
        exact inductionHypothesis (known.addFields_row encodable position) again _

/-- A field that cannot be encoded, with nothing wrong before it, stops the transaction. -/
theorem insertFields_of_not_isEncodable {tables : Tables} {rowId : Nat} {names : List Text}
    {fields : List Field} (known : tables.FieldNames rowId names)
    (fresh : Field.repeatedName? names (fields.takeWhile Field.isEncodable) = none)
    (refused : ∃ field ∈ fields, field.isEncodable = false) (position : Nat) :
    ∃ fault, ((insertFields rowId position fields).run tables).1 = .error (.encoding fault) := by
  induction fields generalizing tables names position with
  | nil => obtain ⟨field, member, _⟩ := refused; cases member
  | cons field rest inductionHypothesis =>
    rw [insertFields_cons]
    cases encodable : field.isEncodable with
    | false =>
      obtain ⟨fault, failed⟩ := insertField_of_not_isEncodable encodable rowId position tables
      exact ⟨fault, by rw [failed]⟩
    | true =>
      rw [List.takeWhile_cons_of_pos encodable, Field.repeatedName?] at fresh
      split at fresh
      · cases fresh
      · rename_i absent
        have unused : field.name ∉ names := by simpa using absent
        have later : ∃ other ∈ rest, other.isEncodable = false := by
          obtain ⟨other, member, otherRefused⟩ := refused
          rcases List.mem_cons.mp member with rfl | inRest
          · rw [encodable] at otherRefused
            cases otherRefused
          · exact ⟨other, inRest, otherRefused⟩
        rw [insertField_of_isEncodable encodable, known.insertField_of_not_mem encodable unused]
        exact inductionHypothesis (known.addFields_row encodable position) fresh later _

/-- The working copy when the fields of a document are about to be inserted, and the number of
the row of the document. -/
def prepared (tables : Tables) (indexName documentId contentHash : String)
    (contentType : Option String) : Nat × Tables :=
  let (rowId, filed) :=
    (tables.addIndexName indexName).putDocument indexName documentId contentHash contentType
  (rowId, filed.dropFields rowId)

/-- Filing prepares the tables and then inserts the fields, unless a value is no number. -/
theorem upsert_run (tables : Tables) (indexName documentId contentHash : String)
    (contentType : Option String) (fields : List Field) :
    (upsert indexName documentId contentHash contentType fields).run tables =
      let (rowId, cleared) := prepared tables indexName documentId contentHash contentType
      if fields.any fun field => field.value.isNaN then (.error (.value .notANumber), cleared)
      else (insertFields rowId 0 fields).run cleared := by
  rw [upsert]
  split <;> rfl

/-- The tables after a document has been filed. -/
def filed (tables : Tables) (indexName documentId contentHash : String)
    (contentType : Option String) (fields : List Field) : Tables :=
  let (rowId, cleared) := prepared tables indexName documentId contentHash contentType
  cleared.addFields (Field.rows rowId 0 fields)

/-- No field row of the document is left in the prepared tables. -/
theorem fieldNames_prepared (tables : Tables) (indexName documentId contentHash : String)
    (contentType : Option String) :
    (prepared tables indexName documentId contentHash contentType).2.FieldNames
      (prepared tables indexName documentId contentHash contentType).1 [] :=
  Tables.fieldNames_dropFields _ _

end Work

namespace Connection

variable {connection : Connection} {indexName documentId contentHash : String}
  {contentType : Option String} {fields : List Field}

/-- A closed index files nothing. -/
theorem upsert_of_closed (closed : connection.isOpen = false) :
    connection.upsert indexName documentId contentHash contentType fields =
      (.error (.indexUnavailable (.cannotFile documentId indexName .closed)), connection) := by
  rw [upsert, transact, closed]
  rfl

/-- A transaction that fails leaves the index as it was, wherever it failed. -/
theorem upsert_of_error {failure : Failure}
    (failed : (connection.upsert indexName documentId contentHash contentType fields).1 =
      .error failure) :
    (connection.upsert indexName documentId contentHash contentType fields).2 = connection := by
  revert failed
  rw [upsert, transact]
  cases connection.isOpen with
  | false => intro _; rfl
  | true =>
    simp only [if_true]
    generalize (Work.upsert indexName documentId contentHash contentType fields).run
      connection.tables = outcome
    intro failed
    obtain ⟨_ | _, tables⟩ := outcome
    · rfl
    · cases failed

/-- An open index reports what stops the transaction. -/
theorem upsert_of_fault (isOpen : connection.isOpen = true) {fault : WorkFault}
    (stopped : ((Work.upsert indexName documentId contentHash contentType fields).run
      connection.tables).1 = .error fault) :
    (connection.upsert indexName documentId contentHash contentType fields).1 =
      .error (workFailure (.cannotFile documentId indexName) fault) := by
  revert stopped
  rw [upsert, transact, isOpen]
  simp only [if_true]
  generalize (Work.upsert indexName documentId contentHash contentType fields).run
    connection.tables = outcome
  intro stopped
  obtain ⟨result, tables⟩ := outcome
  cases stopped
  rfl

/-- A value that is no number is refused before any field is inserted. -/
theorem upsert_of_notANumber (isOpen : connection.isOpen = true)
    (notANumber : ∃ field ∈ fields, field.value.isNaN = true) :
    (connection.upsert indexName documentId contentHash contentType fields).1 =
      .error (.query .notANumber) := by
  have found : (fields.any fun field => field.value.isNaN) = true := List.any_eq_true.mpr notANumber
  have stopped : ((Work.upsert indexName documentId contentHash contentType fields).run
      connection.tables).1 = .error (.value .notANumber) := by
    rw [Work.upsert_run]
    simp only [found, if_true]
  exact upsert_of_fault isOpen stopped

/-- Comparable values reach the insertion of the fields. -/
theorem run_upsert_of_comparable (comparable : ∀ field ∈ fields, field.value.isNaN = false) :
    (Work.upsert indexName documentId contentHash contentType fields).run connection.tables =
      (Work.insertFields
        (Work.prepared connection.tables indexName documentId contentHash contentType).1 0
        fields).run
        (Work.prepared connection.tables indexName documentId contentHash contentType).2 := by
  have found : (fields.any fun field => field.value.isNaN) = false := by
    rw [List.any_eq_false]
    intro field member
    rw [comparable field member]
    exact Bool.false_ne_true
  rw [Work.upsert_run]
  simp only [found, Bool.false_eq_true, if_false]

/-- A name that comes again before a field that cannot be encoded is refused. -/
theorem upsert_of_repeated (isOpen : connection.isOpen = true)
    (comparable : ∀ field ∈ fields, field.value.isNaN = false)
    (again : ¬ ((fields.takeWhile Field.isEncodable).map Field.name).Nodup) :
    (connection.upsert indexName documentId contentHash contentType fields).1 =
      .error (.indexUnavailable (.cannotFile documentId indexName .repeatedField)) := by
  cases found : Field.repeatedName? [] (fields.takeWhile Field.isEncodable) with
  | none =>
    rw [Field.repeatedName?_eq_none_iff] at found
    exact absurd found.1 again
  | some name =>
    have stopped : ((Work.upsert indexName documentId contentHash contentType fields).run
        connection.tables).1 = .error (.database .repeatedField) := by
      rw [run_upsert_of_comparable comparable]
      exact Work.insertFields_of_repeated (Work.fieldNames_prepared _ _ _ _ _) found 0
    exact upsert_of_fault isOpen stopped

variable (indexName documentId contentHash contentType) in
/-- A field that cannot be encoded, with distinct names before it, is refused. -/
theorem upsert_of_not_isEncodable (isOpen : connection.isOpen = true)
    (comparable : ∀ field ∈ fields, field.value.isNaN = false)
    (distinct : ((fields.takeWhile Field.isEncodable).map Field.name).Nodup)
    (refused : ∃ field ∈ fields, field.isEncodable = false) :
    ∃ fault, (connection.upsert indexName documentId contentHash contentType fields).1 =
      .error (.encoding fault) := by
  have fresh : Field.repeatedName? [] (fields.takeWhile Field.isEncodable) = none := by
    rw [Field.repeatedName?_eq_none_iff]
    exact ⟨distinct, fun _ _ => List.not_mem_nil⟩
  obtain ⟨fault, stopped⟩ := Work.insertFields_of_not_isEncodable
    (Work.fieldNames_prepared connection.tables indexName documentId contentHash contentType)
    fresh refused 0
  refine ⟨fault, ?_⟩
  have stoppedHere : ((Work.upsert indexName documentId contentHash contentType fields).run
      connection.tables).1 = .error (.encoding fault) := by
    rw [run_upsert_of_comparable comparable, stopped]
  exact upsert_of_fault isOpen stoppedHere

/-- Distinct fields that can be compared and encoded are filed. -/
theorem upsert_of_fileable (isOpen : connection.isOpen = true)
    (comparable : ∀ field ∈ fields, field.value.isNaN = false)
    (distinct : (fields.map Field.name).Nodup)
    (encodable : ∀ field ∈ fields, field.isEncodable = true) :
    connection.upsert indexName documentId contentHash contentType fields =
      (.ok (), { connection with
        tables := Work.filed connection.tables indexName documentId contentHash contentType
          fields }) := by
  have fresh : Field.repeatedName? [] fields = none := by
    rw [Field.repeatedName?_eq_none_iff]
    exact ⟨distinct, fun _ _ => List.not_mem_nil⟩
  rw [upsert, transact, isOpen, run_upsert_of_comparable comparable,
    Work.insertFields_of_fresh (Work.fieldNames_prepared _ _ _ _ _) encodable fresh]
  rfl

end Connection
end Depot
