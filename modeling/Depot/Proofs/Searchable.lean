import Depot.Proofs.Alternatives
import Depot.Proofs.Reordering
import Depot.Proofs.SameSearch

/-!
# What can be filed can be searched for

Fields and queries are checked by functions of their own. They agree: a name and a value make a
field exactly when an equality with them is accepted, the document identifier apart, which can be
searched for but not filed. So every field of a document that a search returns leads back to the
document. It does so by an equality, by the presence of its name, by the range of its value alone,
and by a choice among values as long as the choice can be prepared and the index can keep the texts
of the others.
-/

namespace Depot

/-! ## Two checks that agree -/

/-- A text can name a field of a document when it can name one in a query and is not the name of
the document identifier. -/
theorem FieldName.isUsable_iff (name : Text) :
    isUsable name = true ↔ (Datum.text name).namesField = true ∧ name ≠ (identifier : Text) := by
  have internal : isInternal (identifier : Text) = true := by decide
  rw [← Datum.nameFault?_eq_none_iff, Datum.nameFault?]
  by_cases isIdentifier : name = (identifier : Text)
  · simp [isIdentifier, isUsable, internal]
  · have sameRule : isReserved name = isInternal name := by simp [isReserved, isIdentifier]
    rw [isUsable, isValid, sameRule]
    cases name.isEmpty <;> cases name.symbols.any isForbidden <;> cases isInternal name <;>
      simp [isIdentifier]

/-- A datum can be compared with the values of fields when it is one, fits, and is a number if it is
a real. -/
theorem Datum.isComparable_iff (value : Datum) :
    value.isComparable = true ↔
      ∃ held, FieldValue.ofDatum? value = some held ∧ held.fits = true ∧ held.isNaN = false := by
  rw [← valueFault?_eq_none_iff]
  cases value <;> simp [valueFault?, FieldValue.ofDatum?, FieldValue.fits, FieldValue.isNaN]

/-- A name and a value make a field when the name can be used and the value fits. -/
theorem Field.exists_make_iff (name value : Datum) :
    (∃ field, make name value = .ok field) ↔
      (∃ label, name = .text label ∧ FieldName.isUsable label = true) ∧
        ∃ held, FieldValue.ofDatum? value = some held ∧ held.fits = true := by
  constructor
  · rintro ⟨field, made⟩
    rw [make] at made
    split at made
    · cases made
    · rename_i label valid
      split at made
      · rename_i usable
        obtain ⟨isText, -⟩ := (FieldName.validate_eq_ok_iff name label).mp valid
        rw [ofUsable] at made
        split at made
        · cases made
        · rename_i held accepted
          split at made
          · rename_i fits
            exact ⟨⟨label, isText, usable⟩, held, accepted, fits⟩
          · cases made
      · cases made
  · rintro ⟨⟨label, rfl, usable⟩, held, accepted, fits⟩
    rw [← FieldValue.toDatum_of_ofDatum? accepted]
    exact ⟨_, make_self ⟨label, held, usable, fits⟩⟩

/-- A leaf that does not test the document identifier is accepted when its name can name a field,
and what it compares can be compared, as bounds of a range only numbers or only texts. -/
theorem Query.exists_ofQuery_leaf_iff {name : Datum}
    (notIdentifier : name ≠ .text FieldName.identifier) {kind : QueryKind}
    (isLeaf : kind.isLeaf = true) (values : List Datum) (low high : Datum) :
    (∃ clause, Clause.ofQuery (node kind name values low high []) = .ok clause) ↔
      name.namesField = true ∧ (kind.compared values low high).all Datum.isComparable = true ∧
        (kind = .range → (kind.compared values low high).all Datum.isNumber = true ∨
          (kind.compared values low high).all Datum.isText = true) := by
  have other : name.isIdentifier = false := by
    rw [Datum.isIdentifier, beq_eq_false_iff_ne]
    cases name with
    | text label => simpa [Datum.text?, FieldName.identifier] using notIdentifier
    | _ => simp [Datum.text?]
  have alone : (node kind name values low high []).leaves =
      [node kind name values low high []] := by
    cases kind <;> first | rfl | cases isLeaf
  rw [← refusal?_eq_none_iff, Clause.refusal?_ofQuery, alone, List.findSome?_singleton,
    fault?_eq_none_iff, isSound, isLeaf, other]
  simp [or_assoc, imp_iff_not_or]

/-- An equality that does not test the document identifier is accepted when its name can name a
field and its value can be compared. -/
theorem Query.exists_ofQuery_equals_iff {name : Datum}
    (notIdentifier : name ≠ .text FieldName.identifier) (value : Datum) :
    (∃ clause, Clause.ofQuery (equals name value) = .ok clause) ↔
      name.namesField = true ∧ value.isComparable = true := by
  rw [equals, exists_ofQuery_leaf_iff notIdentifier rfl]
  simp [QueryKind.compared]

/-- A name and a value that is a number if it is a real make a field exactly when an equality with
them is accepted and the name is not that of the document identifier. -/
theorem Field.exists_make_iff_equals (name : Datum) {value : Datum}
    (comparable : ∀ number, value = .real number → number.isNaN = false) :
    (∃ field, make name value = .ok field) ↔
      (∃ clause, Clause.ofQuery (.equals name value) = .ok clause) ∧
        name ≠ .text FieldName.identifier := by
  have values : value.isComparable = true ↔
      ∃ held, FieldValue.ofDatum? value = some held ∧ held.fits = true := by
    rw [Datum.isComparable_iff]
    refine exists_congr fun held => and_congr_right fun accepted => and_iff_left ?_
    cases held with
    | real number => exact comparable number (FieldValue.toDatum_of_ofDatum? accepted).symm
    | _ => rfl
  by_cases isIdentifier : name = .text FieldName.identifier
  · subst isIdentifier
    simp [exists_make_iff, FieldName.identifier_status.2.2]
  · rw [and_iff_left isIdentifier, Query.exists_ofQuery_equals_iff isIdentifier, exists_make_iff,
      values]
    refine and_congr_left fun _ => ?_
    cases name with
    | text label =>
      have different : label ≠ (FieldName.identifier : Text) := by simpa using isIdentifier
      simp [FieldName.isUsable_iff, different]
    | _ => simp [Datum.namesField]

/-! ## Values and themselves -/

/-- A number that can be compared denotes a point. -/
theorem Datum.exists_point {value : Datum} (comparable : value.isComparable = true)
    (isNumber : value.isNumber = true) : ∃ point, value.point? = some point := by
  cases value with
  | integer given => exact ⟨_, rfl⟩
  | real number =>
    rw [point?, ← Option.ne_none_iff_exists', Ne, Binary64.toExtended?_eq_none_iff]
    simpa [isComparable] using comparable
  | _ => cases isNumber

/-- A value that can be compared agrees with itself. -/
theorem Datum.agrees_self {value : Datum} (comparable : value.isComparable = true) :
    value.agrees value = true := by
  rw [agrees_iff]
  cases value with
  | boolean given => exact ⟨_, rfl, rfl⟩
  | text given => exact ⟨_, rfl, rfl⟩
  | integer given => exact ⟨_, rfl, rfl⟩
  | real number =>
    obtain ⟨point, denoted⟩ := exists_point comparable rfl
    exact ⟨.inr (.inr point), by simp [mark?, denoted]⟩
  | _ => cases comparable

/-- A text comes no later than itself. -/
theorem Text.codesAtMost_self (codes : List Nat) : codesAtMost codes codes = true := by
  induction codes with
  | nil => rfl
  | cons code rest inductionHypothesis => simp [codesAtMost, inductionHypothesis]

/-- A value that can be compared comes no later than itself, unless it is a boolean. -/
theorem Datum.atMost_self {value : Datum} (comparable : value.isComparable = true)
    (notBoolean : value.isBoolean = false) : value.atMost value = true := by
  have numbers {number : Datum} {point : ExtendedRational} (denoted : number.point? = some point) :
      testPoints ExtendedRational.le number number = true := by
    rw [testPoints, denoted]
    simpa using ExtendedRational.le_total point point
  cases value with
  | boolean given => cases notBoolean
  | text given => exact Text.codesAtMost_self given.codes
  | integer given =>
    obtain ⟨point, denoted⟩ := exists_point comparable rfl
    exact numbers denoted
  | real number =>
    obtain ⟨point, denoted⟩ := exists_point comparable rfl
    exact numbers denoted
  | _ => cases comparable

/-! ## Queries for a field of a document -/

/-- The name of a field can name one in a query and is not that of the document identifier. -/
theorem Field.namesField_and_ne_identifier (field : Field) :
    (Datum.text field.name).namesField = true ∧
      Datum.text field.name ≠ .text FieldName.identifier := by
  obtain ⟨named, different⟩ := (FieldName.isUsable_iff field.name).mp field.usable
  exact ⟨named, by simpa using different⟩

/-- Documents can be sorted by the name of a field, both ways. -/
theorem Field.exists_ofSort (field : Field) (direction : SortDirection) :
    ∃ order, OrderClause.ofSort (some ⟨.text field.name, .text direction.label⟩) = .ok order := by
  rw [← refusal?_eq_none_iff, SortOrder.refusal?_ofSort, SortOrder.fault?_eq_none_iff,
    SortOrder.isSound, field.namesField_and_ne_identifier.1, Bool.true_and]
  cases direction <;> rfl

/-- The value of a field that can be filed can be compared. -/
theorem Field.isComparable_of_areFileable {fields : List Field} {field : Field}
    (fileable : areFileable fields = true) (member : field ∈ fields) :
    field.value.toDatum.isComparable = true := by
  obtain ⟨isNumber, -, -⟩ := (areFileable_iff fields).mp fileable
  exact (Datum.isComparable_iff _).mpr
    ⟨field.value, FieldValue.ofDatum?_toDatum _, field.fits, isNumber field member⟩

/-- The index can keep the name and the value of a field that can be filed. -/
theorem Field.isEncodable_of_areFileable {fields : List Field} {field : Field}
    (fileable : areFileable fields = true) (member : field ∈ fields) :
    field.name.isEncodable = true ∧ field.value.toDatum.isEncodable = true := by
  obtain ⟨-, encodable, -⟩ := (areFileable_iff fields).mp fileable
  rw [FieldValue.isEncodable_toDatum]
  exact field.isEncodable_iff.mp (encodable field member)

namespace Query

variable {document : Metadata} {field : Field} {kind : QueryKind} {values : List Datum}
  {low high : Datum}

/-- A choice is accepted when the equalities with its values are. -/
theorem exists_ofQuery_among (field : Field)
    (each : ∀ value ∈ values,
      ∃ clause, Clause.ofQuery (equals (.text field.name) value) = .ok clause) :
    ∃ clause, Clause.ofQuery (among (.text field.name) values) = .ok clause := by
  obtain ⟨named, notIdentifier⟩ := field.namesField_and_ne_identifier
  refine (exists_ofQuery_leaf_iff notIdentifier rfl values _ _).mpr ⟨named, ?_, by simp⟩
  rw [QueryKind.compared, List.all_eq_true]
  exact fun value member =>
    ((exists_ofQuery_equals_iff notIdentifier value).mp (each value member)).2

/-- The range of one value is accepted when the value can be compared and is no boolean. -/
theorem exists_ofQuery_range (field : Field) {value : Datum}
    (comparable : value.isComparable = true) (notBoolean : value.isBoolean = false) :
    ∃ clause, Clause.ofQuery (range (.text field.name) value value) = .ok clause := by
  obtain ⟨named, notIdentifier⟩ := field.namesField_and_ne_identifier
  have present : value.isPresent = true := by
    cases value <;> first | rfl | cases comparable
  have kinds := (Datum.kinds_of_isComparable comparable).1
  rw [notBoolean, eq_comm, Bool.not_eq_false', Bool.or_eq_true] at kinds
  refine (exists_ofQuery_leaf_iff notIdentifier rfl [] value value).mpr
    ⟨named, ?_, fun _ => ?_⟩
  · simp [QueryKind.compared, present, comparable]
  · simpa [QueryKind.compared, present] using kinds

/-- The value of a field is one that its document has under the name of the field. -/
theorem mem_valuesOf (member : field ∈ document.fields) :
    field.value.toDatum ∈ document.valuesOf field.name := by
  have different := ((FieldName.isUsable_iff field.name).mp field.usable).2
  rw [Metadata.valuesOf, if_neg different]
  exact List.mem_map_of_mem (List.mem_filter.mpr ⟨member, decide_eq_true rfl⟩)

/-- The index can keep the texts of a leaf on the name of a field that it keeps when it can keep
those of the values that the leaf tests. -/
theorem isEncodable_leaf (nameEncodable : field.name.isEncodable = true)
    (isLeaf : kind.isLeaf = true) :
    (node kind (.text field.name) values low high []).isEncodable =
      (kind.tested values low high).all Datum.isEncodable := by
  have ofLeaf : (node kind (.text field.name) values low high []).isEncodable =
      kind.leafIsEncodable (.text field.name) values low high := by
    cases kind <;> first | rfl | cases isLeaf
  rw [ofLeaf, QueryKind.leafIsEncodable, Datum.isEncodable_text, nameEncodable, Bool.true_and,
    Bool.or_eq_right_iff_imp, Bool.and_eq_true, decide_eq_true_iff, List.isEmpty_iff]
  rintro ⟨rfl, rfl⟩
  rfl

/-- An accepted query without children is translated. -/
theorem exists_translate_leaf {name : Datum}
    (accepted : ∃ clause, Clause.ofQuery (node kind name values low high []) = .ok clause) :
    ∃ selection,
      Selection.translate (some (node kind name values low high [])) none = .ok selection := by
  obtain ⟨clause, judged⟩ := accepted
  have selected : Selection.ofQuery (some (node kind name values low high [])) none =
      .ok ⟨clause, .filing⟩ := by
    rw [Selection.ofQuery, judged]
    rfl
  have oneLevel : (node kind name values low high []).levels ≤ translationLevels := by
    cases kind <;> exact (by decide : 1 ≤ translationLevels)
  exact ⟨_, Selection.translateWithin_eq_ok_iff.mpr ⟨selected, decide_eq_true oneLevel⟩⟩

/-- A leaf that accepts the value of a field is true of the document. -/
theorem holds_leaf (member : field ∈ document.fields) (isLeaf : kind.isLeaf = true)
    (accepts : kind.accepts values low high field.value.toDatum = true) :
    (node kind (.text field.name) values low high []).holds document = true := by
  have someValue : (document.valuesOf field.name).any (kind.accepts values low high) = true :=
    List.any_eq_true.mpr ⟨_, mem_valuesOf member, accepts⟩
  cases kind <;> first | exact someValue | cases isLeaf

end Query

namespace Coordinator

/-- A query finds a document: it is translated, and what searches for it in the index of the
document find has the document. -/
def FindsBy (coordinator : Coordinator) (document : Metadata) (query : Query) : Prop :=
  ∃ selection documents, Selection.translate (some query) none = .ok selection ∧
    coordinator.index.Finds document.indexName selection none documents ∧ document ∈ documents

/-- Every search for a query that is translated is refused. -/
def CannotLookFor (coordinator : Coordinator) (query : Query) : Prop :=
  ∀ (indexName : Text) (request : PageRequest) (selection : Selection),
    Selection.translate (some query) request.sort = .ok selection →
      coordinator.index.Refused indexName (some query) selection request

section

variable {coordinator : Coordinator} {catalogue : Catalogue} {document : Metadata} {query : Query}

/-- A query that is translated and true of a document finds it exactly when it can be prepared and
the index can keep its texts, and cannot be looked for otherwise. -/
theorem findsBy_iff (represents : coordinator.index.Represents catalogue)
    (member : document ∈ catalogue.documents) {selection : Selection}
    (translated : Selection.translate (some query) none = .ok selection)
    (holds : query.holds document = true) :
    (coordinator.FindsBy document query ↔ query.IsPreparable none ∧ query.isEncodable = true) ∧
      (¬ (query.IsPreparable none ∧ query.isEncodable = true) →
        coordinator.CannotLookFor query) := by
  have accepted := (Selection.translateWithin_eq_ok_iff.mp translated).1
  refine ⟨⟨?_, fun fit => ?_⟩, fun unfit => ?_⟩
  · rintro ⟨other, documents, otherTranslated, finds, -⟩
    cases translated.symm.trans otherTranslated
    obtain ⟨page, answered, -⟩ := finds.counted _ (Connection.firstItem_allowed none _)
    obtain ⟨preparable, encodable⟩ := represents.runs_of_ok accepted answered
    rw [Selection.textsEncodable, Bool.and_eq_true, Bool.and_eq_true] at encodable
    refine ⟨fun other otherTranslated => ?_, encodable.1.2⟩
    cases translated.symm.trans otherTranslated
    exact preparable
  · obtain ⟨preparable, encodable⟩ := fit
    have textsEncodable :
        Selection.textsEncodable document.indexName (some query) none = true := by
      simp [Selection.textsEncodable, encodable, SortOrder.isEncodable]
    refine ⟨selection, _, translated, represents.finds accepted (preparable selection translated)
      textsEncodable (List.Perm.refl _), ?_⟩
    exact Catalogue.mem_listing.mpr ⟨member, by simp, by simpa using holds⟩
  · intro indexName request sorted sortTranslated
    have sortAccepted := (Selection.translateWithin_eq_ok_iff.mp sortTranslated).1
    refine represents.refused sortAccepted fun fit => unfit ⟨?_, ?_⟩
    · intro other otherTranslated
      have otherAccepted := (Selection.translateWithin_eq_ok_iff.mp otherTranslated).1
      exact Selection.isPreparable_of_sorted otherAccepted sortAccepted fit.1
    · have encodable := fit.2
      rw [Selection.textsEncodable, Bool.and_eq_true, Bool.and_eq_true] at encodable
      exact encodable.1.2

end

/-- A field leads back to its document: by its value, by its name, by the range of its value alone
unless that is a boolean, and by a choice of accepted values with its value among them, exactly if
the choice can be prepared, as it can be with few enough values, and the index can keep the texts of
all of them. The name can be sorted by. -/
structure LeadsBack (coordinator : Coordinator) (document : Metadata) (field : Field) : Prop where
  equal : coordinator.FindsBy document (.equals (.text field.name) field.value.toDatum)
  present : coordinator.FindsBy document (.present (.text field.name))
  range : field.value.kind ≠ .boolean →
    coordinator.FindsBy document
      (.range (.text field.name) field.value.toDatum field.value.toDatum)
  among : ∀ values, field.value.toDatum ∈ values →
    (∀ value ∈ values, ∃ clause, Clause.ofQuery (.equals (.text field.name) value) = .ok clause) →
    (∃ selection,
        Selection.translate (some (.among (.text field.name) values)) none = .ok selection) ∧
      (coordinator.FindsBy document (.among (.text field.name) values) ↔
        (Query.among (.text field.name) values).IsPreparable none ∧
          ∀ value ∈ values, value.isEncodable = true) ∧
      (¬ ((Query.among (.text field.name) values).IsPreparable none ∧
          ∀ value ∈ values, value.isEncodable = true) →
        coordinator.CannotLookFor (.among (.text field.name) values))
  few : ∀ values : List Datum, values.length + 8 ≤ parameterLimit →
    (Query.among (.text field.name) values).IsPreparable none
  sorted : ∀ direction : SortDirection, ∃ order,
    OrderClause.ofSort (some ⟨.text field.name, .text direction.label⟩) = .ok order

section

variable {coordinator : Coordinator} {catalogue : Catalogue} {document : Metadata} {field : Field}
  (represents : coordinator.index.Represents catalogue) (filed : document ∈ catalogue.documents)
  (fileable : Field.areFileable document.fields = true) (member : field ∈ document.fields)

include represents filed fileable member

/-- An accepted leaf on a field of a filed document that accepts the value of the field is
translated, and finds the document exactly when it can be prepared and the index can keep the texts
of the values that it tests. -/
theorem findsBy_leaf_iff {kind : QueryKind} {values : List Datum} {low high : Datum}
    (isLeaf : kind.isLeaf = true)
    (accepted : ∃ clause,
      Clause.ofQuery (.node kind (.text field.name) values low high []) = .ok clause)
    (accepts : kind.accepts values low high field.value.toDatum = true) :
    (∃ selection, Selection.translate
        (some (.node kind (.text field.name) values low high [])) none = .ok selection) ∧
      (coordinator.FindsBy document (.node kind (.text field.name) values low high []) ↔
        (Query.node kind (.text field.name) values low high []).IsPreparable none ∧
          (kind.tested values low high).all Datum.isEncodable = true) ∧
      (¬ ((Query.node kind (.text field.name) values low high []).IsPreparable none ∧
          (kind.tested values low high).all Datum.isEncodable = true) →
        coordinator.CannotLookFor (.node kind (.text field.name) values low high [])) := by
  obtain ⟨nameEncodable, -⟩ := Field.isEncodable_of_areFileable fileable member
  obtain ⟨selection, translated⟩ := Query.exists_translate_leaf accepted
  rw [← Query.isEncodable_leaf nameEncodable isLeaf]
  exact ⟨⟨selection, translated⟩,
    findsBy_iff represents filed translated (Query.holds_leaf member isLeaf accepts)⟩

/-- An accepted leaf that is no choice finds the documents whose value it accepts when the index can
keep the texts of the values that it tests. -/
theorem findsBy_leaf {kind : QueryKind} {values : List Datum} {low high : Datum}
    (isLeaf : kind.isLeaf = true) (notAmong : kind ≠ .among)
    (accepted : ∃ clause,
      Clause.ofQuery (.node kind (.text field.name) values low high []) = .ok clause)
    (accepts : kind.accepts values low high field.value.toDatum = true)
    (encodable : (kind.tested values low high).all Datum.isEncodable = true) :
    coordinator.FindsBy document (.node kind (.text field.name) values low high []) :=
  (findsBy_leaf_iff represents filed fileable member isLeaf accepted accepts).2.1.mpr
    ⟨Query.isPreparable_leaf isLeaf notAmong none, encodable⟩

/-- The equality with the value of a field finds the document. -/
theorem findsBy_equals :
    coordinator.FindsBy document (.equals (.text field.name) field.value.toDatum) := by
  have comparable := Field.isComparable_of_areFileable fileable member
  obtain ⟨-, valueEncodable⟩ := Field.isEncodable_of_areFileable fileable member
  obtain ⟨named, notIdentifier⟩ := field.namesField_and_ne_identifier
  have accepted := (Query.exists_ofQuery_equals_iff notIdentifier _).mpr ⟨named, comparable⟩
  exact findsBy_leaf represents filed fileable member rfl (by decide) accepted
    (Datum.agrees_self comparable) (by simpa [QueryKind.tested] using valueEncodable)

/-- The presence of a field finds the document. -/
theorem findsBy_present : coordinator.FindsBy document (.present (.text field.name)) := by
  have isLeaf : QueryKind.present.isLeaf = true := rfl
  obtain ⟨named, notIdentifier⟩ := field.namesField_and_ne_identifier
  have accepted := (Query.exists_ofQuery_leaf_iff notIdentifier isLeaf [] .null .null).mpr
    ⟨named, rfl, by simp⟩
  exact findsBy_leaf represents filed fileable member isLeaf (by decide) accepted rfl rfl

/-- The range of the value of a field alone finds the document, unless the value is a boolean. -/
theorem findsBy_range (notBoolean : field.value.kind ≠ .boolean) :
    coordinator.FindsBy document
      (.range (.text field.name) field.value.toDatum field.value.toDatum) := by
  have comparable := Field.isComparable_of_areFileable fileable member
  obtain ⟨-, valueEncodable⟩ := Field.isEncodable_of_areFileable fileable member
  have noBoolean : field.value.toDatum.isBoolean = false := by
    cases value : field.value <;> simp_all [FieldValue.kind, FieldValue.toDatum, Datum.isBoolean]
  have accepted := Query.exists_ofQuery_range field comparable noBoolean
  have accepts : QueryKind.accepts .range [] field.value.toDatum field.value.toDatum
      field.value.toDatum = true := by
    simp [QueryKind.accepts, Datum.atMost_self comparable noBoolean]
  exact findsBy_leaf represents filed fileable member rfl (by decide) accepted accepts
    (by simpa [QueryKind.tested] using valueEncodable)

/-- A choice of accepted values, with the value of a field among them, is translated, and finds the
document exactly when it can be prepared and the index can keep the texts of all values. -/
theorem findsBy_among_iff {values : List Datum} (chosen : field.value.toDatum ∈ values)
    (each : ∀ value ∈ values,
      ∃ clause, Clause.ofQuery (.equals (.text field.name) value) = .ok clause) :
    (∃ selection,
        Selection.translate (some (.among (.text field.name) values)) none = .ok selection) ∧
      (coordinator.FindsBy document (.among (.text field.name) values) ↔
        (Query.among (.text field.name) values).IsPreparable none ∧
          ∀ value ∈ values, value.isEncodable = true) ∧
      (¬ ((Query.among (.text field.name) values).IsPreparable none ∧
          ∀ value ∈ values, value.isEncodable = true) →
        coordinator.CannotLookFor (.among (.text field.name) values)) := by
  have agrees := Datum.agrees_self (Field.isComparable_of_areFileable fileable member)
  have accepts : QueryKind.accepts .among values .null .null field.value.toDatum = true :=
    List.any_eq_true.mpr ⟨_, chosen, agrees⟩
  have ofLeaf := findsBy_leaf_iff represents filed fileable member rfl
    (Query.exists_ofQuery_among field each) accepts
  rw [QueryKind.tested, List.all_eq_true] at ofLeaf
  exact ofLeaf

/-- Every field of a filed document that is fileable leads back to the document. -/
theorem leadsBack_of_represents : coordinator.LeadsBack document field where
  equal := findsBy_equals represents filed fileable member
  present := findsBy_present represents filed fileable member
  range := findsBy_range represents filed fileable member
  among _ chosen each := findsBy_among_iff represents filed fileable member chosen each
  few _ fewValues := Query.isPreparable_among (.text field.name) fewValues none
  sorted := field.exists_ofSort

end

/-- Only an open index answers, and what it answers has documents of its catalogue alone. -/
theorem of_search_ok {coordinator : Coordinator} {catalogue : Catalogue}
    (tables : coordinator.index.tables.Represents catalogue) {indexName : Text}
    {query : Option Query} {request : Option PageRequest} {page : Page Metadata}
    (answered : coordinator.search indexName query request = .ok page) :
    coordinator.index.Represents catalogue ∧ page.content ⊆ catalogue.documents := by
  rw [search] at answered
  split at answered
  · cases answered
  · rename_i selection translated
    have accepted := (Selection.translateWithin_eq_ok_iff.mp translated).1
    split at answered
    · cases answered
    · cases isOpen : coordinator.index.isOpen with
      | false =>
        rw [Connection.search, isOpen] at answered
        cases answered
      | true =>
        have represents : coordinator.index.Represents catalogue := ⟨isOpen, tables⟩
        obtain ⟨-, -, rfl⟩ := represents.of_search accepted answered
        exact ⟨represents, fun document member =>
          catalogue.listing_subset _ _ _ ((Page.of_slice _ _).1 member)⟩

end Coordinator

namespace Chronicle

/-- A name and a value that is a number if it is a real make a field exactly when an equality with
them is accepted and the name is not that of the document identifier. After any events in the life
of a depot that opened with an empty index and nothing in the folder of its payloads, every field
of a document that a search returns leads back to the document. -/
theorem run_leadsBack {world : World} {config : Config} {base : Option Path}
    {coordinator : Coordinator} {home : Location}
    (opened : (Coordinator.openDepot world config base).1 = .ok coordinator)
    (newIndex : coordinator.index.tables = .empty)
    (located : coordinator.blobs.tree.locate coordinator.blobs.working
      (config.resolvedBlobs base) = .ok home)
    (newStore : ∀ names, names ≠ [] → coordinator.blobs.tree.at? (home ++ names) = none)
    (events : List DepotEvent) :
    (∀ name value : Datum, (∀ number, value = .real number → number.isNaN = false) →
      ((∃ field, Field.make name value = .ok field) ↔
        (∃ clause, Clause.ofQuery (.equals name value) = .ok clause) ∧
          name ≠ .text FieldName.identifier)) ∧
    ∃ last, Chronicle.run config base ⟨coordinator, [], []⟩ events = .ok last ∧
      ∀ indexName query request page,
        last.coordinator.search indexName query request = .ok page →
        ∀ document ∈ page.content, ∀ field ∈ document.fields,
          last.coordinator.LeadsBack document field := by
  refine ⟨fun name value comparable => Field.exists_make_iff_equals name comparable, ?_⟩
  obtain ⟨last, done, sound, -, -⟩ :=
    (sound_of_openDepot opened newIndex located newStore).run events
  have fileable : last.IsFileable :=
    IsFileable.run (fun _ member => absurd member List.not_mem_nil) done
  obtain ⟨catalogue, tables, each⟩ := sound.records.forall_documents
    (fun document => Field.areFileable document.fields = true)
    fun _ _ write isLast => fileable write (List.mem_of_find?_eq_some isLast)
  refine ⟨last, done, fun _ _ _ page answered document returned field member => ?_⟩
  obtain ⟨represents, filed⟩ := Coordinator.of_search_ok tables answered
  exact Coordinator.leadsBack_of_represents represents (filed returned)
    (each document (filed returned)) member

/-- After a light and a heavy document have been filed, a search without a query returns both. -/
theorem search_lightAndHeavy {last : Chronicle}
    (done : Chronicle.run Session.fileSettings none ⟨Session.newDepot, [], []⟩ lightAndHeavy =
      .ok last) :
    last.coordinator.index.Represents (.after lightAndHeavyFiled) ∧
      ∃ page, last.coordinator.search "d" none none = .ok page ∧
        page.content = (Catalogue.after lightAndHeavyFiled).documents := by
  obtain ⟨represents, noOutages, firstPage⟩ :
      last.coordinator.index.Represents (.after lightAndHeavyFiled) ∧
        last.coordinator.outages = [] ∧
        last.coordinator.firstPage = ⟨0, 20, none, by decide⟩ := by
    cases done
    exact ⟨Connection.represents_after lightAndHeavyFiled, rfl, rfl⟩
  have calm (name : Text) : last.coordinator.outages.failure? .search (some name) = none := by
    rw [noOutages, Outages.failure?_nil]
  have answered : last.coordinator.search "d" none (some ⟨0, 20, none, by decide⟩) =
      .ok (Page.slice ((Catalogue.after lightAndHeavyFiled).matching "d" none)
        ⟨0, 20, none, by decide⟩) :=
    Coordinator.search_of_represents represents calm rfl rfl rfl rfl rfl
      (PageRequest.rows_le_of_size (show 20 ≤ parameterLimit by decide) _)
  have onFirstPage : last.coordinator.search "d" none none =
      last.coordinator.search "d" none (some ⟨0, 20, none, by decide⟩) := by
    rw [Coordinator.search, Coordinator.search, Option.getD_none, firstPage]
    rfl
  exact ⟨represents, _, onFirstPage.trans answered, rfl⟩

/-- Both fields of a light and a heavy document lead back to their documents. -/
theorem run_leadsBack_lightAndHeavy :
    (Coordinator.openDepot Session.emptyWorld Session.fileSettings none).1 =
        .ok Session.newDepot ∧
      (∀ names, names ≠ [] →
        Session.newDepot.blobs.tree.at? (["data", "blobs"] ++ names) = none) ∧
      ∃ last page,
        Chronicle.run Session.fileSettings none ⟨Session.newDepot, [], []⟩ lightAndHeavy =
          .ok last ∧
        last.coordinator.search "d" none none = .ok page ∧
        page.content.map Metadata.fields = [[light], [heavy]] ∧
        ∀ document ∈ page.content, ∀ field ∈ document.fields,
          last.coordinator.LeadsBack document field := by
  have opened : (Coordinator.openDepot Session.emptyWorld Session.fileSettings none).1 =
      .ok Session.newDepot := rfl
  obtain ⟨-, last, done, leadsBack⟩ :=
    run_leadsBack opened rfl rfl Session.at?_newDepot lightAndHeavy
  obtain ⟨-, page, answered, content⟩ := search_lightAndHeavy done
  refine ⟨opened, Session.at?_newDepot, last, page, done, answered, ?_,
    leadsBack "d" none none page answered⟩
  rw [content]
  rfl

/-- A number, and half of a surrogate pair, which no document can hold. -/
def threeOrHalf : List Datum := [.integer 3, .text ⟨[.ofCode 0xD800]⟩]

/-- A choice of accepted values does not find a document that has one of them when the text of
another cannot be encoded. -/
theorem not_leadsBack_half :
    ∃ last page,
      Chronicle.run Session.fileSettings none ⟨Session.newDepot, [], []⟩ lightAndHeavy = .ok last ∧
      last.coordinator.search "d" none none = .ok page ∧
      ∃ document ∈ page.content, document.fields = [light] ∧
        light.value.toDatum ∈ threeOrHalf ∧
        (∀ value ∈ threeOrHalf,
          ∃ clause, Clause.ofQuery (.equals (.text light.name) value) = .ok clause) ∧
        ¬ last.coordinator.FindsBy document (.among (.text light.name) threeOrHalf) := by
  have done : Chronicle.run Session.fileSettings none ⟨Session.newDepot, [], []⟩ lightAndHeavy =
      .ok _ := rfl
  obtain ⟨represents, page, answered, content⟩ := search_lightAndHeavy done
  have accepted : ∀ value ∈ threeOrHalf,
      ∃ clause, Clause.ofQuery (.equals (.text light.name) value) = .ok clause :=
    List.forall_mem_cons.mpr ⟨⟨_, rfl⟩, List.forall_mem_singleton.mpr ⟨_, rfl⟩⟩
  have first : (⟨"d", "x", "h", none, [light]⟩ : Metadata) ∈
      (Catalogue.after lightAndHeavyFiled).documents := List.mem_cons_self
  refine ⟨_, page, done, answered, _, content ▸ first, rfl, List.mem_cons_self, accepted,
    fun finds => ?_⟩
  obtain ⟨selection, translated⟩ := Query.exists_translate_leaf
    (Query.exists_ofQuery_among light accepted)
  have encodable := ((Coordinator.findsBy_iff represents first translated (by decide)).1.mp finds).2
  revert encodable
  decide

end Chronicle

end Depot
