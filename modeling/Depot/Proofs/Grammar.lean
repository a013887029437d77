import Depot.Proofs.QueryDocuments

/-!
# The grammar of query documents

Which data are documents of queries, which query is written in a document, and what is wrong with
every other datum are said here by rules, one for each form of a node. Reading keeps to the rules:
it gives the query that is written in a document, and refuses every other datum with the fault of
the first node, from left to right, that has no form.
-/

namespace Depot

namespace Datum

/-- The grammar of query documents. A node has one key, the body of a leaf may hold more entries
than are asked for, and a range may leave out its bounds. -/
inductive IsQueryDocument : Datum → Prop where
  | all {items : List Datum} (each : ∀ item ∈ items, IsQueryDocument item) :
      IsQueryDocument (.record [("and", .sequence items)])
  | any {items : List Datum} (each : ∀ item ∈ items, IsQueryDocument item) :
      IsQueryDocument (.record [("or", .sequence items)])
  | equals {entries : List (Text × Datum)} {field value : Datum}
      (named : entry? "field" entries = some field) (valued : entry? "value" entries = some value) :
      IsQueryDocument (.record [("equals", .record entries)])
  | among {entries : List (Text × Datum)} {field : Datum} {values : List Datum}
      (named : entry? "field" entries = some field)
      (listed : entry? "values" entries = some (.sequence values)) :
      IsQueryDocument (.record [("in", .record entries)])
  | range {entries : List (Text × Datum)} {field : Datum}
      (named : entry? "field" entries = some field) :
      IsQueryDocument (.record [("range", .record entries)])
  | present {entries : List (Text × Datum)} {field : Datum}
      (named : entry? "field" entries = some field) :
      IsQueryDocument (.record [("exists", .record entries)])

/-- The names of the nodes that join other nodes. -/
def IsCompositeName (name : String) : Prop := name = "and" ∨ name = "or"

/-- The names of the nodes that test a field. -/
def IsLeafName (name : String) : Prop :=
  name = "equals" ∨ name = "in" ∨ name = "range" ∨ name = "exists"

/-- The fault of a datum that is no query document: that of its own form, or that of the first of
its items that is no query document. -/
inductive HasFault : Datum → QueryError → Prop where
  | notSingleKey {given : Datum} (formless : ∀ key body, given ≠ .record [(key, body)]) :
      HasFault given (.notSingleKey given)
  | unknownKind {key : Text} {body : Datum}
      (unknown : ∀ name : String, IsCompositeName name ∨ IsLeafName name → key ≠ name) :
      HasFault (.record [(key, body)]) (.unknownKind key)
  | notList {name : String} {body : Datum} (composite : IsCompositeName name)
      (noList : ∀ items, body ≠ .sequence items) :
      HasFault (.record [(name, body)]) (.notList name)
  | item {name : String} {before after : List Datum} {bad : Datum} {error : QueryError}
      (composite : IsCompositeName name) (sound : ∀ item ∈ before, item.IsQueryDocument)
      (fault : HasFault bad error) :
      HasFault (.record [(name, .sequence (before ++ bad :: after))]) error
  | missingField {name : String} {body : Datum} (leaf : IsLeafName name)
      (unnamed : ∀ entries, body = .record entries → entry? "field" entries = none) :
      HasFault (.record [(name, body)]) (.missingField name)
  | missingValue {entries : List (Text × Datum)} {field : Datum}
      (named : entry? "field" entries = some field) (unvalued : entry? "value" entries = none) :
      HasFault (.record [("equals", .record entries)]) .missingValue
  | missingValues {entries : List (Text × Datum)} {field : Datum}
      (named : entry? "field" entries = some field)
      (noList : ∀ values, entry? "values" entries ≠ some (.sequence values)) :
      HasFault (.record [("in", .record entries)]) .missingValues

end Datum

namespace QueryKind

/-- The kinds of nodes that test a field have the names of such nodes. -/
theorem isLeafName_iff (name : String) :
    Datum.IsLeafName name ↔ ∃ kind : QueryKind, kind.isLeaf = true ∧ name = kind.label := by
  constructor
  · rintro (rfl | rfl | rfl | rfl)
    · exact ⟨.equals, rfl, rfl⟩
    · exact ⟨.among, rfl, rfl⟩
    · exact ⟨.range, rfl, rfl⟩
    · exact ⟨.present, rfl, rfl⟩
  · rintro ⟨kind, leaf, rfl⟩
    cases kind <;> simp [Datum.IsLeafName, label, isLeaf] at leaf ⊢

/-- The kinds of nodes that join other nodes have the names of such nodes. -/
theorem isCompositeName_iff (name : String) :
    Datum.IsCompositeName name ↔
      ∃ kind : QueryKind, (kind = .all ∨ kind = .any) ∧ name = kind.label := by
  constructor
  · rintro (rfl | rfl)
    · exact ⟨.all, .inl rfl, rfl⟩
    · exact ⟨.any, .inr rfl, rfl⟩
  · rintro ⟨kind, rfl | rfl, rfl⟩
    · exact .inl rfl
    · exact .inr rfl

/-- The key of a node is the name of the kind that it denotes. -/
theorem eq_label_of_ofLabel? {key : Text} {kind : QueryKind} (known : ofLabel? key = some kind) :
    key = kind.label := by
  have named := List.find?_some known
  exact (beq_iff_eq.mp named).symm

/-- A key that is none of the names of nodes denotes no kind. -/
theorem ofLabel?_eq_none {key : Text} (unknown : ∀ name : String,
    Datum.IsCompositeName name ∨ Datum.IsLeafName name → key ≠ name) : ofLabel? key = none := by
  cases known : ofLabel? key with
  | none => rfl
  | some kind =>
    refine absurd (eq_label_of_ofLabel? known) (unknown kind.label ?_)
    have named := of_ofLabel? known
    cases kind <;> simp [Datum.IsCompositeName, Datum.IsLeafName, label] at named ⊢

/-- Each of the names of nodes denotes a kind. -/
theorem exists_ofLabel? {name : String}
    (isName : Datum.IsCompositeName name ∨ Datum.IsLeafName name) :
    ∃ kind, ofLabel? name = some kind := by
  rcases isName with (rfl | rfl) | (rfl | rfl | rfl | rfl) <;> exact ⟨_, rfl⟩

/-- A kind that is denoted by a name tests a field or joins other nodes. -/
theorem composite_of_ofLabel? {key : Text} {kind : QueryKind} (known : ofLabel? key = some kind)
    (notLeaf : ¬ kind.isLeaf = true) : kind = .all ∨ kind = .any := by
  have named := of_ofLabel? known
  cases kind <;> simp [isLeaf] at notLeaf named ⊢

end QueryKind

namespace Query

mutual

/-- The query that is written in a document: its kinds, fields, values, bounds and children are
those of the document, in order. A bound that is left out is null. -/
inductive IsWrittenIn : Query → Datum → Prop where
  | all {children : List Query} {items : List Datum} (each : AreWrittenIn children items) :
      IsWrittenIn (composite .all children) (.record [("and", .sequence items)])
  | any {children : List Query} {items : List Datum} (each : AreWrittenIn children items) :
      IsWrittenIn (composite .any children) (.record [("or", .sequence items)])
  | equals {entries : List (Text × Datum)} {field value : Datum}
      (named : Datum.entry? "field" entries = some field)
      (valued : Datum.entry? "value" entries = some value) :
      IsWrittenIn (equals field value) (.record [("equals", .record entries)])
  | among {entries : List (Text × Datum)} {field : Datum} {values : List Datum}
      (named : Datum.entry? "field" entries = some field)
      (listed : Datum.entry? "values" entries = some (.sequence values)) :
      IsWrittenIn (among field values) (.record [("in", .record entries)])
  | range {entries : List (Text × Datum)} {field : Datum}
      (named : Datum.entry? "field" entries = some field) :
      IsWrittenIn
        (range field ((Datum.entry? "min" entries).getD .null)
          ((Datum.entry? "max" entries).getD .null))
        (.record [("range", .record entries)])
  | present {entries : List (Text × Datum)} {field : Datum}
      (named : Datum.entry? "field" entries = some field) :
      IsWrittenIn (present field) (.record [("exists", .record entries)])

/-- The queries that are written in documents, one in each. -/
inductive AreWrittenIn : List Query → List Datum → Prop where
  | nil : AreWrittenIn [] []
  | cons {query : Query} {document : Datum} {queries : List Query} {documents : List Datum}
      (first : IsWrittenIn query document) (later : AreWrittenIn queries documents) :
      AreWrittenIn (query :: queries) (document :: documents)

end

mutual

/-- A query that is written in a datum makes it a query document. -/
theorem IsWrittenIn.isQueryDocument {query : Query} {document : Datum} :
    IsWrittenIn query document → document.IsQueryDocument
  | .all each => .all each.areQueryDocuments
  | .any each => .any each.areQueryDocuments
  | .equals named valued => .equals named valued
  | .among named listed => .among named listed
  | .range named => .range named
  | .present named => .present named

/-- Data in which queries are written are query documents. -/
theorem AreWrittenIn.areQueryDocuments {queries : List Query} {documents : List Datum} :
    AreWrittenIn queries documents → ∀ document ∈ documents, document.IsQueryDocument
  | .nil => nofun
  | .cons first later => List.forall_mem_cons.mpr ⟨first.isQueryDocument, later.areQueryDocuments⟩

end

/-- Queries that are written in documents are joined without a complaint: none of them is a plain
value. -/
theorem AreWrittenIn.join_eq {children : List Query} {items : List Datum}
    (each : AreWrittenIn children items) (kind : QueryKind) :
    join kind children = .ok (composite kind children) := by
  have noForeign : foreignChild? children = none := by
    induction children generalizing items with
    | nil => rfl
    | cons child rest inductionHypothesis =>
      cases each with
      | cons first later => cases first <;> exact inductionHypothesis later
  simp [join, noForeign]

/-- A composite is read item by item. -/
theorem ofDatum_composite {kind : QueryKind} (composite : kind = .all ∨ kind = .any)
    (items : List Datum) :
    ofDatum (.record [(kind.label, .sequence items)]) = ofData items >>= join kind := by
  rcases composite with rfl | rfl <;> rfl

/-- A composite without items is refused. -/
theorem ofDatum_of_no_list {kind : QueryKind} (composite : kind = .all ∨ kind = .any) {body : Datum}
    (noList : ∀ items, body ≠ .sequence items) :
    ofDatum (.record [(kind.label, body)]) = .error (.notList kind.label) := by
  cases body with
  | sequence items => exact absurd rfl (noList items)
  | _ => rcases composite with rfl | rfl <;> rfl

/-- A leaf is read from its body. -/
theorem ofDatum_leaf (kind : QueryKind) (isLeaf : kind.isLeaf = true) (body : Datum) :
    ofDatum (.record [(kind.label, body)]) = leafOfBody kind body := by
  cases kind <;> first | rfl | cases isLeaf

/-- A leaf without a field is refused. -/
theorem leafOfBody_of_unnamed (kind : QueryKind) {body : Datum}
    (unnamed : ∀ entries, body = .record entries → Datum.entry? "field" entries = none) :
    leafOfBody kind body = .error (.missingField kind.label) := by
  cases body with
  | record entries => simp [leafOfBody, unnamed entries rfl]
  | _ => rfl

mutual

/-- The query that is written in a document is read from it. -/
theorem IsWrittenIn.ofDatum_eq {query : Query} {document : Datum} :
    IsWrittenIn query document → ofDatum document = .ok query
  | .all each => by
    refine (ofDatum_composite (.inl rfl) _).trans ?_
    rw [each.ofData_eq]
    exact each.join_eq .all
  | .any each => by
    refine (ofDatum_composite (.inr rfl) _).trans ?_
    rw [each.ofData_eq]
    exact each.join_eq .any
  | .equals named valued =>
    (ofDatum_leaf .equals rfl _).trans (by simp [leafOfBody, named, valued])
  | .among named listed =>
    (ofDatum_leaf .among rfl _).trans (by simp [leafOfBody, named, listed])
  | .range named => (ofDatum_leaf .range rfl _).trans (by simp [leafOfBody, named])
  | .present named => (ofDatum_leaf .present rfl _).trans (by simp [leafOfBody, named])

/-- The queries that are written in documents are read from them. -/
theorem AreWrittenIn.ofData_eq {queries : List Query} {documents : List Datum} :
    AreWrittenIn queries documents → ofData documents = .ok queries
  | .nil => rfl
  | .cons first later => by
    rw [ofData, first.ofDatum_eq, later.ofData_eq]
    rfl

end

/-- What reading a datum may answer. -/
def Judges (given : Datum) : Except QueryError Query → Prop
  | .ok query => query.IsWrittenIn given
  | .error error => given.HasFault error

/-- What reading data one after the other may answer: the fault is that of the first one that has
a fault. -/
def JudgesAll (items : List Datum) : Except QueryError (List Query) → Prop
  | .ok queries => AreWrittenIn queries items
  | .error error => ∃ before bad after, items = before ++ bad :: after ∧
      (∀ item ∈ before, item.IsQueryDocument) ∧ bad.HasFault error

/-- A leaf has its fields, or is refused for the first that it misses. -/
theorem judges_leafOfBody {kind : QueryKind} (isLeaf : kind.isLeaf = true) (body : Datum) :
    Judges (.record [(kind.label, body)]) (leafOfBody kind body) := by
  have leafName := (QueryKind.isLeafName_iff kind.label).mpr ⟨kind, isLeaf, rfl⟩
  cases body with
  | record entries =>
    cases named : Datum.entry? "field" entries with
    | none =>
      simp only [leafOfBody, named]
      exact .missingField leafName fun _ same => by cases same; exact named
    | some field =>
      cases kind with
      | equals =>
        cases valued : Datum.entry? "value" entries with
        | none =>
          simp only [leafOfBody, named, valued]
          exact .missingValue named valued
        | some value =>
          simp only [leafOfBody, named, valued]
          exact .equals named valued
      | among =>
        simp only [leafOfBody, named]
        split
        · rename_i values listed
          exact .among named listed
        · rename_i noList
          exact .missingValues named fun values listed => noList values listed
      | range =>
        simp only [leafOfBody, named]
        exact .range named
      | present =>
        simp only [leafOfBody, named]
        exact .present named
      | _ => cases isLeaf
  | _ => exact .missingField leafName fun _ same => nomatch same

/-- A composite has its children, or is refused for the first of its items that has a fault. -/
theorem judges_composite {kind : QueryKind} (composite : kind = .all ∨ kind = .any)
    {items : List Datum} (ofItems : JudgesAll items (ofData items)) :
    Judges (.record [(kind.label, .sequence items)])
      (ofDatum (.record [(kind.label, .sequence items)])) := by
  rw [ofDatum_composite composite]
  cases judged : ofData items with
  | error error =>
    rw [judged] at ofItems
    obtain ⟨before, bad, after, rfl, sound, fault⟩ := ofItems
    exact .item ((QueryKind.isCompositeName_iff _).mpr ⟨kind, composite, rfl⟩) sound fault
  | ok children =>
    rw [judged] at ofItems
    have joined : (Except.ok children >>= join kind) = .ok (Query.composite kind children) :=
      ofItems.join_eq kind
    rw [joined]
    rcases composite with rfl | rfl
    · exact .all ofItems
    · exact .any ofItems

/-- The first fault is that of the first item, or the first of the rest. -/
theorem judgesAll_cons {item : Datum} {rest : List Datum} (ofItem : Judges item (ofDatum item))
    (ofRest : JudgesAll rest (ofData rest)) : JudgesAll (item :: rest) (ofData (item :: rest)) := by
  rw [ofData]
  cases itemRead : ofDatum item with
  | error error =>
    rw [itemRead] at ofItem
    exact ⟨[], item, rest, rfl, nofun, ofItem⟩
  | ok first =>
    rw [itemRead] at ofItem
    cases restRead : ofData rest with
    | error error =>
      rw [restRead] at ofRest
      obtain ⟨before, bad, after, rfl, sound, fault⟩ := ofRest
      exact ⟨item :: before, bad, after, rfl,
        List.forall_mem_cons.mpr ⟨ofItem.isQueryDocument, sound⟩, fault⟩
    | ok others =>
      rw [restRead] at ofRest
      exact .cons ofItem ofRest

/-- Reading answers with what is written, or with the fault that there is. -/
theorem judges_ofDatum (given : Datum) : Judges given (ofDatum given) := by
  -- The induction is the reader's own: over a datum, and over the items of a composite.
  refine ofDatum.induct (fun given => Judges given (ofDatum given))
    (fun items => JudgesAll items (ofData items))
    ?unknownKind ?leaf ?composite ?noList ?noNode ?nil ?cons given
  case unknownKind =>
    intro key body unknown
    rw [ofDatum, unknown]
    refine .unknownKind fun name isName same => ?_
    obtain ⟨kind, known⟩ := QueryKind.exists_ofLabel? isName
    simp [same, known] at unknown
  case leaf =>
    intro key body kind known isLeaf
    obtain rfl := QueryKind.eq_label_of_ofLabel? known
    rw [ofDatum_leaf kind isLeaf]
    exact judges_leafOfBody isLeaf body
  case composite =>
    intro key kind known notLeaf items ofItems
    obtain rfl := QueryKind.eq_label_of_ofLabel? known
    exact judges_composite (QueryKind.composite_of_ofLabel? known notLeaf) ofItems
  case noList =>
    intro key body kind known notLeaf noSequence
    obtain rfl := QueryKind.eq_label_of_ofLabel? known
    have composite := QueryKind.composite_of_ofLabel? known notLeaf
    rw [ofDatum_of_no_list composite noSequence]
    exact .notList ((QueryKind.isCompositeName_iff _).mpr ⟨kind, composite, rfl⟩) noSequence
  case noNode =>
    intro other noNode
    rw [ofDatum]
    · exact .notSingleKey noNode
    · exact noNode
  case nil => exact .nil
  case cons =>
    intro item rest ofItem ofRest
    exact judgesAll_cons ofItem ofRest

/-- A query can be read from every query document. -/
theorem exists_of_isQueryDocument {given : Datum} (document : given.IsQueryDocument) :
    ∃ query, IsWrittenIn query given := by
  have allWritten {items : List Datum} (each : ∀ item ∈ items, ∃ query, IsWrittenIn query item) :
      ∃ queries, AreWrittenIn queries items := by
    induction items with
    | nil => exact ⟨[], .nil⟩
    | cons item rest inductionHypothesis =>
      rw [List.forall_mem_cons] at each
      obtain ⟨⟨query, first⟩, others⟩ := each
      obtain ⟨queries, later⟩ := inductionHypothesis others
      exact ⟨query :: queries, .cons first later⟩
  induction document with
  | all _ inductionHypothesis =>
    obtain ⟨children, each⟩ := allWritten inductionHypothesis
    exact ⟨_, .all each⟩
  | any _ inductionHypothesis =>
    obtain ⟨children, each⟩ := allWritten inductionHypothesis
    exact ⟨_, .any each⟩
  | equals named valued => exact ⟨_, .equals named valued⟩
  | among named listed => exact ⟨_, .among named listed⟩
  | range named => exact ⟨_, .range named⟩
  | present named => exact ⟨_, .present named⟩

/-- The first fault among data is reported. -/
theorem ofData_of_fault {before : List Datum} (sound : ∀ item ∈ before, item.IsQueryDocument)
    {bad : Datum} {error : QueryError} (refused : ofDatum bad = .error error) (after : List Datum) :
    ofData (before ++ bad :: after) = .error error := by
  induction before with
  | nil =>
    rw [List.nil_append, ofData, refused]
    rfl
  | cons item rest inductionHypothesis =>
    rw [List.forall_mem_cons] at sound
    obtain ⟨query, written⟩ := exists_of_isQueryDocument sound.1
    rw [List.cons_append, ofData, written.ofDatum_eq, inductionHypothesis sound.2]
    rfl

/-- A datum with a fault is refused for it. -/
theorem ofDatum_of_hasFault {given : Datum} {error : QueryError} (fault : given.HasFault error) :
    ofDatum given = .error error := by
  induction fault with
  | notSingleKey formless =>
    rw [ofDatum]
    exact formless
  | unknownKind unknown => rw [ofDatum, QueryKind.ofLabel?_eq_none unknown]
  | notList composite noList =>
    obtain ⟨kind, isComposite, rfl⟩ := (QueryKind.isCompositeName_iff _).mp composite
    exact ofDatum_of_no_list isComposite noList
  | item composite sound _ inductionHypothesis =>
    obtain ⟨kind, isComposite, rfl⟩ := (QueryKind.isCompositeName_iff _).mp composite
    rw [ofDatum_composite isComposite, ofData_of_fault sound inductionHypothesis]
    rfl
  | missingField leaf unnamed =>
    obtain ⟨kind, isLeaf, rfl⟩ := (QueryKind.isLeafName_iff _).mp leaf
    rw [ofDatum_leaf kind isLeaf, leafOfBody_of_unnamed kind unnamed]
  | missingValue named unvalued =>
    exact (ofDatum_leaf .equals rfl _).trans (by simp [leafOfBody, named, unvalued])
  | missingValues named noList =>
    exact (ofDatum_leaf .among rfl _).trans (by simp [leafOfBody, named])

/-- Reading keeps to the grammar: a datum is read exactly when it is a query document, as the one
query that is written in it, and every other datum is refused with a query error, that of the first
node that has no form. -/
theorem ofDatum_keepsToGrammar (given : Datum) :
    ((∃ query, ofDatum given = .ok query) ↔ given.IsQueryDocument) ∧
      (∀ query, ofDatum given = .ok query ↔ query.IsWrittenIn given) ∧
      (¬ given.IsQueryDocument →
        ∃ error, ofDatum given = .error error ∧ given.HasFault error) ∧
      ∀ error, ofDatum given = .error error ↔ given.HasFault error := by
  have reads (query : Query) : ofDatum given = .ok query ↔ query.IsWrittenIn given := by
    refine ⟨fun read => ?_, IsWrittenIn.ofDatum_eq⟩
    simpa [read, Judges] using judges_ofDatum given
  have refuses (error : QueryError) : ofDatum given = .error error ↔ given.HasFault error := by
    refine ⟨fun refused => ?_, ofDatum_of_hasFault⟩
    simpa [refused, Judges] using judges_ofDatum given
  have documents : (∃ query, ofDatum given = .ok query) ↔ given.IsQueryDocument := by
    simp only [reads]
    exact ⟨fun ⟨_, written⟩ => written.isQueryDocument, exists_of_isQueryDocument⟩
  refine ⟨documents, reads, fun noDocument => ?_, refuses⟩
  cases judged : ofDatum given with
  | ok query => exact absurd (documents.mp ⟨query, judged⟩) noDocument
  | error error => exact ⟨error, rfl, (refuses error).mp judged⟩

end Query
end Depot
