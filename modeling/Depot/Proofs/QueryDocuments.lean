import Depot.Proofs.Comparing
import Depot.Proofs.Translating
import Depot.Query.Document

/-!
# Documents of queries

A query that is put together from the builders has a document, and the document is read as that
query: with its fields and values, its bounds and its children in order. Every document that can be
read denotes such a query. So writing down what was read loses nothing, whatever the first document
had besides: it may leave out open bounds and hold entries that nothing asks for. All of it is said
of a stack that takes some levels, and of the queries that have no more.
-/

namespace Depot

namespace QueryKind

/-- A name denotes one of the six kinds that have names. -/
theorem of_ofLabel? {name : Text} {kind : QueryKind} (known : ofLabel? name = some kind)
    (literal typeName : String) : kind ≠ .unknown literal typeName := by
  have listed := List.mem_of_find?_eq_some known
  rintro rfl
  simp at listed

end QueryKind

namespace Query

/-- Queries that are put together from the builders. A query that is joined with others is the
first of the children. -/
inductive Built : Query → Prop where
  | equals (field value : Datum) : Built (equals field value)
  | among (field : Datum) (values : List Datum) : Built (among field values)
  | range (field low high : Datum) : Built (range field low high)
  | present (field : Datum) : Built (present field)
  | matchAll : Built matchAll
  | all {children : List Query} {query : Query} (each : ∀ child ∈ children, Built child)
      (joined : all children = .ok query) : Built query
  | any {children : List Query} {query : Query} (each : ∀ child ∈ children, Built child)
      (joined : any children = .ok query) : Built query

/-- On a stack, a document is that of a query when it is written for the query and read as the
query. -/
def HasDocument (levels : Nat) (query : Query) (document : Datum) : Prop :=
  query.toDatumWithin levels = .ok document ∧ ofDatumWithin levels document = .ok query

/-- What children are joined to is the composite of them. -/
theorem eq_composite_of_join {kind : QueryKind} {children : List Query} {query : Query}
    (joined : join kind children = .ok query) : query = composite kind children := by
  rw [join] at joined
  split at joined <;> cases joined
  rfl

/-- A plain value is not built. -/
theorem not_built_foreign (given : Datum) : ¬ (foreign given).Built := by
  intro built
  generalize isForeign : foreign given = query at built
  cases built with
  | all each joined => cases isForeign.trans (eq_composite_of_join joined)
  | any each joined => cases isForeign.trans (eq_composite_of_join joined)
  | _ => cases isForeign

/-- Queries that are built are joined without a complaint. -/
theorem join_of_built (kind : QueryKind) {children : List Query}
    (each : ∀ child ∈ children, child.Built) :
    join kind children = .ok (composite kind children) := by
  have noForeign : foreignChild? children = none := by
    induction children with
    | nil => rfl
    | cons child rest inductionHypothesis =>
      rw [List.forall_mem_cons] at each
      cases child with
      | foreign given => exact absurd each.1 (not_built_foreign given)
      | node => exact inductionHypothesis each.2
  rw [join, noForeign]

/-- The documents of children are written and read one by one. -/
theorem documents_of_children {levels : Nat} {children : List Query}
    (each : ∀ child ∈ children, ∃ document, child.HasDocument levels document) :
    ∃ documents, toDataWithin levels children = .ok documents ∧
      ofDataWithin levels documents = .ok children := by
  induction children with
  | nil => exact ⟨[], by rw [toDataWithin], by rw [ofDataWithin]⟩
  | cons child rest inductionHypothesis =>
    rw [List.forall_mem_cons] at each
    obtain ⟨⟨document, written, read⟩, ofRest⟩ := each
    obtain ⟨documents, allWritten, allRead⟩ := inductionHypothesis ofRest
    refine ⟨document :: documents, ?_, ?_⟩
    · rw [toDataWithin, written, allWritten]
      rfl
    · rw [ofDataWithin, read, allRead]
      rfl

/-- A composite of children with documents has a document on a stack with one level more. -/
theorem hasDocument_composite {kind : QueryKind} (isComposite : kind = .all ∨ kind = .any)
    {levels : Nat} {children : List Query}
    (each : ∀ child ∈ children, ∃ document, child.HasDocument levels document)
    (joined : join kind children = .ok (composite kind children)) :
    ∃ document, (composite kind children).HasDocument (levels + 1) document := by
  obtain ⟨documents, written, read⟩ := documents_of_children each
  let document : Datum := .record [(kind.label, .sequence documents)]
  have writes : (composite kind children).toDatumWithin (levels + 1) =
      (toDataWithin levels children >>= fun data =>
        .ok (.record [(kind.label, .sequence data)])) := by
    rcases isComposite with rfl | rfl <;> rfl
  have reads : ofDatumWithin (levels + 1) document =
      (ofDataWithin levels documents >>= fun read => (join kind read).mapError .refused) := by
    rcases isComposite with rfl | rfl <;> rfl
  refine ⟨document, ?_, ?_⟩
  · rw [writes, written]
    rfl
  · rw [reads, read]
    show (join kind children).mapError _ = _
    rw [joined]
    rfl

/-- A composite has levels exactly when the stack takes one more than its children have. -/
theorem levels_composite_le {kind : QueryKind} (isComposite : kind = .all ∨ kind = .any)
    {children : List Query} {levels : Nat} (within : (composite kind children).levels ≤ levels) :
    ∃ below, levels = below + 1 ∧ ∀ child ∈ children, child.levels ≤ below := by
  have height : (composite kind children).levels = levelsOf children + 1 := by
    rcases isComposite with rfl | rfl <;> rfl
  rw [height] at within
  refine ⟨levels - 1, by omega, ?_⟩
  rw [← levelsOf_le_iff]
  omega

/-- Every query that is built has a document on a stack that takes its levels. -/
theorem Built.hasDocument {query : Query} (built : query.Built) {levels : Nat}
    (within : query.levels ≤ levels) : ∃ document, query.HasDocument levels document := by
  have above {leaf : Query} (height : leaf.levels = 1) {levels : Nat}
      (within : leaf.levels ≤ levels) : ∃ below, levels = below + 1 :=
    Nat.exists_eq_add_of_le' (height ▸ within)
  induction built generalizing levels with
  | equals field value =>
    obtain ⟨below, rfl⟩ := above rfl within
    exact ⟨_, rfl, rfl⟩
  | among field values =>
    obtain ⟨below, rfl⟩ := above rfl within
    exact ⟨_, rfl, rfl⟩
  | range field low high =>
    obtain ⟨below, rfl⟩ := above rfl within
    exact ⟨_, rfl, rfl⟩
  | present field =>
    obtain ⟨below, rfl⟩ := above rfl within
    exact ⟨_, rfl, rfl⟩
  | matchAll =>
    obtain ⟨below, rfl⟩ := above rfl within
    exact ⟨_, rfl, rfl⟩
  | all each joined inductionHypothesis =>
    obtain rfl := eq_composite_of_join joined
    obtain ⟨below, rfl, childLevels⟩ := levels_composite_le (.inl rfl) within
    exact hasDocument_composite (.inl rfl)
      (fun child member => inductionHypothesis child member (childLevels child member)) joined
  | any each joined inductionHypothesis =>
    obtain rfl := eq_composite_of_join joined
    obtain ⟨below, rfl, childLevels⟩ := levels_composite_le (.inr rfl) within
    exact hasDocument_composite (.inr rfl)
      (fun child member => inductionHypothesis child member (childLevels child member)) joined

/-- The leaf of a body is built and has one level, whatever else the body holds. -/
theorem built_of_leafOfBody {kind : QueryKind} {body : Datum} {query : Query}
    (read : leafOfBody kind body = .ok query) : query.Built ∧ query.levels = 1 := by
  unfold leafOfBody at read
  split at read
  · split at read
    · cases read
    · split at read
      · split at read
        · cases read
        · cases read
          exact ⟨.equals _ _, rfl⟩
      · split at read
        · cases read
          exact ⟨.among _ _, rfl⟩
        · cases read
      · cases read
        exact ⟨.range _ _ _, rfl⟩
      · cases read
        exact ⟨.present _, rfl⟩
  · cases read

/-- Whether a document is one of children of a composite. -/
def OfChildren (given : Datum) (kind : QueryKind) (items : List Datum) : Prop :=
  ∃ key, given = .record [(key, .sequence items)] ∧ QueryKind.ofLabel? key = some kind ∧
    (kind = .all ∨ kind = .any)

/-- A document of anything but children denotes a leaf, which is built. -/
theorem built_of_ofDatum {given : Datum} {query : Query} (read : ofDatum given = .ok query)
    (noChildren : ∀ kind items, ¬ OfChildren given kind items) :
    query.Built ∧ query.levels = 1 := by
  unfold ofDatum at read
  split at read
  · rename_i key body
    split at read
    · cases read
    · rename_i kind known
      split at read
      · exact built_of_leafOfBody read
      · rename_i notLeaf
        split at read
        · rename_i items
          refine absurd ⟨key, rfl, known, ?_⟩ (noChildren kind items)
          cases kind with
          | all => exact .inl rfl
          | any => exact .inr rfl
          | unknown literal typeName => exact absurd rfl (QueryKind.of_ofLabel? known _ _)
          | _ => exact absurd rfl notLeaf
        · cases read
  · cases read

/-- On a stack, a document is one of children, which have one level less, or one of a leaf. -/
theorem ofDatumWithin_cases (levels : Nat) (given : Datum) :
    (∃ kind items, OfChildren given kind items ∧ ofDatumWithin (levels + 1) given =
        (ofDataWithin levels items >>= fun children => (join kind children).mapError .refused)) ∨
      ((∀ kind items, ¬ OfChildren given kind items) ∧
        ofDatumWithin (levels + 1) given = (ofDatum given).mapError .refused) := by
  by_cases children : ∃ kind items, OfChildren given kind items
  · obtain ⟨kind, items, key, rfl, known, composite⟩ := children
    refine .inl ⟨kind, items, ⟨key, rfl, known, composite⟩, ?_⟩
    rw [ofDatumWithin, known]
    rcases composite with rfl | rfl <;> rfl
  · simp only [not_exists] at children
    refine .inr ⟨children, ?_⟩
    unfold ofDatumWithin
    split
    · contradiction
    · rename_i key items same
      split
      · rename_i known
        exact absurd ⟨_, rfl, known, .inl rfl⟩ (children .all items)
      · rename_i known
        exact absurd ⟨_, rfl, known, .inr rfl⟩ (children .any items)
      · rfl
    · rfl

/-- On a stack, lists of documents are read as without one, unless the stack is used up, when their
members are. -/
theorem ofDataWithin_eq_or {levels : Nat}
    (each : ∀ given, ofDatumWithin levels given = .error .exhausted ∨
      ofDatumWithin levels given = (ofDatum given).mapError .refused) (items : List Datum) :
    ofDataWithin levels items = .error .exhausted ∨
      ofDataWithin levels items = (ofData items).mapError .refused := by
  induction items with
  | nil => exact .inr (by rw [ofDataWithin, ofData]; rfl)
  | cons item rest inductionHypothesis =>
    rw [ofDataWithin, ofData]
    rcases each item with first | first <;> rw [first]
    · exact .inl rfl
    · cases ofDatum item with
      | error error => exact .inr rfl
      | ok query =>
        rcases inductionHypothesis with later | later <;> rw [later]
        · exact .inl rfl
        · cases ofData rest <;> exact .inr rfl

/-- On a stack, documents are read as without one, unless the stack is used up. -/
theorem ofDatumWithin_eq_or (levels : Nat) (given : Datum) :
    ofDatumWithin levels given = .error .exhausted ∨
      ofDatumWithin levels given = (ofDatum given).mapError .refused := by
  induction levels generalizing given with
  | zero => exact .inl (by rw [ofDatumWithin])
  | succ levels inductionHypothesis =>
    rcases ofDatumWithin_cases levels given with
      ⟨kind, items, ⟨key, rfl, known, composite⟩, onStack⟩ | ⟨-, alone⟩
    · have notLeaf : kind.isLeaf = false := by rcases composite with rfl | rfl <;> rfl
      rw [onStack, ofDatum, known]
      simp only [notLeaf]
      rcases ofDataWithin_eq_or inductionHypothesis items with children | children <;>
        rw [children]
      · exact .inl rfl
      · cases ofData items <;> exact .inr rfl
    · exact .inr alone

/-- What is read of a list of documents on a stack is read of its members. -/
theorem forall_of_ofDataWithin {levels : Nat} {items : List Datum} {queries : List Query}
    {holds : Query → Prop} (read : ofDataWithin levels items = .ok queries)
    (each : ∀ {given query}, ofDatumWithin levels given = .ok query → holds query) :
    ∀ query ∈ queries, holds query := by
  induction items generalizing queries with
  | nil =>
    rw [ofDataWithin] at read
    cases read
    simp
  | cons item rest inductionHypothesis =>
    rw [ofDataWithin] at read
    cases itemRead : ofDatumWithin levels item with
    | error error => rw [itemRead] at read; cases read
    | ok first =>
      cases restRead : ofDataWithin levels rest with
      | error error => rw [itemRead, restRead] at read; cases read
      | ok others =>
        rw [itemRead, restRead] at read
        cases read
        exact List.forall_mem_cons.mpr ⟨each itemRead, inductionHypothesis restRead⟩

/-- What a document is read as on a stack is built and has no more levels than the stack takes. -/
theorem built_of_ofDatumWithin {levels : Nat} {given : Datum} {query : Query}
    (read : ofDatumWithin levels given = .ok query) : query.Built ∧ query.levels ≤ levels := by
  induction levels generalizing given query with
  | zero =>
    rw [ofDatumWithin] at read
    cases read
  | succ levels inductionHypothesis =>
    rcases ofDatumWithin_cases levels given with
      ⟨kind, items, ⟨-, -, -, composite⟩, onStack⟩ | ⟨noChildren, onStack⟩ <;> rw [onStack] at read
    · cases itemsRead : ofDataWithin levels items with
      | error fault => rw [itemsRead] at read; cases read
      | ok children =>
        rw [itemsRead] at read
        have each := forall_of_ofDataWithin itemsRead inductionHypothesis
        have childLevels := (levelsOf_le_iff children levels).mpr fun child member =>
          (each child member).2
        cases joined : join kind children with
        | error error =>
          simp only [bind, Except.bind, joined] at read
          cases read
        | ok built =>
          simp only [bind, Except.bind, joined] at read
          cases read
          obtain rfl := eq_composite_of_join joined
          rcases composite with rfl | rfl
          · exact ⟨.all (fun child member => (each child member).1) joined,
              Nat.succ_le_succ childLevels⟩
          · exact ⟨.any (fun child member => (each child member).1) joined,
              Nat.succ_le_succ childLevels⟩
    · cases alone : ofDatum given with
      | error error => rw [alone] at read; cases read
      | ok leaf =>
        rw [alone] at read
        cases read
        obtain ⟨built, height⟩ := built_of_ofDatum alone noChildren
        exact ⟨built, by omega⟩

/-- On every stack, queries that are built come back from their documents unchanged, exactly if they
have no more levels than the stack takes. A document that can be read is read like the one that is
written for its query, which is written again for what it is read as and makes the same selection in
every order. While the stack lasts, documents are read as without one. -/
theorem toDatum_restores (levels : Nat) :
    (∀ query : Query, query.Built →
      (query.levels ≤ levels ↔ ∃ document, query.toDatumWithin levels = .ok document ∧
        ofDatumWithin levels document = .ok query)) ∧
    (∀ (given : Datum) (query : Query), ofDatumWithin levels given = .ok query →
      ∃ document, query.toDatumWithin levels = .ok document ∧
        ofDatumWithin levels document = ofDatumWithin levels given ∧
        (∀ again, ofDatumWithin levels document = .ok again →
          again.toDatumWithin levels = .ok document) ∧
        ∀ sort, (ofDatumWithin levels document).map
            (fun read => Selection.translate (some read) sort) =
          (ofDatumWithin levels given).map fun read => Selection.translate (some read) sort) ∧
    ∀ given, ofDatumWithin levels given = .error .exhausted ∨
      ofDatumWithin levels given = (ofDatum given).mapError .refused := by
  refine ⟨fun query built => ⟨built.hasDocument, fun ⟨document, _, read⟩ => ?_⟩,
    fun given query read => ?_, ofDatumWithin_eq_or levels⟩
  · exact (built_of_ofDatumWithin read).2
  · obtain ⟨built, within⟩ := built_of_ofDatumWithin read
    obtain ⟨document, written, readAgain⟩ := built.hasDocument within
    have same : ofDatumWithin levels document = ofDatumWithin levels given :=
      readAgain.trans read.symm
    refine ⟨document, written, same, fun again isAgain => ?_, fun sort => by rw [same]⟩
    rw [readAgain] at isAgain
    cases isAgain
    exact written

/-- Documents with a field in which no upper bound is asked for, all of them or none. -/
def openAbove : Query :=
  .composite .all [.range (.text "a") (.integer 1) .null, .composite .any []]

/-- A document that leaves out a bound and has an entry that nothing asks for. -/
def looseRange : Datum :=
  .record [("range", .record [("max", .integer 2), ("note", .null), ("field", .text "a")])]

/-- An open bound, an empty composite and a document with more and with less than is written are
restored on a stack that takes two levels. -/
theorem toDatum_restores_openBounds :
    (∃ document, openAbove.toDatumWithin 2 = .ok document ∧
        ofDatumWithin 2 document = .ok openAbove) ∧
      ∃ document, (range (.text "a") .null (.integer 2)).toDatumWithin 2 = .ok document ∧
        ofDatumWithin 2 document = ofDatumWithin 2 looseRange := by
  have noChild : ∀ child ∈ ([] : List Query), child.Built := fun _ member => nomatch member
  have children : ∀ child ∈ [range (.text "a") (.integer 1) .null, composite .any []],
      child.Built := by
    intro child member
    rcases List.mem_pair.mp member with rfl | rfl
    · exact .range _ _ _
    · exact .any noChild (join_of_built _ noChild)
  have built : openAbove.Built := .all children (join_of_built _ children)
  obtain ⟨document, written, same, -⟩ := (toDatum_restores 2).2.1 looseRange _ rfl
  exact ⟨((toDatum_restores 2).1 openAbove built).mp (by decide), document, written, same⟩

/-- A nested composite is built. -/
theorem built_nested (depth : Nat) : (nested depth).Built := by
  induction depth with
  | zero => exact .matchAll
  | succ depth inductionHypothesis =>
    have each : ∀ child ∈ [nested depth], child.Built :=
      List.forall_mem_singleton.mpr inductionHypothesis
    exact .all each (join_of_built _ each)

/-- A composite that is nested deeper than the stack of the program takes does not come back from a
document. -/
theorem not_toDatum_restores_nested :
    ¬ ∀ query : Query, query.Built →
      ∃ document, query.toDatumWithin documentLevels = .ok document ∧
        ofDatumWithin documentLevels document = .ok query := by
  intro promise
  obtain ⟨document, -, read⟩ := promise _ (built_nested documentLevels)
  have within := (built_of_ofDatumWithin read).2
  rw [levels_nested] at within
  exact Nat.not_succ_le_self _ within

end Query
end Depot
