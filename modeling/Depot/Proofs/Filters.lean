import Depot.Command.Argument
import Depot.Proofs.Collecting
import Depot.Proofs.SearchPromise

/-!
# Filters of a command

A search command is given equality filters, names of fields that have to be present and a query,
and searches for one query in place of them. The equality filters are collected by name, so of
several filters on one field only the last one is in force. Documents have at most one value in a
field: the earlier filters may be left out exactly as long as they agree with the last one, and
otherwise no document passes them all.
-/

namespace Depot

namespace Datum

/-- What values have in common that agree; values that agree with nothing have no mark. -/
def mark? : Datum → Option (Bool ⊕ Text ⊕ ExtendedRational)
  | boolean value => some (.inl value)
  | text value => some (.inr (.inl value))
  | other => other.point?.map fun point => .inr (.inr point)

/-- Values agree when they have the same mark. -/
theorem agrees_iff (left right : Datum) :
    left.agrees right = true ↔ ∃ mark, left.mark? = some mark ∧ right.mark? = some mark := by
  have points (left right : Datum) :
      testPoints (fun leftPoint rightPoint => leftPoint == rightPoint) left right = true ↔
        ∃ point, left.point? = some point ∧ right.point? = some point := by
    rw [testPoints]
    cases left.point? with
    | none => simp
    | some leftPoint =>
      cases right.point? with
      | none => simp
      | some rightPoint => simpa using eq_comm
  cases left <;> cases right <;> simp [agrees, mark?, points, point?] <;> exact eq_comm

/-- Values that agree with one value agree with each other. -/
theorem agrees_of_common {common left right : Datum} (toLeft : common.agrees left = true)
    (toRight : common.agrees right = true) : left.agrees right = true := by
  rw [agrees_iff] at toLeft toRight ⊢
  obtain ⟨mark, ofCommon, ofLeft⟩ := toLeft
  obtain ⟨other, ofCommonToo, ofRight⟩ := toRight
  obtain rfl := Option.some.inj (ofCommon.symm.trans ofCommonToo)
  exact ⟨mark, ofLeft, ofRight⟩

/-- Agreeing goes both ways. -/
theorem agrees_comm (left right : Datum) : left.agrees right = right.agrees left := by
  rw [Bool.eq_iff_iff, agrees_iff, agrees_iff]
  exact exists_congr fun mark => and_comm

end Datum

namespace Catalogue

/-- A call keeps to fields that can be filed. -/
theorem areFileable_perform {catalogue : Catalogue}
    (each : ∀ document ∈ catalogue.documents, Field.areFileable document.fields = true)
    (call : IndexCall) :
    ∀ document ∈ (catalogue.perform call).documents,
      Field.areFileable document.fields = true := by
  intro document member
  cases call with
  | createIndex indexName =>
    rw [perform, documents_addIndex] at member
    exact each document member
  | upsert indexName documentId contentHash contentType fields =>
    rw [perform] at member
    split at member
    · rename_i fileable
      rw [file, place] at member
      split at member
      · obtain ⟨present, presentMember, rfl⟩ := List.mem_map.mp member
        split
        · exact fileable
        · exact each present presentMember
      · rcases List.mem_append.mp member with old | new
        · exact each document old
        · rw [List.mem_singleton.mp new]
          exact fileable
    · exact each document member

/-- After any calls the documents have only fields that can be filed. -/
theorem areFileable_after (calls : List IndexCall) :
    ∀ document ∈ (after calls).documents, Field.areFileable document.fields = true := by
  induction calls using List.reverseRecOn with
  | nil => exact nofun
  | append_singleton earlier call inductionHypothesis =>
    rw [after, List.foldl_append]
    exact areFileable_perform inductionHypothesis call

end Catalogue

/-- Results that belong to the arguments one by one are computed one after the other. -/
theorem mapM_of_forall₂ {ε α β : Type} {compute : α → Except ε β} {arguments : List α}
    {results : List β}
    (each : List.Forall₂ (fun argument result => compute argument = .ok result) arguments results) :
    arguments.mapM compute = .ok results := by
  induction each with
  | nil => rfl
  | cons first later inductionHypothesis =>
    rw [List.mapM_cons, first, inductionHypothesis]
    rfl

/-- A document with distinct field names has at most one value under a name. -/
theorem Metadata.eq_of_mem_valuesOf {document : Metadata}
    (distinct : (document.fields.map Field.name).Nodup) {name : Text} {left right : Datum}
    (leftMember : left ∈ document.valuesOf name) (rightMember : right ∈ document.valuesOf name) :
    left = right := by
  rw [valuesOf] at leftMember rightMember
  split at leftMember
  · rw [if_pos ‹_›] at rightMember
    exact (List.mem_singleton.mp leftMember).trans (List.mem_singleton.mp rightMember).symm
  · rw [if_neg ‹_›] at rightMember
    simp only [List.mem_map, List.mem_filter, decide_eq_true_eq] at leftMember rightMember
    obtain ⟨leftField, ⟨leftInside, leftNamed⟩, rfl⟩ := leftMember
    obtain ⟨rightField, ⟨rightInside, rightNamed⟩, rfl⟩ := rightMember
    rw [List.inj_on_of_nodup_map distinct leftInside rightInside
      (leftNamed.trans rightNamed.symm)]

namespace Query

/-- An equality is true of a document that has an agreeing value. -/
theorem holds_equals (document : Metadata) (name : Text) (value : Datum) :
    (equals (.text name) value).holds document = true ↔
      ∃ held ∈ document.valuesOf name, held.agrees value = true := by
  change (document.valuesOf name).any (fun held => held.agrees value) = true ↔ _
  rw [List.any_eq_true]

/-- A document of which two equalities on one field are true shows that they agree. -/
theorem agrees_of_holds {document : Metadata}
    (distinct : (document.fields.map Field.name).Nodup) {name : Text} {left right : Datum}
    (leftHolds : (equals (.text name) left).holds document = true)
    (rightHolds : (equals (.text name) right).holds document = true) :
    left.agrees right = true := by
  rw [holds_equals] at leftHolds rightHolds
  obtain ⟨held, heldMember, toLeft⟩ := leftHolds
  obtain ⟨other, otherMember, toRight⟩ := rightHolds
  rw [document.eq_of_mem_valuesOf distinct otherMember heldMember] at toRight
  exact Datum.agrees_of_common toLeft toRight

/-- An equality is as true as one with an agreeing value. -/
theorem holds_equals_of_agrees {document : Metadata} {name : Text} {left right : Datum}
    (agree : left.agrees right = true) (holds : (equals (.text name) left).holds document = true) :
    (equals (.text name) right).holds document = true := by
  rw [holds_equals] at holds ⊢
  obtain ⟨held, member, toLeft⟩ := holds
  rw [Datum.agrees_comm] at toLeft
  exact ⟨held, member, Datum.agrees_of_common toLeft agree⟩

/-- One query in place of several: none for none, and the conjunction of more than one. -/
def combine : List Query → Option Query
  | [] => none
  | [only] => some only
  | several => some (composite .all several)

/-- The one query is true where all of them are. -/
theorem holds_combine (queries : List Query) (document : Metadata) :
    (combine queries).all (fun query => query.holds document) =
      queries.all fun query => query.holds document := by
  match queries with
  | [] => rfl
  | [only] => simp [combine]
  | first :: second :: rest => exact holdsAll_eq_all document (first :: second :: rest)

/-- The one query makes a selection when all of them are accepted. -/
theorem ofQuery_combine {queries : List Query}
    (accepted : ∀ query ∈ queries, ∃ clause, Clause.ofQuery query = .ok clause) :
    ∃ selection, Selection.ofQuery (combine queries) none = .ok selection := by
  match queries with
  | [] => exact ⟨_, rfl⟩
  | [only] =>
    obtain ⟨clause, judged⟩ := accepted only (List.mem_singleton_self _)
    rw [combine, Selection.ofQuery, judged]
    exact ⟨_, rfl⟩
  | first :: second :: rest =>
    have : Nonempty Clause := ⟨.everything⟩
    choose! clause judged using accepted
    have conjoined : Clause.ofQuery (composite .all (first :: second :: rest)) =
        .ok (Clause.balanced .conjunction ((first :: second :: rest).map clause)) := by
      rw [composite, Clause.ofQuery, Clause.ofQueries_eq_mapM, mapM_of_forall_ok judged]
      rfl
    have combined : combine (first :: second :: rest) =
        some (composite .all (first :: second :: rest)) := rfl
    rw [combined, Selection.ofQuery, conjoined]
    exact ⟨_, rfl⟩

end Query

namespace Command

/-- An argument gives a name a value: the name stands before the first equals sign and is not
empty, and the text behind the sign stands for the value. -/
def GivesPair (given : Text) (pair : Text × Datum) : Prop :=
  ∃ text : Text, given.symbols = pair.1.symbols ++ pairSign :: text.symbols ∧
    pair.1.symbols ≠ [] ∧ pairSign ∉ pair.1.symbols ∧ readValue text = .ok pair.2

/-- An argument is split at its first equals sign when something stands before the sign. -/
theorem splitPair?_eq_some_iff (given name text : Text) :
    splitPair? given = some (name, text) ↔
      given.symbols = name.symbols ++ pairSign :: text.symbols ∧ name.symbols ≠ [] ∧
        pairSign ∉ name.symbols := by
  constructor
  · intro parted
    rw [splitPair?] at parted
    have whole : given.symbols.takeWhile (· ≠ pairSign) ++
        given.symbols.dropWhile (· ≠ pairSign) = given.symbols := List.takeWhile_append_dropWhile
    cases behind : given.symbols.dropWhile (· ≠ pairSign) with
    | nil => rw [behind] at parted; cases parted
    | cons sign value =>
      have isSign : sign = pairSign := by
        have stops := List.head?_dropWhile_not (· ≠ pairSign) given.symbols
        rw [behind] at stops
        simpa using stops
      rw [behind] at parted whole
      simp only at parted
      split at parted
      · cases parted
      · rename_i notEmpty
        cases parted
        rw [isSign] at whole
        refine ⟨whole.symm, by simpa using notEmpty, fun member => ?_⟩
        simpa using List.mem_takeWhile_imp member
  · rintro ⟨isGiven, notEmpty, free⟩
    have passed : ∀ symbol ∈ name.symbols, decide (symbol ≠ pairSign) = true := by
      intro symbol member
      exact decide_eq_true fun isSign => free (isSign ▸ member)
    rw [splitPair?, isGiven, List.takeWhile_append_of_pos passed,
      List.dropWhile_append_of_pos passed]
    simp [notEmpty]

/-- The pair that one argument gives. -/
def readPair (option : String) (argument : Text) : Except CommandError (Text × Datum) :=
  match splitPair? argument with
  | none => .error (.argument ⟨"Expected NAME=VALUE, got " ++ Text.quoted argument, option⟩)
  | some (name, text) =>
    match readValue text with
    | .error failure => .error (.failure failure)
    | .ok value => .ok (name, value)

/-- Arguments are read one by one, and their pairs are collected by name. -/
theorem readPairs_eq (option : String) (given : List Text) :
    readPairs option given = (given.mapM (readPair option)).map collectEntries := by
  change (given.mapM (readPair option) >>= fun entries => .ok (collectEntries entries)) = _
  cases given.mapM (readPair option) <;> rfl

/-- An argument is read when it gives a name a value. -/
theorem readPair_eq_ok_iff (option : String) (argument : Text) (pair : Text × Datum) :
    readPair option argument = .ok pair ↔ GivesPair argument pair := by
  rw [readPair]
  constructor
  · intro read
    split at read
    · cases read
    · rename_i name text parted
      split at read
      · cases read
      · rename_i value isRead
        cases read
        obtain ⟨whole, notEmpty, free⟩ := (splitPair?_eq_some_iff _ _ _).mp parted
        exact ⟨text, whole, notEmpty, free, isRead⟩
  · rintro ⟨text, whole, notEmpty, free, isRead⟩
    rw [(splitPair?_eq_some_iff _ _ _).mpr ⟨whole, notEmpty, free⟩]
    simp [isRead]

/-- Arguments are read when each gives a name a value. -/
theorem readPairs_eq_ok_iff (option : String) (given : List Text)
    (collected : List (Text × Datum)) :
    readPairs option given = .ok collected ↔
      ∃ pairs, List.Forall₂ GivesPair given pairs ∧ collected = collectEntries pairs := by
  rw [readPairs_eq]
  constructor
  · intro read
    cases done : given.mapM (readPair option) with
    | error error => rw [done] at read; cases read
    | ok pairs =>
      rw [done] at read
      cases read
      exact ⟨pairs, (forall₂_of_mapM done).imp fun argument pair =>
        (readPair_eq_ok_iff option argument pair).mp, rfl⟩
  · rintro ⟨pairs, each, rfl⟩
    rw [mapM_of_forall₂ (each.imp fun argument pair =>
      (readPair_eq_ok_iff option argument pair).mpr)]
    rfl

/-- A text asks for the query that it is the document of. -/
def Asks (text : Text) (query : Query) : Prop :=
  ∃ document, Json.read text = .ok document ∧ Query.read document = .ok query

/-- A query document is read when it asks for one query or is empty. -/
theorem readDocument_eq_ok_iff (given : Option Text) (queries : List Query) :
    readDocument given = .ok queries ↔
      ∃ asked : Option Query, Option.Rel Asks (given.filter (!·.isEmpty)) asked ∧
        queries = asked.toList := by
  cases given with
  | none =>
    constructor
    · rintro ⟨rfl⟩
      exact ⟨none, .none, rfl⟩
    · rintro ⟨asked, nothing, rfl⟩
      cases nothing
      rfl
  | some text =>
    rw [readDocument, Option.filter_some]
    by_cases empty : text.isEmpty = true
    · rw [if_pos empty, if_neg (by simpa using empty)]
      constructor
      · rintro ⟨rfl⟩
        exact ⟨none, .none, rfl⟩
      · rintro ⟨asked, nothing, rfl⟩
        cases nothing
        rfl
    · rw [if_neg empty, if_pos (by simpa using empty)]
      constructor
      · intro read
        split at read
        · cases read
        · cases read
        · rename_i document isRead
          split at read
          · cases read
          · rename_i query isQuery
            cases read
            exact ⟨some query, .some ⟨document, isRead, isQuery⟩, rfl⟩
      · rintro ⟨asked, asks, rfl⟩
        cases asks with
        | some asks =>
          obtain ⟨document, isRead, isQuery⟩ := asks
          simp [isRead, isQuery]

/-- What a search command is told to filter by: values of fields, fields that have to be present,
and a query. -/
structure Filters where
  pairs : List (Text × Datum)
  present : List Text
  asked : Option Query

namespace Filters

/-- Filters are those of the arguments of a command: each argument gives one, and an empty query
document gives none. -/
structure AreGiven (filters : Filters) (equalities present : List Text)
    (document : Option Text) : Prop where
  pairs : List.Forall₂ GivesPair equalities filters.pairs
  present : filters.present = present
  asked : Option.Rel Asks (document.filter (!·.isEmpty)) filters.asked

/-- Every filter as a query. -/
def queries (filters : Filters) : List Query :=
  filters.pairs.map (fun pair => Query.equals (.text pair.1) pair.2) ++
    filters.present.map (fun name => Query.present (.text name)) ++ filters.asked.toList

/-- The filters without the equality filters that a later one on the same field replaces. -/
def inForce (filters : Filters) : Filters :=
  { filters with pairs := collectEntries filters.pairs }

/-- Equality filters on one field agree with each other. -/
def AreConsistent (filters : Filters) : Prop :=
  filters.pairs.Pairwise fun earlier later =>
    earlier.1 = later.1 → earlier.2.agrees later.2 = true

/-- Whether a document passes all filters. -/
def passes (filters : Filters) (document : Metadata) : Bool :=
  filters.queries.all fun query => query.holds document

/-- The documents of an index that pass all filters. -/
def passing (filters : Filters) (catalogue : Catalogue) (indexName : String) : List Metadata :=
  (catalogue.inIndex indexName).filter filters.passes

/-- A command has a query when filters are given, which is the one in place of those in force. -/
theorem readQuery_eq_ok_iff (equalities present : List Text) (document : Option Text)
    (query : Option Query) :
    readQuery equalities present document = .ok query ↔
      ∃ filters : Filters, filters.AreGiven equalities present document ∧
        query = Query.combine filters.inForce.queries := by
  have combined (queries : List Query) :
      (match queries with
        | [] => .ok none
        | [only] => .ok (some only)
        | several => .ok (some (Query.composite .all several))) =
        (.ok (Query.combine queries) : Except CommandError (Option Query)) := by
    rcases queries with _ | ⟨first, _ | ⟨second, rest⟩⟩ <;> rfl
  constructor
  · intro read
    rw [readQuery] at read
    cases pairsRead : readPairs "--eq" equalities with
    | error error => rw [pairsRead] at read; cases read
    | ok collected =>
      cases documentRead : readDocument document with
      | error error => rw [pairsRead, documentRead] at read; cases read
      | ok queries =>
        rw [pairsRead, documentRead] at read
        obtain ⟨pairs, given, rfl⟩ := (readPairs_eq_ok_iff _ _ _).mp pairsRead
        obtain ⟨asked, asks, rfl⟩ := (readDocument_eq_ok_iff _ _).mp documentRead
        have same := (combined (inForce ⟨pairs, present, asked⟩).queries).symm.trans read
        exact ⟨⟨pairs, present, asked⟩, ⟨given, rfl, asks⟩, (Except.ok.inj same).symm⟩
  · rintro ⟨filters, ⟨given, rfl, asks⟩, rfl⟩
    have pairsRead := (readPairs_eq_ok_iff "--eq" _ _).mpr ⟨filters.pairs, given, rfl⟩
    have documentRead := (readDocument_eq_ok_iff _ _).mpr ⟨filters.asked, asks, rfl⟩
    rw [readQuery, pairsRead, documentRead]
    exact combined filters.inForce.queries

/-- The value that is in force for a field is the one that it was given last. -/
theorem mem_pairs_inForce (filters : Filters) (name : Text) (value : Datum) :
    (name, value) ∈ filters.inForce.pairs ↔ valueOf? name filters.pairs.reverse = some value := by
  rw [inForce, ← valueOf?_eq_some_iff (nodup_collectEntries filters.pairs),
    valueOf?_collectEntries]

/-- A pair in force is one of the pairs. -/
theorem mem_of_mem_inForce {filters : Filters} {pair : Text × Datum}
    (member : pair ∈ filters.inForce.pairs) : pair ∈ filters.pairs := by
  have last := (filters.mem_pairs_inForce pair.1 pair.2).mp member
  exact List.mem_reverse.mp (mem_of_valueOf? last)

/-- The filters in force are among the filters. -/
theorem queries_inForce_subset (filters : Filters) :
    filters.inForce.queries ⊆ filters.queries := by
  intro query member
  rw [queries, List.append_assoc, List.mem_append] at member ⊢
  refine member.imp_left fun ofPair => ?_
  obtain ⟨pair, inForce, isQuery⟩ := List.mem_map.mp ofPair
  exact List.mem_map.mpr ⟨pair, mem_of_mem_inForce inForce, isQuery⟩

/-- A document passes the filters when it passes the equality filters, has the fields and fulfils
the query. -/
theorem passes_iff (filters : Filters) (document : Metadata) :
    filters.passes document = true ↔
      (∀ pair ∈ filters.pairs, (Query.equals (.text pair.1) pair.2).holds document = true) ∧
        (∀ name ∈ filters.present, (Query.present (.text name)).holds document = true) ∧
        ∀ query ∈ filters.asked, query.holds document = true := by
  simp only [passes, queries, List.all_eq_true, List.mem_append, List.mem_map, or_imp,
    forall_and, forall_exists_index, and_imp, forall_apply_eq_imp_iff₂, Option.mem_toList,
    Option.mem_def, and_assoc]

/-- A document passes all filters exactly when it passes those in force and the equality filters on
one field agree. -/
theorem passes_iff_inForce (filters : Filters) {document : Metadata}
    (distinct : (document.fields.map Field.name).Nodup) :
    filters.passes document = true ↔
      filters.inForce.passes document = true ∧ filters.AreConsistent := by
  rw [passes_iff, passes_iff]
  constructor
  · rintro ⟨eachPair, rest⟩
    refine ⟨⟨fun pair member => eachPair pair (mem_of_mem_inForce member), rest⟩, ?_⟩
    apply List.pairwise_of_forall_mem_list
    intro earlier earlierMember later laterMember same
    have laterHolds := eachPair later laterMember
    rw [← same] at laterHolds
    exact Query.agrees_of_holds distinct (eachPair earlier earlierMember) laterHolds
  · rintro ⟨⟨eachInForce, rest⟩, consistent⟩
    refine ⟨fun pair member => ?_, rest⟩
    -- from the end, the first value under the name is the one in force
    have reversed := List.pairwise_reverse.mpr consistent
    obtain ⟨value, last, related⟩ :=
      exists_valueOf?_of_pairwise reversed (List.mem_reverse.mpr member)
    have holds := eachInForce (pair.1, value) ((filters.mem_pairs_inForce pair.1 value).mpr last)
    rcases related with rfl | agree
    · exact holds
    · rw [Datum.agrees_comm] at agree
      exact Query.holds_equals_of_agrees (agree rfl) holds

/-- Where the equality filters on one field agree, the documents that pass the filters in force pass
all of them. -/
theorem passing_of_consistent {filters : Filters} (consistent : filters.AreConsistent)
    (calls : List IndexCall) (indexName : String) :
    filters.passing (Catalogue.after calls) indexName =
      filters.inForce.passing (Catalogue.after calls) indexName := by
  apply List.filter_congr
  intro document member
  have fileable := Catalogue.areFileable_after calls document (List.mem_filter.mp member).1
  obtain ⟨-, -, distinct⟩ := (Field.areFileable_iff _).mp fileable
  rw [Bool.eq_iff_iff, filters.passes_iff_inForce distinct]
  exact and_iff_left consistent

/-- No document passes equality filters on one field that do not agree. -/
theorem passing_of_not_consistent {filters : Filters} (conflict : ¬ filters.AreConsistent)
    (calls : List IndexCall) (indexName : String) :
    filters.passing (Catalogue.after calls) indexName = [] := by
  rw [passing, List.filter_eq_nil_iff]
  intro document member passed
  have fileable := Catalogue.areFileable_after calls document (List.mem_filter.mp member).1
  obtain ⟨-, -, distinct⟩ := (Field.areFileable_iff _).mp fileable
  exact conflict ((filters.passes_iff_inForce distinct).mp passed).2

/-- The one query of the filters in force is true of the documents that pass them. -/
theorem matching_combine (filters : Filters) (catalogue : Catalogue) (indexName : String) :
    catalogue.matching indexName (Query.combine filters.queries) =
      filters.passing catalogue indexName := by
  rw [Catalogue.matching, passing]
  congr 1
  funext document
  exact Query.holds_combine filters.queries document

end Filters
end Command

namespace Connection

/-- What a search finds has one length. -/
theorem Finds.length_eq {connection : Connection} {indexName : Text} {selection : Selection}
    {sort : Option SortOrder} {documents others : List Metadata}
    (finds : connection.Finds indexName selection sort documents)
    (findsOthers : connection.Finds indexName selection sort others) :
    documents.length = others.length := by
  obtain ⟨page, answered, total⟩ := finds.counted _ (firstItem_allowed sort _)
  obtain ⟨same, answeredToo, totalToo⟩ := findsOthers.counted _ (firstItem_allowed sort _)
  obtain rfl := Except.ok.inj (answered.symm.trans answeredToo)
  exact_mod_cast total.symm.trans totalToo

/-- A search command has a query exactly when its arguments give filters. After any calls, the
query of accepted filters finds the documents that pass the last equality filter of each field and
all other filters. These are the documents that pass all filters exactly when the equality filters
on one field agree, or there are no such documents. Both are said of filters whose statements can
be prepared and with texts that the index can keep; a search for others is refused. -/
theorem search_readQuery (calls : List IndexCall) (indexName : Text)
    (equalities present : List Text) (document : Option Text) :
    ((∃ query, Command.readQuery equalities present document = .ok query) ↔
      ∃ filters : Command.Filters, filters.AreGiven equalities present document) ∧
    ∀ filters : Command.Filters, filters.AreGiven equalities present document →
      (∀ filter ∈ filters.queries, ∃ clause, Clause.ofQuery filter = .ok clause) →
      ∃ query selection, Command.readQuery equalities present document = .ok query ∧
        Selection.ofQuery query none = .ok selection ∧
        (selection.isPreparable = true ∧ Selection.textsEncodable indexName query none = true →
          (after calls).Finds indexName selection none
            (filters.inForce.passing (Catalogue.after calls) indexName.toStringLossy)) ∧
        ((after calls).Finds indexName selection none
            (filters.passing (Catalogue.after calls) indexName.toStringLossy) ↔
          (selection.isPreparable = true ∧ Selection.textsEncodable indexName query none = true) ∧
            (filters.AreConsistent ∨
              filters.inForce.passing (Catalogue.after calls) indexName.toStringLossy = [])) ∧
        (¬ (selection.isPreparable = true ∧
            Selection.textsEncodable indexName query none = true) →
          ∀ request : PageRequest, request.sort = none →
            (after calls).Refused indexName query selection request) := by
  have represents := represents_after calls
  refine ⟨⟨fun ⟨query, read⟩ => ?_, fun ⟨filters, given⟩ => ?_⟩, fun filters given each => ?_⟩
  · obtain ⟨filters, given, -⟩ := (Command.Filters.readQuery_eq_ok_iff _ _ _ _).mp read
    exact ⟨filters, given⟩
  · exact ⟨_, (Command.Filters.readQuery_eq_ok_iff _ _ _ _).mpr ⟨filters, given, rfl⟩⟩
  · have read := (Command.Filters.readQuery_eq_ok_iff _ _ _ _).mpr ⟨filters, given, rfl⟩
    obtain ⟨selection, accepted⟩ := Query.ofQuery_combine fun filter member =>
      each filter (filters.queries_inForce_subset member)
    have finds : selection.isPreparable = true ∧ Selection.textsEncodable indexName
        (Query.combine filters.inForce.queries) none = true →
          (after calls).Finds indexName selection none
            (filters.inForce.passing (Catalogue.after calls) indexName.toStringLossy) := by
      rintro ⟨preparable, encodable⟩
      rw [← Command.Filters.matching_combine]
      exact represents.finds accepted preparable encodable (Catalogue.listing_perm _ _ _ _)
    refine ⟨_, selection, read, accepted, finds, ⟨fun findsAll => ?_, fun ⟨runs, reason⟩ => ?_⟩, ?_⟩
    · obtain ⟨page, answered, -⟩ := findsAll.counted _ (firstItem_allowed none _)
      have runs := represents.runs_of_ok accepted answered
      refine ⟨runs, or_iff_not_imp_left.mpr fun conflict => ?_⟩
      have sameLength := (finds runs).length_eq findsAll
      rw [Command.Filters.passing_of_not_consistent conflict] at sameLength
      exact List.eq_nil_of_length_eq_zero sameLength
    · have same : filters.passing (Catalogue.after calls) indexName.toStringLossy =
          filters.inForce.passing (Catalogue.after calls) indexName.toStringLossy := by
        by_cases consistent : filters.AreConsistent
        · exact Command.Filters.passing_of_consistent consistent calls _
        · rw [Command.Filters.passing_of_not_consistent consistent,
            reason.resolve_left consistent]
      rw [same]
      exact finds runs
    · rintro unfit request noSort
      rw [← noSort] at accepted unfit
      exact represents.refused accepted unfit

/-- Filters on two fields, one of which is given the same number twice. -/
def numberTwice : Command.Filters :=
  ⟨[("a", .integer 1), ("_id", .text "z"), ("a", .integer 1)], ["a"], none⟩

/-- Filters that give a field the same number twice find the documents that pass them all. -/
theorem search_readQuery_numberTwice :
    ∃ query selection,
      Command.readQuery ["a=1", "_id=z", "a=1"] ["a"] none = .ok query ∧
        Selection.ofQuery query none = .ok selection ∧
        ∃ documents, documents.map Metadata.documentId = ["z"] ∧
          (after mixedOnes).Finds "d" selection none documents := by
  have given : numberTwice.AreGiven ["a=1", "_id=z", "a=1"] ["a"] none :=
    ⟨.cons ⟨"1", by decide, by decide, by decide, rfl⟩
      (.cons ⟨"z", by decide, by decide, by decide, rfl⟩
        (.cons ⟨"1", by decide, by decide, by decide, rfl⟩ .nil)), rfl, .none⟩
  have consistent : numberTwice.AreConsistent := by
    rw [Command.Filters.AreConsistent]
    decide
  have accepted : ∀ filter ∈ numberTwice.queries, ∃ clause, Clause.ofQuery filter = .ok clause :=
    List.forall_mem_cons.mpr ⟨⟨_, rfl⟩, List.forall_mem_cons.mpr ⟨⟨_, rfl⟩,
      List.forall_mem_cons.mpr ⟨⟨_, rfl⟩, List.forall_mem_singleton.mpr ⟨_, rfl⟩⟩⟩⟩
  obtain ⟨query, selection, read, selected, -, finds, -⟩ :=
    (search_readQuery mixedOnes "d" _ _ _).2 numberTwice given accepted
  obtain rfl : some (.composite .all numberTwice.inForce.queries) = query := Except.ok.inj read
  have made : Selection.ofQuery (some (.composite .all numberTwice.inForce.queries)) none =
      .ok _ := rfl
  obtain rfl := Except.ok.inj (made.symm.trans selected)
  refine ⟨_, _, read, selected, _, by decide, finds.mpr ⟨⟨?_, by decide⟩, .inl consistent⟩⟩
  rw [Selection.isPreparable_iff, Selection.pagePlaces]
  simp only [Clause.balanced, List.length_cons, List.length_nil, Nat.reduceAdd, Nat.reduceDiv,
    List.take_succ_cons, List.take_zero, List.drop_succ_cons, List.drop_zero]
  decide

/-- Of two filters on one field that contradict each other the first is left out: documents are
found that do not pass it. -/
theorem not_finds_contradictory :
    ¬ ∀ query selection, Command.readQuery ["a=2", "a=1"] [] none = .ok query →
      Selection.ofQuery query none = .ok selection →
      (after mixedOnes).Finds "d" selection none
        ((Catalogue.after mixedOnes).documents.filter fun document =>
          document.indexName = "d" &&
            ((Query.equals (.text "a") (.integer 2)).holds document &&
              (Query.equals (.text "a") (.integer 1)).holds document)) := by
  intro promise
  let last : Query := .equals (.text "a") (.integer 1)
  have read : Command.readQuery ["a=2", "a=1"] [] none = .ok (some last) := rfl
  have accepted : Selection.ofQuery (some last) none = .ok _ := rfl
  have finds := promise _ _ read accepted
  have encodable : Selection.textsEncodable "d" (some last) none = true := by decide
  have findsLast := (represents_after mixedOnes).finds accepted rfl encodable
    (Catalogue.listing_perm _ _ _ _)
  have sameLength := finds.length_eq findsLast
  revert sameLength
  decide

end Connection
end Depot
