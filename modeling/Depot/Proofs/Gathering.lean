import Depot.Proofs.SearchPromise
import Depot.Proofs.Sessions

/-!
# Searches with payloads

Several fetches may finish in any order. Each result is put down at the position of its document
and read from there, so that the outcome is the one of fetching the payloads one after the other:
the first failure on the page that cannot be passed over, or the documents whose payloads can be
had.
-/

namespace Depot.Coordinator

section

variable {α β : Type} (task : α → Except Failure β)

/-- The results of the tasks that are done at positions, each with its position. -/
def resultsAt (items : List α) (completion : List Nat) : List (Nat × Except Failure β) :=
  completion.filterMap fun position => items[position]?.map fun item => (position, task item)

/-- Reads results in the order of positions, up to the first failure. -/
def readInOrder (done : List (Nat × Except Failure β)) (positions : List Nat) :
    Except Failure (List β) :=
  positions.foldr (fun position later =>
    match valueOf? position done with
    | some (.ok result) => do .ok (result :: (← later))
    | some (.error failure) => .error failure
    | none => later) (.ok [])

/-- Gathering puts results down and reads them in the order of the tasks. -/
theorem gather_eq_readInOrder (completion : List Nat) (items : List α) :
    gather task completion items =
      readInOrder (resultsAt task items completion) (List.range items.length) := rfl

/-- A task that has been done has put its result down at its position. -/
theorem valueOf?_resultsAt {items : List α} {item : α} {position : Nat} {completion : List Nat}
    (present : items[position]? = some item) (done : position ∈ completion) :
    valueOf? position (resultsAt task items completion) = some (task item) := by
  induction completion with
  | nil => cases done
  | cons first rest inductionHypothesis =>
    rw [resultsAt, List.filterMap_cons]
    by_cases same : first = position
    · subst same
      simp [present, valueOf?]
    · have later : position ∈ rest := by
        rcases List.mem_cons.mp done with rfl | later
        · exact absurd rfl same
        · exact later
      have found := inductionHypothesis later
      rw [resultsAt] at found
      cases items[first]? with
      | none => simpa using found
      | some other => simpa [valueOf?, same] using found

/-- Results that have all been put down are read as if the tasks were done one after the other. -/
theorem readInOrder_of_done {done : List (Nat × Except Failure β)} {items : List α} {start : Nat}
    (found : ∀ position item, items[position]? = some item →
      valueOf? (start + position) done = some (task item)) :
    readInOrder done (List.range' start items.length) = items.mapM task := by
  induction items generalizing start with
  | nil => rfl
  | cons item rest inductionHypothesis =>
    have first : valueOf? start done = some (task item) := found 0 item rfl
    have later : readInOrder done (List.range' (start + 1) rest.length) = rest.mapM task := by
      apply inductionHypothesis
      intro position other present
      rw [Nat.add_assoc, Nat.add_comm 1]
      exact found (position + 1) other present
    rw [List.length_cons, List.range'_succ, readInOrder, List.foldr_cons, ← readInOrder, later,
      first, List.mapM_cons]
    cases task item with
    | error failure => rfl
    | ok result =>
      cases rest.mapM task <;> rfl

/-- In whatever order tasks are done, gathering gives what doing them one after the other gives. -/
theorem gather_eq_mapM {completion : List Nat} {items : List α}
    (whole : completion.Perm (List.range items.length)) :
    gather task completion items = items.mapM task := by
  rw [gather_eq_readInOrder, List.range_eq_range']
  apply readInOrder_of_done
  intro position item present
  rw [Nat.zero_add]
  apply valueOf?_resultsAt task present
  obtain ⟨inside, -⟩ := List.getElem?_eq_some_iff.mp present
  exact whole.mem_iff.mpr (List.mem_range.mpr inside)

end

/-- Whether a search with payloads can go on after fetching the payload of a document: it is there,
or is missing or out of reach. -/
def Passes (fetching : Fetching) (document : Metadata) : Prop :=
  ∀ failure, fetching document.contentHash = .error failure → failure.isSkippable = true

/-- A document with its payload, if it can be had. -/
def joined? (fetching : Fetching) (document : Metadata) : Option Retrieved :=
  (fetching document.contentHash).toOption.map fun payload => ⟨some document, payload⟩

/-- What a search with payloads promises of its outcome: a search that fails fails it, so does the
first failure on the page that cannot be passed over, and otherwise it is the page with the
documents whose payloads can be had, each with its own, and with the numbers of the page. -/
structure JoinsPayloads (coordinator : Coordinator) (fetching : Fetching) (indexName : Text)
    (query : Option Query) (request : Option PageRequest)
    (outcome : Except Failure (Page Retrieved)) : Prop where
  refused : ∀ failure, coordinator.search indexName query request = .error failure →
    outcome = .error failure
  stopped : ∀ page before document after failure,
    coordinator.search indexName query request = .ok page →
    page.content = before ++ document :: after → (∀ earlier ∈ before, Passes fetching earlier) →
    fetching document.contentHash = .error failure → failure.isSkippable = false →
    outcome = .error failure
  joined : ∀ page, coordinator.search indexName query request = .ok page →
    (∀ document ∈ page.content, Passes fetching document) →
    outcome = .ok ⟨page.content.filterMap (joined? fetching), page.totalElements,
      page.pageNumber, page.pageSize⟩

section

variable {fetching : Fetching} {document : Metadata}

/-- A payload that is there, missing or out of reach gives its document or nothing. -/
theorem fetchItem_of_passes (passed : Passes fetching document) :
    fetchItem fetching document = .ok (joined? fetching document) := by
  rw [fetchItem, joined?]
  cases fetched : fetching document.contentHash with
  | ok payload => rfl
  | error failure =>
    have skippable := passed failure fetched
    simp only [skippable, if_true]
    rfl

/-- Any other failure is passed on. -/
theorem fetchItem_of_not_skippable {failure : Failure}
    (failed : fetching document.contentHash = .error failure)
    (serious : failure.isSkippable = false) : fetchItem fetching document = .error failure := by
  rw [fetchItem, failed]
  simp only [serious, Bool.false_eq_true, if_false]

/-- Fetching one after the other stops at the first failure that cannot be passed over. -/
theorem mapM_fetchItem_of_stopped {before after : List Metadata} {failure : Failure}
    (passed : ∀ earlier ∈ before, Passes fetching earlier)
    (failed : fetching document.contentHash = .error failure)
    (serious : failure.isSkippable = false) :
    (before ++ document :: after).mapM (fetchItem fetching) = .error failure := by
  have front : before.mapM (fetchItem fetching) = .ok (before.map (joined? fetching)) :=
    mapM_of_forall_ok fun earlier member => fetchItem_of_passes (passed earlier member)
  rw [List.mapM_append, front, List.mapM_cons, fetchItem_of_not_skippable failed serious]
  rfl

end

section

variable (coordinator : Coordinator) (fetching : Fetching) (indexName : Text)
  (query : Option Query) (request : Option PageRequest)

/-- A search whose payloads are fetched one after the other. -/
def searchInTurn : Except Failure (Page Retrieved) := do
  let page ← coordinator.search indexName query request
  .ok (page.withContent ((← page.content.mapM (fetchItem fetching)).filterMap id))

/-- Neither the number of fetches at once nor the order in which they finish makes a difference. -/
theorem searchAndFetchBy_eq_searchInTurn {completion : Nat → List Nat}
    (whole : ∀ count, (completion count).Perm (List.range count)) (wanted : Option Int) :
    coordinator.searchAndFetchBy fetching completion indexName query request wanted =
      coordinator.searchInTurn fetching indexName query request := by
  rw [searchAndFetchBy, searchInTurn]
  cases coordinator.search indexName query request with
  | error failure => rfl
  | ok page =>
    have gathered := gather_eq_mapM (fetchItem fetching) (whole page.content.length)
    simp only [bind, Except.bind, gathered, ite_self]

/-- A search whose payloads are fetched one after the other keeps the promise. -/
theorem joinsPayloads_searchInTurn :
    coordinator.JoinsPayloads fetching indexName query request
      (coordinator.searchInTurn fetching indexName query request) where
  refused := by
    intro failure failed
    rw [searchInTurn, failed]
    rfl
  stopped := by
    intro page before document after failure answered split passed failed serious
    rw [searchInTurn, answered]
    simp only [bind, Except.bind, split, mapM_fetchItem_of_stopped passed failed serious]
  joined := by
    intro page answered passed
    have fetched : page.content.mapM (fetchItem fetching) =
        .ok (page.content.map (joined? fetching)) :=
      mapM_of_forall_ok fun document member => fetchItem_of_passes (passed document member)
    rw [searchInTurn, answered]
    simp only [bind, Except.bind, fetched, List.filterMap_map, Function.id_comp]
    rfl

/-- A search with payloads keeps its promise whatever becomes of each fetch, in whatever order the
fetches finish and however many are wanted at once, and neither the order nor a number of fetches,
that of the settings included, changes the outcome. -/
theorem searchAndFetchBy_joinsPayloads {completion : Nat → List Nat}
    (whole : ∀ count, (completion count).Perm (List.range count)) (wanted : Option Int) :
    coordinator.JoinsPayloads fetching indexName query request
        (coordinator.searchAndFetchBy fetching completion indexName query request wanted) ∧
      ∀ otherCompletion : Nat → List Nat,
        (∀ count, (otherCompletion count).Perm (List.range count)) →
        ∀ (otherWanted : Option Int) (concurrency : Nat) (positive : 0 < concurrency),
          Coordinator.searchAndFetchBy fetching otherCompletion
              { coordinator with fetchConcurrency := concurrency, concurrency_pos := positive }
              indexName query request otherWanted =
            coordinator.searchAndFetchBy fetching completion indexName query request wanted := by
  rw [searchAndFetchBy_eq_searchInTurn _ _ _ _ _ whole]
  refine ⟨coordinator.joinsPayloads_searchInTurn fetching indexName query request, ?_⟩
  intro otherCompletion otherWhole otherWanted concurrency positive
  exact searchAndFetchBy_eq_searchInTurn _ _ _ _ _ otherWhole _

end

/-- Three documents that point at different payloads. -/
def threeFiled : List IndexCall :=
  [.upsert "d" "x" "h" none [], .upsert "d" "y" "k" none [], .upsert "d" "z" "m" none []]

/-- A depot of three documents. -/
def ofThree : Coordinator := { vacant with index := .after threeFiled }

/-- The payload of the second document is missing. -/
def allButSecond : Fetching := fun hash =>
  if hash = "k" then .error (.notFound (.payload (.text hash))) else .ok [0]

/-- Three fetches at once that finish in reverse order give the first and the third document, and
the numbers of all three. -/
theorem searchAndFetchBy_joinsPayloads_reversed :
    (∀ count, (List.range count).reverse.Perm (List.range count)) ∧
      ofThree.searchAndFetchBy allButSecond (fun count => (List.range count).reverse) "d" none
          (some ⟨0, 3, none, by decide⟩) (some 3) =
        .ok ⟨[⟨some ⟨"d", "x", "h", none, []⟩, [0]⟩, ⟨some ⟨"d", "z", "m", none, []⟩, [0]⟩],
          3, 0, 3⟩ := by
  have whole (count : Nat) : (List.range count).reverse.Perm (List.range count) :=
    List.reverse_perm _
  have answered : ofThree.search "d" none (some ⟨0, 3, none, by decide⟩) =
      .ok (Page.slice ((Catalogue.after threeFiled).matching "d" none) ⟨0, 3, none, by decide⟩) :=
    search_of_represents (Connection.represents_after threeFiled) (fun _ => rfl) rfl rfl rfl rfl rfl
      (PageRequest.rows_le_of_size (show 3 ≤ parameterLimit by decide) _)
  have passed : ∀ document ∈ (Catalogue.after threeFiled).matching "d" none,
      Passes allButSecond document := by
    intro document _ failure failed
    rw [allButSecond] at failed
    split at failed
    · cases failed
      rfl
    · cases failed
  have promise := (ofThree.searchAndFetchBy_joinsPayloads allButSecond "d" none
    (some ⟨0, 3, none, by decide⟩) whole (some 3)).1
  exact ⟨whole, promise.joined _ answered passed⟩

end Depot.Coordinator
