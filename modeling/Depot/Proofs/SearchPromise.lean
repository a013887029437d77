import Depot.Proofs.Answering

/-!
# What searches promise

After any calls, an accepted search counts and returns exactly the documents of the index for which
the query is true, and its pages are the slices of one listing. Both promises are kept exactly by
the searches whose texts the index can keep and whose statements the database can prepare, and for
the pages that have no more rows than a statement has places.
-/

namespace Depot

/-- Computations that all succeed give the list of their results. -/
theorem mapM_of_forall_ok {ε α β : Type} {compute : α → Except ε β} {result : α → β}
    {arguments : List α}
    (succeed : ∀ argument ∈ arguments, compute argument = .ok (result argument)) :
    arguments.mapM compute = .ok (arguments.map result) := by
  induction arguments with
  | nil => rfl
  | cons argument rest inductionHypothesis =>
    rw [List.forall_mem_cons] at succeed
    rw [List.mapM_cons, succeed.1, inductionHypothesis succeed.2]
    rfl

/-- A request in an order, with numbers that the index can take, for a page of a listing of some
length that has no more rows than a statement has places. -/
structure PageRequest.Allowed (request : PageRequest) (sort : Option SortOrder) (total : Nat) :
    Prop where
  sort : request.sort = sort
  fits : request.fits = true
  rows : request.rows total ≤ parameterLimit

namespace Connection

/-- The answers to the requests for the first pages of a size. -/
def pages (connection : Connection) (indexName : Text) (selection : Selection)
    (sort : Option SortOrder) {size : Nat} (positive : 0 < size) (count : Nat) :
    Except Failure (List (Page Metadata)) :=
  (List.range count).mapM fun number =>
    connection.search indexName selection ⟨number, size, sort, positive⟩

/-- A page with more rows than a statement has places is refused. -/
def RefusesCrowded (connection : Connection) (indexName : Text) (selection : Selection)
    (sort : Option SortOrder) (total : Nat) : Prop :=
  ∀ request : PageRequest, request.sort = sort → request.fits = true →
    parameterLimit < request.rows total →
    connection.search indexName selection request =
      .error (.indexUnavailable (.cannotSearch indexName .tooManyParameters))

/-- A search finds exactly some documents: every page counts them all, and enough pages return each
of them once. Pages with too many rows are refused. -/
structure Finds (connection : Connection) (indexName : Text) (selection : Selection)
    (sort : Option SortOrder) (documents : List Metadata) : Prop where
  counted : ∀ request : PageRequest, request.Allowed sort documents.length →
    ∃ page, connection.search indexName selection request = .ok page ∧
      page.totalElements = documents.length
  returned : ∀ {size : Nat} (positive : 0 < size) (count : Nat),
    (∀ number < count, PageRequest.Allowed ⟨number, size, sort, positive⟩ sort documents.length) →
    documents.length ≤ count * size →
    ∃ answers, connection.pages indexName selection sort positive count = .ok answers ∧
      (answers.flatMap Page.content).Perm documents
  crowded : connection.RefusesCrowded indexName selection sort documents.length

/-- A search pages through a listing: every page is its slice of the listing and counts the whole
of it, the pages together are the listing, and the numbers of a page say how many pages there are
and whether one comes next. Pages with too many rows are refused. -/
structure PagesThrough (connection : Connection) (indexName : Text) (selection : Selection)
    (sort : Option SortOrder) (listing : List Metadata) : Prop where
  slices : ∀ request : PageRequest, request.Allowed sort listing.length →
    ∃ page, connection.search indexName selection request = .ok page ∧
      page.content = (listing.drop (request.page * request.size)).take request.size ∧
      page.totalElements = listing.length ∧ page.content.length ≤ request.size ∧
      (page.totalPages ≤ request.page → page.content = [])
  whole : ∀ {size : Nat} (positive : 0 < size) (count : Nat) (first : Page Metadata),
    (∀ number < count, PageRequest.Allowed ⟨number, size, sort, positive⟩ sort listing.length) →
    connection.search indexName selection ⟨0, size, sort, positive⟩ = .ok first →
    (count : Int) = first.totalPages →
    ∃ answers, connection.pages indexName selection sort positive count = .ok answers ∧
      answers.flatMap Page.content = listing
  next : ∀ request following : PageRequest, request.Allowed sort listing.length →
    following.Allowed sort listing.length →
    following.page = request.page + 1 → following.size = request.size →
    ∀ page nextPage, connection.search indexName selection request = .ok page →
      connection.search indexName selection following = .ok nextPage →
      (page.hasNext = true ↔ nextPage.content ≠ [])
  crowded : connection.RefusesCrowded indexName selection sort listing.length

/-- The first request for single items in an order. -/
def firstItem (sort : Option SortOrder) : PageRequest := ⟨0, 1, sort, Nat.one_pos⟩

/-- The first request for single items is allowed. -/
theorem firstItem_allowed (sort : Option SortOrder) (total : Nat) :
    (firstItem sort).Allowed sort total :=
  ⟨rfl, rfl, PageRequest.rows_le_of_size (show 1 ≤ parameterLimit by decide) total⟩

section

variable {connection : Connection} {catalogue : Catalogue} {indexName : Text}
  {query : Option Query} {sort : Option SortOrder} {selection : Selection}

/-- An allowed request is answered with its slice of the listing. -/
theorem Represents.search_of_allowed (represents : connection.Represents catalogue)
    (accepted : Selection.ofQuery query sort = .ok selection)
    (preparable : selection.isPreparable = true)
    (encodable : Selection.textsEncodable indexName query sort = true) {request : PageRequest}
    (allowed : request.Allowed sort
      (catalogue.listing indexName.toStringLossy query sort).length) :
    connection.search indexName selection request =
      .ok (Page.slice (catalogue.listing indexName.toStringLossy query sort) request) := by
  obtain ⟨rfl, fits, rows⟩ := allowed
  rw [(catalogue.listing_perm _ _ _).length_eq] at rows
  exact represents.search_eq_ok accepted preparable encodable fits rows

/-- A page with too many rows is refused. -/
theorem Represents.refusesCrowded (represents : connection.Represents catalogue)
    (accepted : Selection.ofQuery query sort = .ok selection)
    (preparable : selection.isPreparable = true)
    (encodable : Selection.textsEncodable indexName query sort = true) :
    connection.RefusesCrowded indexName selection sort
      (catalogue.listing indexName.toStringLossy query sort).length := by
  rintro request rfl fits crowded
  rw [(catalogue.listing_perm _ _ _).length_eq] at crowded
  exact represents.search_of_crowded accepted preparable encodable fits crowded

/-- The first pages are the first slices of the listing. -/
theorem Represents.pages_of_allowed (represents : connection.Represents catalogue)
    (accepted : Selection.ofQuery query sort = .ok selection)
    (preparable : selection.isPreparable = true)
    (encodable : Selection.textsEncodable indexName query sort = true) {size : Nat}
    (positive : 0 < size) {count : Nat}
    (allowed : ∀ number < count, PageRequest.Allowed ⟨number, size, sort, positive⟩ sort
      (catalogue.listing indexName.toStringLossy query sort).length) :
    ∃ answers, connection.pages indexName selection sort positive count = .ok answers ∧
      answers.flatMap Page.content =
        (catalogue.listing indexName.toStringLossy query sort).take (count * size) := by
  let answer (number : Nat) : Page Metadata :=
    Page.slice (catalogue.listing indexName.toStringLossy query sort) ⟨number, size, sort, positive⟩
  refine ⟨(List.range count).map answer, mapM_of_forall_ok ?_, ?_⟩
  · intro number member
    exact represents.search_of_allowed accepted preparable encodable
      (allowed number (List.mem_range.mp member))
  · rw [List.flatMap_map]
    exact Page.flatMap_slices _ size count

/-- A search that answers its first request can be prepared and has only texts that can be kept. -/
theorem Represents.runs_of_ok (represents : connection.Represents catalogue)
    (accepted : Selection.ofQuery query sort = .ok selection) {page : Page Metadata}
    (answered : connection.search indexName selection (firstItem sort) = .ok page) :
    selection.isPreparable = true ∧ Selection.textsEncodable indexName query sort = true := by
  obtain ⟨⟨preparable, encodable, -⟩, -⟩ := represents.of_search accepted answered
  exact ⟨preparable, encodable⟩

/-- A search that can be prepared and whose texts can be kept finds the documents of the
listing. -/
theorem Represents.finds (represents : connection.Represents catalogue)
    (accepted : Selection.ofQuery query sort = .ok selection)
    (preparable : selection.isPreparable = true)
    (encodable : Selection.textsEncodable indexName query sort = true) {documents : List Metadata}
    (found : (catalogue.listing indexName.toStringLossy query sort).Perm documents) :
    connection.Finds indexName selection sort documents where
  counted := by
    intro request allowed
    rw [← found.length_eq] at allowed
    refine ⟨_, represents.search_of_allowed accepted preparable encodable allowed, ?_⟩
    rw [Page.slice, found.length_eq]
  returned := by
    intro size positive count allowed enough
    rw [← found.length_eq] at allowed enough
    obtain ⟨answers, answered, contents⟩ :=
      represents.pages_of_allowed accepted preparable encodable positive allowed
    refine ⟨answers, answered, ?_⟩
    rw [contents, List.take_of_length_le enough]
    exact found
  crowded := by
    rw [← found.length_eq]
    exact represents.refusesCrowded accepted preparable encodable

/-- A search that can be prepared and whose texts can be kept pages through the listing. -/
theorem Represents.pagesThrough (represents : connection.Represents catalogue)
    (accepted : Selection.ofQuery query sort = .ok selection)
    (preparable : selection.isPreparable = true)
    (encodable : Selection.textsEncodable indexName query sort = true) :
    connection.PagesThrough indexName selection sort
      (catalogue.listing indexName.toStringLossy query sort) where
  slices := by
    intro request allowed
    exact ⟨_, represents.search_of_allowed accepted preparable encodable allowed, rfl, rfl,
      Page.length_slice_le _ request, Page.slice_eq_nil⟩
  whole := by
    intro size positive count first allowed answered pageCount
    obtain ⟨answers, pages, contents⟩ :=
      represents.pages_of_allowed accepted preparable encodable positive allowed
    obtain ⟨-, -, isSlice⟩ := represents.of_search accepted answered
    subst isSlice
    have enough := Page.length_le_of_totalPages_le (Int.le_of_eq pageCount.symm)
    refine ⟨answers, pages, ?_⟩
    rw [contents, List.take_of_length_le enough]
  next := by
    intro request following allowed followingAllowed comesNext sameSize page nextPage answered
      nextAnswered
    rw [represents.search_of_allowed accepted preparable encodable allowed] at answered
    rw [represents.search_of_allowed accepted preparable encodable followingAllowed] at nextAnswered
    cases answered
    cases nextAnswered
    exact Page.hasNext_slice_iff _ comesNext sameSize
  crowded := represents.refusesCrowded accepted preparable encodable

end

section

variable (calls : List IndexCall) (indexName : Text) {sort : Option SortOrder}
  {selection : Selection}

/-- After any calls, an accepted query finds exactly the documents of the index for which it is
true, if its statements can be prepared and the index can keep its texts; otherwise every request
for a page is refused. -/
theorem search_finds (query : Query)
    (accepted : Selection.ofQuery (some query) sort = .ok selection) :
    ((after calls).Finds indexName selection sort
        ((Catalogue.after calls).documents.filter fun document =>
          document.indexName = indexName.toStringLossy && query.holds document) ↔
      selection.isPreparable = true ∧
        Selection.textsEncodable indexName (some query) sort = true) ∧
    (¬ (selection.isPreparable = true ∧
        Selection.textsEncodable indexName (some query) sort = true) →
      ∀ request : PageRequest, request.sort = sort →
        (after calls).Refused indexName (some query) selection request) := by
  have represents := represents_after calls
  refine ⟨⟨fun finds => ?_, fun ⟨preparable, encodable⟩ => ?_⟩, ?_⟩
  · obtain ⟨page, answered, -⟩ := finds.counted _ (firstItem_allowed sort _)
    exact represents.runs_of_ok accepted answered
  · apply represents.finds accepted preparable encodable
    have found := (Catalogue.after calls).listing_perm indexName.toStringLossy (some query) sort
    rw [Catalogue.matching, Catalogue.inIndex, List.filter_filter] at found
    simpa only [Option.all_some, Bool.and_comm] using found
  · rintro unfit request rfl
    exact represents.refused accepted unfit

/-- Three documents whose fields of one name hold a one of each kind. -/
def mixedOnes : List IndexCall :=
  [.upsert "d" "x" "h" none [⟨"a", .integer 1, by decide, by decide⟩],
    .upsert "d" "y" "h" none [⟨"a", .boolean true, by decide, rfl⟩],
    .upsert "d" "z" "h" none [⟨"a", .real (.ofRatio false 1 1), by decide, rfl⟩]]

/-- The integer one finds the number that is one as well, but not the boolean. -/
theorem search_finds_mixedOnes :
    ∃ selection, Selection.ofQuery (some (.equals (.text "a") (.integer 1))) none =
        .ok selection ∧
      ∃ documents, documents.map Metadata.documentId = ["x", "z"] ∧
        (after mixedOnes).Finds "d" selection none documents :=
  ⟨_, rfl, _, by decide, (search_finds mixedOnes "d"
    (.equals (.text "a") (.integer 1)) rfl).1.mpr (by decide)⟩

/-- Documents with a one, or with half of a surrogate pair, which no document can hold. -/
def oneOrHalf : Query :=
  .composite .any [.equals (.text "a") (.integer 1), .equals (.text "b") (.text ⟨[.ofCode 0xD800]⟩)]

/-- A branch that no document can satisfy keeps a search from finding the documents of the other
branch when its text cannot be encoded. -/
theorem not_finds_oneOrHalf :
    ¬ ∀ selection, Selection.ofQuery (some oneOrHalf) none = .ok selection →
      (after mixedOnes).Finds "d" selection none
        ((Catalogue.after mixedOnes).documents.filter fun document =>
          document.indexName = "d" && oneOrHalf.holds document) := by
  intro promise
  have accepted : Selection.ofQuery (some oneOrHalf) none = .ok _ := rfl
  have finds := promise _ accepted
  obtain ⟨page, answered, -⟩ := finds.counted _ (firstItem_allowed none _)
  have encodable := ((represents_after mixedOnes).runs_of_ok accepted answered).2
  revert encodable
  decide

/-- After any calls, an accepted search pages through one listing of the matching documents, which
is ordered by the keys of the sort and, where keys are equal, by the order of first filing, if its
statements can be prepared and the index can keep its texts; otherwise every request for a page is
refused. -/
theorem search_pagesThrough (query : Option Query)
    (accepted : Selection.ofQuery query sort = .ok selection) :
    ((∃ listing : List Metadata,
        listing.Perm ((Catalogue.after calls).matching indexName.toStringLossy query) ∧
        (listing.Pairwise fun earlier later =>
          (Catalogue.after calls).precedes sort earlier later = true) ∧
        (after calls).PagesThrough indexName selection sort listing) ↔
      selection.isPreparable = true ∧ Selection.textsEncodable indexName query sort = true) ∧
    (¬ (selection.isPreparable = true ∧ Selection.textsEncodable indexName query sort = true) →
      ∀ request : PageRequest, request.sort = sort →
        (after calls).Refused indexName query selection request) := by
  have represents := represents_after calls
  refine ⟨⟨?_, fun ⟨preparable, encodable⟩ => ?_⟩, ?_⟩
  · rintro ⟨listing, -, -, pagesThrough⟩
    obtain ⟨page, answered, -⟩ := pagesThrough.slices _ (firstItem_allowed sort _)
    exact represents.runs_of_ok accepted answered
  · have distinct : (Catalogue.after calls).documents.Nodup :=
      List.Nodup.of_map Metadata.key represents.tables.distinct
    exact ⟨_, (Catalogue.after calls).listing_perm indexName.toStringLossy query sort,
      Catalogue.pairwise_listing distinct indexName.toStringLossy query sort,
      represents.pagesThrough accepted preparable encodable⟩
  · rintro unfit request rfl
    exact represents.refused accepted unfit

/-- The order of the field `a`, the greatest first. -/
def greatestFirst : SortOrder := ⟨.text "a", .text "desc"⟩

/-- All documents of an index are paged through in descending order of a field. -/
theorem search_pagesThrough_greatestFirst :
    ∃ selection, Selection.ofQuery none (some greatestFirst) = .ok selection ∧
      ∃ listing, (after mixedOnes).PagesThrough "d" selection (some greatestFirst) listing := by
  have accepted : Selection.ofQuery none (some greatestFirst) = .ok _ := rfl
  refine ⟨_, accepted, ?_⟩
  obtain ⟨listing, -, -, pagesThrough⟩ :=
    (search_pagesThrough mixedOnes "d" none accepted).1.mpr (by decide)
  exact ⟨listing, pagesThrough⟩

/-- The same branch keeps a search from paging through the documents of the other one. -/
theorem not_pagesThrough_oneOrHalf :
    ¬ ∀ selection, Selection.ofQuery (some oneOrHalf) (some greatestFirst) = .ok selection →
      ∃ listing, (after mixedOnes).PagesThrough "d" selection (some greatestFirst) listing := by
  intro promise
  have accepted : Selection.ofQuery (some oneOrHalf) (some greatestFirst) = .ok _ := rfl
  obtain ⟨listing, pagesThrough⟩ := promise _ accepted
  obtain ⟨page, answered, -⟩ := pagesThrough.slices _ (firstItem_allowed _ _)
  have encodable := ((represents_after mixedOnes).runs_of_ok accepted answered).2
  revert encodable
  decide

end
end Connection
end Depot
