import Depot.Proofs.Sessions
import Mathlib.Algebra.Group.Nat.Defs

/-!
# Which pages can be asked for

The page and the size of a request have no upper bound, but the index takes numbers of 64 bits only.
A search is answered with the page that was asked for exactly when its statements can be prepared,
the index can keep its texts, the size and the number of items before the page fit, and a statement
has a place for each row of the page. All other searches fail.
-/

namespace Depot

namespace Coordinator

/-- A search is answered with the page that was asked for: its slice of a listing of the documents
that match, which is empty if it starts past the end, with the number of all of them. -/
def AnswersPage (coordinator : Coordinator) (catalogue : Catalogue) (indexName : Text)
    (query : Option Query) (request : PageRequest) : Prop :=
  ∃ (page : Page Metadata) (listing : List Metadata),
    coordinator.search indexName query (some request) = .ok page ∧
    listing.Perm (catalogue.matching indexName.toStringLossy query) ∧
    page.content = (listing.drop (request.page * request.size)).take request.size ∧
    page.totalElements = listing.length ∧
    (listing.length ≤ request.page * request.size → page.content = [])

section

variable {coordinator : Coordinator} {catalogue : Catalogue} {indexName : Text}
  {query : Option Query} {request : PageRequest} {selection : Selection}

/-- An open index answers exactly the searches that can be run and have a place for each row of the
page. -/
theorem answersPage_iff (represents : coordinator.index.Represents catalogue)
    (translated : Selection.translate query request.sort = .ok selection)
    (calm : coordinator.outages.failure? .search (some indexName) = none) :
    coordinator.AnswersPage catalogue indexName query request ↔
      (selection.isPreparable = true ∧
        Selection.textsEncodable indexName query request.sort = true ∧ request.fits = true) ∧
        request.rows (catalogue.matching indexName.toStringLossy query).length ≤
          parameterLimit := by
  have accepted := (Selection.translateWithin_eq_ok_iff.mp translated).1
  rw [AnswersPage, search_of_calm translated calm]
  constructor
  · rintro ⟨page, listing, answered, -⟩
    obtain ⟨runs, rows, -⟩ := represents.of_search accepted answered
    exact ⟨runs, rows⟩
  · rintro ⟨⟨preparable, encodable, fits⟩, rows⟩
    refine ⟨_, _, represents.search_eq_ok accepted preparable encodable fits rows,
      catalogue.listing_perm indexName.toStringLossy query request.sort, rfl, rfl,
      fun pastEnd => ?_⟩
    rw [Page.slice, PageRequest.offset, List.drop_eq_nil_of_le pastEnd, List.take_nil]

/-- A search that is not answered with a page fails with a text that cannot be encoded or a number
that is too large, which are not meant for callers, or with a limit of the database. -/
theorem search_of_not_answersPage (represents : coordinator.index.Represents catalogue)
    (translated : Selection.translate query request.sort = .ok selection)
    (calm : coordinator.outages.failure? .search (some indexName) = none)
    (unanswered : ¬ coordinator.AnswersPage catalogue indexName query request) :
    ∃ failure, coordinator.search indexName query (some request) = .error failure ∧
      ((failure.title? = none ∧
          ((∃ fault, failure = .encoding fault) ∨ failure = .integerTooLarge)) ∨
        ∃ limit : DatabaseFault, limit.isLimit = true ∧
          failure = .indexUnavailable (.cannotSearch indexName limit)) := by
  have accepted := (Selection.translateWithin_eq_ok_iff.mp translated).1
  rw [answersPage_iff represents translated calm] at unanswered
  rw [search_of_calm translated calm]
  by_cases runs : selection.isPreparable = true ∧
      Selection.textsEncodable indexName query request.sort = true
  · obtain ⟨preparable, encodable⟩ := runs
    cases fits : request.fits with
    | false =>
      exact ⟨_, represents.search_of_not_fits accepted preparable encodable fits,
        .inl ⟨rfl, .inr rfl⟩⟩
    | true =>
      have crowded : parameterLimit <
          request.rows (catalogue.matching indexName.toStringLossy query).length := by
        by_contra rows
        exact unanswered ⟨⟨preparable, encodable, fits⟩, Nat.le_of_not_lt rows⟩
      exact ⟨_, represents.search_of_crowded accepted preparable encodable fits crowded,
        .inr ⟨_, rfl, rfl⟩⟩
  · have refused : coordinator.index.Refused indexName query selection request :=
      represents.refused accepted runs
    cases refused with
    | text fault kept answer => exact ⟨_, answer, .inl ⟨rfl, .inl ⟨fault, rfl⟩⟩⟩
    | limit fault isLimit prepared answer => exact ⟨_, answer, .inr ⟨fault, isLimit, rfl⟩⟩

end
end Coordinator

namespace Session

section

variable {config : Config} {base : Option Path}

/-- After any calls on a depot that opens with an empty index and is open at last, every search that
is translated is answered with the page that was asked for, if its statements can be prepared, the
index can keep its texts, the size of the page and the number of items before it are below the bound
of 63 bits, and a statement has a place for each row of the page. Every other search that is
translated fails: with a text that cannot be encoded or a number that is too large, which are not
meant for callers, or with a limit of the database. -/
theorem run_answersPage {world : World} {coordinator : Coordinator}
    (opened : (Coordinator.openDepot world config base).1 = .ok coordinator)
    (new : coordinator.index.tables = .empty)
    (calm : ∀ indexName, world.outages.failure? .search (some indexName) = none)
    (calls : List DepotCall) (openLast : calls.foldl DepotCall.leavesOpen true = true)
    (indexName : Text) {query : Option Query} {request : PageRequest} {selection : Selection}
    (translated : Selection.translate query request.sort = .ok selection) :
    ∃ session, Session.run config base ⟨coordinator, .empty⟩ calls = .ok session ∧
      (session.coordinator.AnswersPage session.catalogue indexName query request ↔
        selection.isPreparable = true ∧
          Selection.textsEncodable indexName query request.sort = true ∧
          request.size < 2 ^ 63 ∧ request.page * request.size < 2 ^ 63 ∧
          request.rows (session.catalogue.matching indexName.toStringLossy query).length ≤
            parameterLimit) ∧
      (¬ session.coordinator.AnswersPage session.catalogue indexName query request →
        ∃ failure, session.coordinator.search indexName query (some request) = .error failure ∧
          ((failure.title? = none ∧
              ((∃ fault, failure = .encoding fault) ∨ failure = .integerTooLarge)) ∨
            ∃ limit : DatabaseFault, limit.isLimit = true ∧
              failure = .indexUnavailable (.cannotSearch indexName limit))) := by
  obtain ⟨session, done, -, outages, represents⟩ := exists_sound_run opened new calls
  have calmLast : session.coordinator.outages.failure? .search (some indexName) = none := by
    rw [outages]
    exact calm indexName
  refine ⟨session, done, ?_,
    Coordinator.search_of_not_answersPage (represents openLast) translated calmLast⟩
  rw [Coordinator.answersPage_iff (represents openLast) translated calmLast, request.fits_iff]
  simp only [and_assoc]

/-- The page after the last of 2 ^ 63 items in pages of two. -/
def beyondItems : PageRequest := ⟨2 ^ 62, 2, none, by decide⟩

/-- A page far past the end is answered as long as the number of items before it is below the
bound. -/
theorem run_answersPage_pastEnd :
    ∃ session, Session.run fileSettings none ⟨newDepot, .empty⟩ filedTwice = .ok session ∧
      session.coordinator.AnswersPage session.catalogue "d" none
        ⟨2 ^ 62 - 1, 2, none, by decide⟩ := by
  have opened : (Coordinator.openDepot emptyWorld fileSettings none).1 = .ok newDepot := rfl
  let request : PageRequest := ⟨2 ^ 62 - 1, 2, none, by decide⟩
  have translated : Selection.translate none request.sort = .ok .everything := rfl
  obtain ⟨session, done, answers, -⟩ :=
    run_answersPage opened rfl (fun _ => rfl) filedTwice rfl "d" translated
  have small : request.size ≤ parameterLimit := by decide
  exact ⟨session, done, answers.mpr ⟨rfl, rfl, by decide, by decide,
    PageRequest.rows_le_of_size small _⟩⟩

/-- The next page is a request like any other, but it is not answered with a page. -/
theorem not_answersPage_beyondItems :
    ¬ ∀ session, Session.run fileSettings none ⟨newDepot, .empty⟩ filedTwice = .ok session →
      ∃ page, session.coordinator.search "d" none (some beyondItems) = .ok page := by
  intro promise
  obtain ⟨page, answered⟩ := promise _ rfl
  have failed : Except.error Failure.integerTooLarge = Except.ok page := answered
  cases failed

end
end Session
end Depot
