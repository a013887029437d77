import Depot.Proofs.Searching
import Depot.Proofs.Validity
import Mathlib.Algebra.Group.Nat.Defs

/-!
# What searches are answered

A search is refused with the first fault of its statements: a statement that cannot be prepared, or
a parameter that the index cannot take. Which fault comes first is a matter of the search alone.
The answer to a search without a fault is the slice of the listing that was asked for, if the
statement that fetches the fields of the slice has a place for each of its rows.
-/

namespace Depot

/-- A count fits the index when it is below the bound of 63 bits. -/
theorem fitsInteger_natCast (count : Nat) : fitsInteger count = decide (count < 2 ^ 63) := by
  rw [Bool.eq_iff_iff, fitsInteger, leastInteger, greatestInteger, Bool.and_eq_true,
    decide_eq_true_iff, decide_eq_true_iff, decide_eq_true_iff]
  omega

namespace PageRequest

/-- Whether the index can take the numbers of a request. -/
def fits (request : PageRequest) : Bool :=
  fitsInteger request.size && fitsInteger request.offset

/-- The numbers of a request fit when they are below the bound of 63 bits. -/
theorem fits_iff (request : PageRequest) :
    request.fits = true ↔ request.size < 2 ^ 63 ∧ request.page * request.size < 2 ^ 63 := by
  rw [fits, fitsInteger_natCast, fitsInteger_natCast, Bool.and_eq_true, decide_eq_true_iff,
    decide_eq_true_iff, offset]

/-- The number of rows on the page of a request for a listing of some length. -/
def rows (request : PageRequest) (total : Nat) : Nat := min request.size (total - request.offset)

/-- A page has no more rows than its size. -/
theorem rows_le_size (request : PageRequest) (total : Nat) : request.rows total ≤ request.size :=
  Nat.min_le_left _ _

/-- A page has no more rows than the listing. -/
theorem rows_le_total (request : PageRequest) (total : Nat) : request.rows total ≤ total :=
  (Nat.min_le_right _ _).trans (Nat.sub_le _ _)

/-- A page that is no larger than a statement has places has no more rows than that. -/
theorem rows_le_of_size {request : PageRequest} (small : request.size ≤ parameterLimit)
    (total : Nat) : request.rows total ≤ parameterLimit :=
  (request.rows_le_size total).trans small

end PageRequest

/-- The slice of a request has the rows of its page. -/
theorem Page.length_slice {α : Type} (listing : List α) (request : PageRequest) :
    (Page.slice listing request).content.length = request.rows listing.length := by
  rw [Page.slice, List.length_take, List.length_drop, PageRequest.rows]

namespace Parameter

/-- What keeps a parameter from being bound, if anything does. -/
def bindFault? (parameter : Parameter) : Option BindingFault := refusal? parameter.bind

/-- Nothing keeps the parameters from being bound that can be handed over. -/
theorem bindFault?_eq_none_iff (parameter : Parameter) :
    parameter.bindFault? = none ↔ parameter.isBindable = true := by
  rw [bindFault?, refusal?_eq_none_iff]
  constructor
  · rintro ⟨value, bound⟩
    by_contra refused
    rw [Bool.not_eq_true] at refused
    cases inRange : parameter.fits with
    | true =>
      obtain ⟨fault, failed⟩ := bind_of_not_isBindable inRange refused
      simp [failed] at bound
    | false => cases parameter <;> simp_all [fits, bind]
  · intro bindable
    exact ⟨_, bind_of_isBindable bindable⟩

/-- An integer is bound if it is in range. -/
theorem bindFault?_integer (value : Int) :
    (integer value).bindFault? = if fitsInteger value then none else some .integerTooLarge := by
  rw [bindFault?, bind]
  split <;> rfl

/-- All parameters can be handed over when nothing keeps one of them from being bound. -/
theorem findSome?_bindFault?_eq_none_iff (parameters : List Parameter) :
    parameters.findSome? bindFault? = none ↔ parameters.all isBindable = true := by
  simp [bindFault?_eq_none_iff]

/-- Parameters in range are refused with a text that cannot be encoded. -/
theorem encoding_of_findSome?_bindFault? {parameters : List Parameter} {fault : BindingFault}
    (inRange : ∀ parameter ∈ parameters, parameter.fits = true)
    (refused : parameters.findSome? bindFault? = some fault) :
    ∃ encoding, fault = .encoding encoding := by
  obtain ⟨parameter, member, failed⟩ := List.exists_of_findSome?_eq_some refused
  have notBindable : parameter.isBindable = false := by
    rw [← Bool.not_eq_true, ← bindFault?_eq_none_iff, failed]
    simp
  obtain ⟨encoding, bound⟩ := bind_of_not_isBindable (inRange parameter member) notBindable
  rw [bindFault?, refusal?_eq_some_iff, bound] at failed
  cases failed
  exact ⟨encoding, rfl⟩

end Parameter

/-- The numbers of a request are bound if they fit. -/
theorem PageRequest.findSome?_bindFault?_numbers (request : PageRequest) :
    [Parameter.integer request.size, .integer request.offset].findSome? Parameter.bindFault? =
      if request.fits then none else some .integerTooLarge := by
  rw [List.findSome?_cons, List.findSome?_singleton, Parameter.bindFault?_integer,
    Parameter.bindFault?_integer, fits]
  cases fitsInteger request.size <;> cases fitsInteger request.offset <;> rfl

/-- A statement is refused with what keeps it from being prepared, or else with what keeps the first
of its parameters from being bound. -/
theorem refusal?_bindAll (fault? : Option DatabaseFault) (parameters : List Parameter) :
    refusal? (bindAll fault? parameters) =
      (fault?.map BindingFault.database).or (parameters.findSome? Parameter.bindFault?) := by
  cases fault? with
  | some fault => rfl
  | none => exact refusal?_mapM fun _ _ => rfl

/-- Whether a fault of the database is a limit on its statements. -/
def DatabaseFault.isLimit : DatabaseFault → Bool
  | tooManyParameters => true
  | tooDeep => true
  | _ => false

/-- A statement that cannot be prepared is beyond a limit. -/
theorem Condition.isLimit_of_prepareFault? {condition : Condition Unit} {places : Nat}
    {fault : DatabaseFault} (refused : condition.prepareFault? places = some fault) :
    fault.isLimit = true := by
  rw [prepareFault?] at refused
  split at refused
  · cases refused
    rfl
  · split at refused <;> cases refused
    rfl

/-- A statement can be prepared when it is within both limits. -/
theorem Condition.prepareFault?_eq_none_iff (condition : Condition Unit) (places : Nat) :
    condition.prepareFault? places = none ↔
      places ≤ parameterLimit ∧ condition.statementHeight ≤ heightLimit := by
  rw [prepareFault?]
  split
  · simp
    omega
  · split <;> simp <;> omega

namespace Selection

variable {selection : Selection} {indexName : Text} {query : Option Query} {request : PageRequest}
  {fault : BindingFault}

/-- Whether the statements of a selection can be prepared. -/
def isPreparable (selection : Selection) : Bool := selection.pageFault?.isNone

/-- The statements of a selection can be prepared when they are within both limits. -/
theorem isPreparable_iff (selection : Selection) :
    selection.isPreparable = true ↔ selection.pagePlaces ≤ parameterLimit ∧
      selection.condition.condition.statementHeight ≤ heightLimit := by
  rw [isPreparable, Option.isNone_iff_eq_none, pageFault?, Condition.prepareFault?_eq_none_iff]

/-- The count statement has fewer places than the page statement. -/
theorem countFault?_eq_none (preparable : selection.isPreparable = true) :
    selection.countFault? = none := by
  obtain ⟨places, height⟩ := selection.isPreparable_iff.mp preparable
  rw [countFault?, Condition.prepareFault?_eq_none_iff]
  refine ⟨?_, height⟩
  rw [pagePlaces] at places
  rw [countPlaces]
  omega

/-- What keeps the count statement of a selection from being run. -/
def countRefusal? (selection : Selection) (indexName : Text) : Option BindingFault :=
  (selection.countFault?.map BindingFault.database).or
    ((selection.countParameters indexName).findSome? Parameter.bindFault?)

/-- What keeps the page statement of a selection from being run. -/
def pageRefusal? (selection : Selection) (indexName : Text) (request : PageRequest) :
    Option BindingFault :=
  (selection.pageFault?.map BindingFault.database).or
    ((selection.pageParameters indexName request).findSome? Parameter.bindFault?)

/-- What keeps a search from being run: the first fault of its count statement, or else of its page
statement. -/
def searchFault? (selection : Selection) (indexName : Text) (request : PageRequest) :
    Option BindingFault :=
  (selection.countRefusal? indexName).or (selection.pageRefusal? indexName request)

/-- The parameters of the page statement are those of the count statement and others. -/
theorem pageParameters_eq (selection : Selection) (indexName : Text) (request : PageRequest) :
    selection.pageParameters indexName request = selection.countParameters indexName ++
      (selection.order.parameters ++ [.integer request.size, .integer request.offset]) := by
  simp [pageParameters, countParameters]

/-- A page statement that can be run can be counted. -/
theorem countRefusal?_of_pageRefusal? (runs : selection.pageRefusal? indexName request = none) :
    selection.countRefusal? indexName = none := by
  rw [pageRefusal?, Option.or_eq_none_iff, Option.map_eq_none_iff, pageParameters_eq,
    List.findSome?_append, Option.or_eq_none_iff] at runs
  have preparable : selection.isPreparable = true := by rw [isPreparable, runs.1]; rfl
  rw [countRefusal?, countFault?_eq_none preparable, runs.2.1]
  rfl

/-- The texts of an accepted search are the parameters before its numbers. -/
theorem isBindable_texts (accepted : ofQuery query request.sort = .ok selection) :
    (Parameter.text indexName :: (selection.condition.parameters ++ selection.order.parameters)).all
      Parameter.isBindable = textsEncodable indexName query request.sort := by
  obtain ⟨conditionBindable, -, -⟩ := condition_ofQuery accepted
  have orderBindable := OrderClause.isBindable_ofSort (of_ofQuery accepted).2
  rw [Clause.isBindable] at conditionBindable
  rw [OrderClause.isBindable] at orderBindable
  simp [textsEncodable, conditionBindable, orderBindable, Bool.and_assoc]

/-- None of the parameters before the numbers of an accepted search is out of range. -/
theorem fits_texts (accepted : ofQuery query request.sort = .ok selection) {parameter : Parameter}
    (member : parameter ∈
      Parameter.text indexName :: (selection.condition.parameters ++ selection.order.parameters)) :
    parameter.fits = true := by
  obtain ⟨-, conditionFits, -⟩ := condition_ofQuery accepted
  have orderFits := OrderClause.fits_ofSort (of_ofQuery accepted).2
  rcases List.mem_cons.mp member with rfl | inClauses
  · rfl
  · rcases List.mem_append.mp inClauses with inCondition | inOrder
    · exact conditionFits parameter inCondition
    · exact orderFits parameter inOrder

/-- An accepted search can be run when its statements can be prepared, the index can keep its texts
and the index can take its numbers. -/
theorem searchFault?_eq_none_iff (accepted : ofQuery query request.sort = .ok selection) :
    selection.searchFault? indexName request = none ↔ selection.isPreparable = true ∧
      textsEncodable indexName query request.sort = true ∧ request.fits = true := by
  have pageOnly : selection.searchFault? indexName request = none ↔
      selection.pageRefusal? indexName request = none := by
    rw [searchFault?, Option.or_eq_none_iff, and_iff_right_iff_imp]
    exact countRefusal?_of_pageRefusal?
  rw [pageOnly, pageRefusal?, Option.or_eq_none_iff, Option.map_eq_none_iff, isPreparable,
    Option.isNone_iff_eq_none, Parameter.findSome?_bindFault?_eq_none_iff,
    ← isBindable_texts accepted, pageParameters, ← List.cons_append, List.all_append,
    Bool.and_eq_true]
  simp [Parameter.isBindable, PageRequest.fits]

/-- A count statement that cannot be prepared is beyond a limit. -/
theorem isLimit_of_countFault? {limit : DatabaseFault}
    (refused : selection.countFault? = some limit) :
    limit.isLimit = true ∧ selection.isPreparable = false := by
  refine ⟨Condition.isLimit_of_prepareFault? refused, ?_⟩
  by_contra preparable
  rw [Bool.not_eq_false] at preparable
  rw [countFault?_eq_none preparable] at refused
  cases refused

/-- A page statement that cannot be prepared is beyond a limit. -/
theorem isLimit_of_pageFault? {limit : DatabaseFault}
    (refused : selection.pageFault? = some limit) :
    limit.isLimit = true ∧ selection.isPreparable = false := by
  refine ⟨Condition.isLimit_of_prepareFault? refused, ?_⟩
  rw [isPreparable, refused]
  rfl

/-- A fault among the texts of an accepted search is a text that the index cannot keep. -/
theorem encoding_of_texts (accepted : ofQuery query request.sort = .ok selection)
    {parameters : List Parameter} (texts : parameters ⊆
      Parameter.text indexName :: (selection.condition.parameters ++ selection.order.parameters))
    (refused : parameters.findSome? Parameter.bindFault? = some fault) :
    ∃ encoding, fault = .encoding encoding ∧
      textsEncodable indexName query request.sort = false := by
  obtain ⟨encoding, rfl⟩ := Parameter.encoding_of_findSome?_bindFault?
    (fun parameter member => fits_texts accepted (texts member)) refused
  refine ⟨encoding, rfl, ?_⟩
  rw [← isBindable_texts accepted, ← Bool.not_eq_true, List.all_eq_true]
  intro bindable
  have bound := (Parameter.findSome?_bindFault?_eq_none_iff parameters).mpr
    (List.all_eq_true.mpr fun parameter member => bindable parameter (texts member))
  rw [bound] at refused
  cases refused

/-- A fault of an accepted search is a limit on statements, a text that the index cannot keep, or
else a number that it cannot take. -/
theorem searchFault?_cases (accepted : ofQuery query request.sort = .ok selection)
    (refused : selection.searchFault? indexName request = some fault) :
    (∃ limit, fault = .database limit ∧ limit.isLimit = true ∧ selection.isPreparable = false) ∨
      (∃ encoding, fault = .encoding encoding ∧
        textsEncodable indexName query request.sort = false) ∨
      (fault = .integerTooLarge ∧ selection.isPreparable = true ∧
        textsEncodable indexName query request.sort = true ∧ request.fits = false) := by
  rw [searchFault?, countRefusal?, pageRefusal?, Option.or_eq_some_iff, Option.or_eq_some_iff,
    Option.or_eq_some_iff] at refused
  rcases refused with (countLimit | ⟨-, countText⟩) | ⟨-, pageLimit | ⟨prepared, pageParameter⟩⟩
  · obtain ⟨limit, stopped, rfl⟩ := Option.map_eq_some_iff.mp countLimit
    exact .inl ⟨limit, rfl, isLimit_of_countFault? stopped⟩
  · exact .inr (.inl (encoding_of_texts accepted
      (List.cons_subset_cons _ (List.subset_append_left _ _)) countText))
  · obtain ⟨limit, stopped, rfl⟩ := Option.map_eq_some_iff.mp pageLimit
    exact .inl ⟨limit, rfl, isLimit_of_pageFault? stopped⟩
  · rw [Option.map_eq_none_iff] at prepared
    rw [pageParameters, ← List.cons_append, List.findSome?_append, Option.or_eq_some_iff]
      at pageParameter
    rcases pageParameter with text | ⟨noText, number⟩
    · exact .inr (.inl (encoding_of_texts accepted (List.Subset.refl _) text))
    · rw [Parameter.findSome?_bindFault?_eq_none_iff, isBindable_texts accepted] at noText
      rw [PageRequest.findSome?_bindFault?_numbers] at number
      split at number
      · cases number
      · rename_i tooLarge
        cases number
        exact .inr (.inr ⟨rfl, by rw [isPreparable, prepared]; rfl, noText,
          by simpa using tooLarge⟩)

end Selection

namespace Connection

variable {connection : Connection} {catalogue : Catalogue} {indexName : Text}
  {query : Option Query} {request : PageRequest} {selection : Selection}

/-- A search that can be run is answered with its slice of the listing. -/
theorem Represents.search_of_runs (represents : connection.Represents catalogue)
    (accepted : Selection.ofQuery query request.sort = .ok selection)
    (preparable : selection.isPreparable = true)
    (encodable : Selection.textsEncodable indexName query request.sort = true)
    (fits : request.fits = true) :
    connection.search indexName selection request = loaded indexName
      (Page.slice (catalogue.listing indexName.toStringLossy query request.sort) request) := by
  rw [Selection.textsEncodable, Bool.and_eq_true, Bool.and_eq_true] at encodable
  obtain ⟨⟨nameEncodable, queryEncodable⟩, sortEncodable⟩ := encodable
  obtain ⟨conditionBindable, -, conditionMeans⟩ := Selection.condition_ofQuery accepted
  have ordered := (Selection.of_ofQuery accepted).2
  have orderBindable := OrderClause.isBindable_ofSort ordered
  rw [queryEncodable] at conditionBindable
  rw [sortEncodable] at orderBindable
  obtain ⟨orderMeans, direction⟩ := OrderClause.means_ofSort ordered orderBindable
  obtain ⟨sizeFits, offsetFits⟩ := Bool.and_eq_true_iff.mp fits
  rw [represents.search_of_means (conditionMeans conditionBindable) orderMeans
    (Selection.countFault?_eq_none preparable) (Option.isNone_iff_eq_none.mp preparable)
    nameEncodable conditionBindable orderBindable sizeFits offsetFits rfl, direction]
  rw [Page.slice, Catalogue.listing, List.length_mergeSort]
  rfl

/-- A search whose count statement cannot be run is answered with the fault of that. -/
theorem search_of_countRefusal (isOpen : connection.isOpen = true) {fault : BindingFault}
    (refused : selection.countRefusal? indexName = some fault) :
    connection.search indexName selection request = .error (searchFailure indexName fault) := by
  rw [Selection.countRefusal?, ← refusal?_bindAll, refusal?_eq_some_iff] at refused
  rw [search, isOpen, Selection.bindCount, refused]
  rfl

/-- A search whose count statement can be run, but not its page statement, is answered with the
fault of that. -/
theorem search_of_pageRefusal (isOpen : connection.isOpen = true)
    (accepted : Selection.ofQuery query request.sort = .ok selection)
    (counted : selection.countRefusal? indexName = none) {fault : BindingFault}
    (refused : selection.pageRefusal? indexName request = some fault) :
    connection.search indexName selection request = .error (searchFailure indexName fault) := by
  obtain ⟨-, -, means⟩ := Selection.condition_ofQuery accepted
  rw [Selection.countRefusal?, Option.or_eq_none_iff, Option.map_eq_none_iff,
    Parameter.findSome?_bindFault?_eq_none_iff, Selection.countParameters, List.all_cons,
    Bool.and_eq_true] at counted
  obtain ⟨prepared, nameEncodable, bindable⟩ := counted
  obtain ⟨condition, binds, -⟩ := means bindable
  rw [Selection.pageRefusal?, ← refusal?_bindAll, refusal?_eq_some_iff] at refused
  rw [search, isOpen, Selection.bindCount_of_binds prepared nameEncodable bindable binds,
    Selection.bindPage, refused]
  rfl

/-- An accepted search of an open index that represents a catalogue is answered with its first
fault, or with its slice of the listing. -/
theorem Represents.search_eq (represents : connection.Represents catalogue)
    (accepted : Selection.ofQuery query request.sort = .ok selection) :
    connection.search indexName selection request =
      match selection.searchFault? indexName request with
      | some fault => .error (searchFailure indexName fault)
      | none =>
        loaded indexName
          (Page.slice (catalogue.listing indexName.toStringLossy query request.sort) request) := by
  cases refused : selection.searchFault? indexName request with
  | none =>
    obtain ⟨preparable, encodable, fits⟩ := (Selection.searchFault?_eq_none_iff accepted).mp refused
    exact represents.search_of_runs accepted preparable encodable fits
  | some fault =>
    rw [Selection.searchFault?, Option.or_eq_some_iff] at refused
    rcases refused with count | ⟨counted, page⟩
    · exact search_of_countRefusal represents.isOpen count
    · exact search_of_pageRefusal represents.isOpen accepted counted page

/-- A search that is answered can be run, and is answered with its slice of the listing, of which
each row has a place in a statement. -/
theorem Represents.of_search (represents : connection.Represents catalogue)
    (accepted : Selection.ofQuery query request.sort = .ok selection) {page : Page Metadata}
    (answered : connection.search indexName selection request = .ok page) :
    (selection.isPreparable = true ∧
        Selection.textsEncodable indexName query request.sort = true ∧ request.fits = true) ∧
      request.rows (catalogue.matching indexName.toStringLossy query).length ≤ parameterLimit ∧
      page = Page.slice (catalogue.listing indexName.toStringLossy query request.sort) request := by
  rw [represents.search_eq accepted] at answered
  cases fault : selection.searchFault? indexName request with
  | some fault => simp [fault] at answered
  | none =>
    rw [fault] at answered
    simp only [loaded, Page.length_slice] at answered
    rw [(catalogue.listing_perm indexName.toStringLossy query request.sort).length_eq] at answered
    split at answered
    · cases answered
    · rename_i rows
      cases answered
      exact ⟨(Selection.searchFault?_eq_none_iff accepted).mp fault, Nat.le_of_not_lt rows, rfl⟩

/-- A search that can be run is answered with its slice of the listing, if a statement has a place
for each row of the page. -/
theorem Represents.search_eq_ok (represents : connection.Represents catalogue)
    (accepted : Selection.ofQuery query request.sort = .ok selection)
    (preparable : selection.isPreparable = true)
    (encodable : Selection.textsEncodable indexName query request.sort = true)
    (fits : request.fits = true)
    (rows : request.rows (catalogue.matching indexName.toStringLossy query).length ≤
      parameterLimit) :
    connection.search indexName selection request = .ok
      (Page.slice (catalogue.listing indexName.toStringLossy query request.sort) request) := by
  rw [← (catalogue.listing_perm indexName.toStringLossy query request.sort).length_eq,
    ← Page.length_slice] at rows
  rw [represents.search_of_runs accepted preparable encodable fits, loaded,
    if_neg (Nat.not_lt_of_le rows)]

/-- A search that can be run is refused if no statement has a place for each row of the page. -/
theorem Represents.search_of_crowded (represents : connection.Represents catalogue)
    (accepted : Selection.ofQuery query request.sort = .ok selection)
    (preparable : selection.isPreparable = true)
    (encodable : Selection.textsEncodable indexName query request.sort = true)
    (fits : request.fits = true)
    (crowded : parameterLimit <
      request.rows (catalogue.matching indexName.toStringLossy query).length) :
    connection.search indexName selection request =
      .error (.indexUnavailable (.cannotSearch indexName .tooManyParameters)) := by
  rw [← (catalogue.listing_perm indexName.toStringLossy query request.sort).length_eq,
    ← Page.length_slice] at crowded
  rw [represents.search_of_runs accepted preparable encodable fits, loaded, if_pos crowded]
  rfl

/-- A search is refused: with a text that the index cannot keep, or with a limit of the database
that one of its statements is beyond. -/
inductive Refused (connection : Connection) (indexName : Text) (query : Option Query)
    (selection : Selection) (request : PageRequest) : Prop
  | text (fault : EncodingFault)
      (kept : Selection.textsEncodable indexName query request.sort = false)
      (answer : connection.search indexName selection request = .error (.encoding fault))
  | limit (fault : DatabaseFault) (isLimit : fault.isLimit = true)
      (prepared : selection.isPreparable = false)
      (answer : connection.search indexName selection request =
        .error (.indexUnavailable (.cannotSearch indexName fault)))

/-- A search is refused whose texts the index cannot keep or whose statements cannot be
prepared. -/
theorem Represents.refused (represents : connection.Represents catalogue)
    (accepted : Selection.ofQuery query request.sort = .ok selection)
    (unfit : ¬ (selection.isPreparable = true ∧
      Selection.textsEncodable indexName query request.sort = true)) :
    connection.Refused indexName query selection request := by
  have answer : connection.search indexName selection request = _ := represents.search_eq accepted
  cases refused : selection.searchFault? indexName request with
  | none =>
    obtain ⟨preparable, encodable, -⟩ := (Selection.searchFault?_eq_none_iff accepted).mp refused
    exact absurd ⟨preparable, encodable⟩ unfit
  | some fault =>
    rw [refused] at answer
    rcases Selection.searchFault?_cases accepted refused with
      ⟨limit, rfl, isLimit, prepared⟩ | ⟨encoding, rfl, kept⟩ | ⟨rfl, preparable, encodable, -⟩
    · exact .limit limit isLimit prepared answer
    · exact .text encoding kept answer
    · exact absurd ⟨preparable, encodable⟩ unfit

/-- A search that can be prepared and whose texts can be kept, but not its numbers, is answered
with that. -/
theorem Represents.search_of_not_fits (represents : connection.Represents catalogue)
    (accepted : Selection.ofQuery query request.sort = .ok selection)
    (preparable : selection.isPreparable = true)
    (encodable : Selection.textsEncodable indexName query request.sort = true)
    (tooLarge : request.fits = false) :
    connection.search indexName selection request = .error .integerTooLarge := by
  rw [represents.search_eq accepted]
  cases refused : selection.searchFault? indexName request with
  | none =>
    obtain ⟨-, -, fits⟩ := (Selection.searchFault?_eq_none_iff accepted).mp refused
    rw [fits] at tooLarge
    cases tooLarge
  | some fault =>
    rcases Selection.searchFault?_cases accepted refused with
      ⟨limit, -, -, prepared⟩ | ⟨encoding, -, kept⟩ | ⟨rfl, -⟩
    · rw [preparable] at prepared
      cases prepared
    · rw [encodable] at kept
      cases kept
    · rfl

end Connection
end Depot
