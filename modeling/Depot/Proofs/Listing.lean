import Depot.Index.Key
import Depot.Proofs.Catalogue
import Depot.Proofs.Meaning

/-!
# Listings

A listing is the whole result of a search, before it is cut into pages: the documents of an index
for which the query is true, ordered by the keys that the sort names. Documents with equal keys
stand in the order in which they were first filed.
-/

namespace Depot

/-- Merging by orders that agree between the two lists gives the same list. -/
theorem merge_congr {α : Type} {left right : α → α → Bool} {first second : List α}
    (agree : ∀ earlier ∈ first, ∀ later ∈ second, left earlier later = right earlier later) :
    first.merge second left = first.merge second right := by
  have merged := List.map_merge (f := id) (r := left) (s := right) agree
  rwa [List.map_id, List.map_id, List.map_id] at merged

/-- Sorting by orders that agree on every two items, the earlier one first, gives the same list:
a merge compares items of the first half with items of the second alone. -/
theorem mergeSort_congr {α : Type} {left right : α → α → Bool} {items : List α}
    (agree : items.Pairwise fun earlier later => left earlier later = right earlier later) :
    items.mergeSort left = items.mergeSort right := by
  induction size : items.length using Nat.strong_induction_on generalizing items with
  | _ size inductionHypothesis =>
    match items with
    | [] => rw [List.mergeSort_nil, List.mergeSort_nil]
    | [only] => rw [List.mergeSort_singleton, List.mergeSort_singleton]
    | first :: second :: rest =>
      rw [List.mergeSort, List.mergeSort]
      simp only [List.MergeSort.Internal.splitInTwo_fst, List.MergeSort.Internal.splitInTwo_snd]
      generalize middle : ((first :: second :: rest).length + 1) / 2 = half
      have halves := agree
      rw [← List.take_append_drop half (first :: second :: rest), List.pairwise_append] at halves
      obtain ⟨front, back, between⟩ := halves
      rw [List.length_cons, List.length_cons] at middle size
      have frontSorted := inductionHypothesis _ (by rw [List.length_take]; simp; omega) front rfl
      have backSorted := inductionHypothesis _ (by rw [List.length_drop]; simp; omega) back rfl
      rw [frontSorted, backSorted]
      apply merge_congr
      intro earlier inFront later inBack
      exact between earlier (List.mem_mergeSort.mp inFront) later (List.mem_mergeSort.mp inBack)

/-- What a value is ordered by: booleans as zero and one, numbers by the points that they denote,
texts by their code points. -/
def FieldValue.sortKey : FieldValue → SortKey
  | boolean value => .number (.finite (if value then 1 else 0))
  | integer value => .number (.finite value)
  | real value => (value.toExtended?.map SortKey.number).getD .missing
  | text value => .text value.toStringLossy

/-- What a document is ordered by under a name: the document identifier, or the value of the
field. A field that is not there is missing. -/
def Metadata.sortKey (document : Metadata) (name : Text) : SortKey :=
  if name = FieldName.identifier then .text document.documentId
  else
    ((document.fields.find? fun field => field.name = name).map fun field =>
      field.value.sortKey).getD .missing

namespace SortDirection

/-- Whether a key may stand before another one. -/
def admits : SortDirection → SortKey → SortKey → Bool
  | ascending, left, right => left.le right
  | descending, left, right => right.le left

/-- Of two keys one may stand before the other. -/
theorem admits_total (direction : SortDirection) (left right : SortKey) :
    (direction.admits left right || direction.admits right left) = true := by
  cases direction with
  | ascending => exact SortKey.le_total left right
  | descending => exact SortKey.le_total right left

/-- `admits` chains. -/
theorem admits_trans {direction : SortDirection} {first second third : SortKey}
    (before : direction.admits first second = true)
    (after : direction.admits second third = true) : direction.admits first third = true := by
  cases direction with
  | ascending => exact SortKey.le_trans before after
  | descending => exact SortKey.le_trans after before

/-- Keys that may stand before each other are the same key. -/
theorem admits_antisymm {direction : SortDirection} {left right : SortKey}
    (before : direction.admits left right = true) (after : direction.admits right left = true) :
    left = right := by
  cases direction with
  | ascending => exact SortKey.le_antisymm before after
  | descending => exact SortKey.le_antisymm after before

/-- A key may stand before itself. -/
@[simp] theorem admits_self (direction : SortDirection) (key : SortKey) :
    direction.admits key key = true := by
  have total := direction.admits_total key key
  rwa [Bool.or_self] at total

end SortDirection

namespace SortOrder

/-- The name and the direction that a sort gives, if its parts are a text and a direction. -/
def reading? (sort : SortOrder) : Option (Text × SortDirection) := do
  let name ← sort.field.text?
  let direction ← SortDirection.ofDatum? sort.direction
  some (name, direction)

/-- What a document is ordered by; without a sort all documents have one key. -/
def key (sort : Option SortOrder) (document : Metadata) : SortKey :=
  match sort.bind reading? with
  | some (name, _) => document.sortKey name
  | none => .missing

/-- The direction of a sort. -/
def way (sort : Option SortOrder) : SortDirection :=
  match sort.bind reading? with
  | some (_, direction) => direction
  | none => .ascending

end SortOrder

namespace Catalogue

/-- The documents of an index for which a query is true, in the order in which they were first
filed. No query is true of all. -/
def matching (catalogue : Catalogue) (indexName : String) (query : Option Query) :
    List Metadata :=
  (catalogue.inIndex indexName).filter fun document => query.all fun query => query.holds document

/-- Without a query all documents of an index match. -/
theorem matching_none (catalogue : Catalogue) (indexName : String) :
    catalogue.matching indexName none = catalogue.inIndex indexName :=
  List.filter_eq_self.mpr fun _ _ => rfl

/-- The matching documents, sorted by their keys. -/
def listing (catalogue : Catalogue) (indexName : String) (query : Option Query)
    (sort : Option SortOrder) : List Metadata :=
  (catalogue.matching indexName query).mergeSort fun left right =>
    (SortOrder.way sort).admits (SortOrder.key sort left) (SortOrder.key sort right)

/-- Where a document stands in the order in which the documents were first filed. -/
def position (catalogue : Catalogue) (document : Metadata) : Nat :=
  catalogue.documents.idxOf document

/-- Whether a document stands before another one in a listing: by the keys in the direction of the
sort, and with equal keys by the order of filing. -/
def precedes (catalogue : Catalogue) (sort : Option SortOrder) (left right : Metadata) : Bool :=
  if SortOrder.key sort left = SortOrder.key sort right then
    decide (catalogue.position left ≤ catalogue.position right)
  else (SortOrder.way sort).admits (SortOrder.key sort left) (SortOrder.key sort right)

/-- Of two documents one stands before the other. -/
theorem precedes_total (catalogue : Catalogue) (sort : Option SortOrder) (left right : Metadata) :
    (catalogue.precedes sort left right || catalogue.precedes sort right left) = true := by
  rw [precedes, precedes]
  by_cases same : SortOrder.key sort left = SortOrder.key sort right
  · rw [if_pos same, if_pos same.symm, Bool.or_eq_true, decide_eq_true_eq, decide_eq_true_eq]
    exact Nat.le_total _ _
  · rw [if_neg same, if_neg (Ne.symm same)]
    exact SortDirection.admits_total _ _ _

/-- `precedes` chains. -/
theorem precedes_trans (catalogue : Catalogue) (sort : Option SortOrder)
    (first second third : Metadata) (before : catalogue.precedes sort first second = true)
    (after : catalogue.precedes sort second third = true) :
    catalogue.precedes sort first third = true := by
  rw [precedes] at before after ⊢
  by_cases firstSame : SortOrder.key sort first = SortOrder.key sort second
  · by_cases secondSame : SortOrder.key sort second = SortOrder.key sort third
    · rw [if_pos firstSame, decide_eq_true_eq] at before
      rw [if_pos secondSame, decide_eq_true_eq] at after
      rw [if_pos (firstSame.trans secondSame), decide_eq_true_eq]
      exact Nat.le_trans before after
    · rw [if_neg secondSame] at after
      rw [firstSame, if_neg secondSame]
      exact after
  · rw [if_neg firstSame] at before
    by_cases secondSame : SortOrder.key sort second = SortOrder.key sort third
    · rw [← secondSame, if_neg firstSame]
      exact before
    · rw [if_neg secondSame] at after
      have outer := SortDirection.admits_trans before after
      have different : SortOrder.key sort first ≠ SortOrder.key sort third := by
        intro same
        rw [same] at before
        exact secondSame (SortDirection.admits_antisymm after before)
      rw [if_neg different]
      exact outer

/-- Distinct documents stand at ascending positions. -/
theorem pairwise_position {catalogue : Catalogue} (distinct : catalogue.documents.Nodup) :
    catalogue.documents.Pairwise fun earlier later =>
      catalogue.position earlier ≤ catalogue.position later := by
  rw [List.pairwise_iff_getElem]
  intro first second firstInside secondInside inOrder
  rw [position, position, distinct.idxOf_getElem first firstInside,
    distinct.idxOf_getElem second secondInside]
  exact Nat.le_of_lt inOrder

/-- The matching documents stand in the order of filing. -/
theorem matching_sublist (catalogue : Catalogue) (indexName : String) (query : Option Query) :
    (catalogue.matching indexName query).Sublist catalogue.documents :=
  List.filter_sublist.trans List.filter_sublist

/-- A listing holds the matching documents, each as often as it matches. -/
theorem listing_perm (catalogue : Catalogue) (indexName : String) (query : Option Query)
    (sort : Option SortOrder) :
    (catalogue.listing indexName query sort).Perm (catalogue.matching indexName query) :=
  List.mergeSort_perm _ _

/-- A listing is ordered by the keys, and by the order of filing where keys are equal. -/
theorem pairwise_listing {catalogue : Catalogue} (distinct : catalogue.documents.Nodup)
    (indexName : String) (query : Option Query) (sort : Option SortOrder) :
    (catalogue.listing indexName query sort).Pairwise fun earlier later =>
      catalogue.precedes sort earlier later = true := by
  have inOrder := (pairwise_position distinct).sublist
    (catalogue.matching_sublist indexName query)
  have agree : (catalogue.matching indexName query).Pairwise fun earlier later =>
      (SortOrder.way sort).admits (SortOrder.key sort earlier) (SortOrder.key sort later) =
        catalogue.precedes sort earlier later := by
    refine inOrder.imp ?_
    intro earlier later ordered
    rw [precedes]
    split
    · rename_i same
      rw [same, SortDirection.admits_self, decide_eq_true ordered]
    · rfl
  rw [listing, mergeSort_congr agree]
  exact List.pairwise_mergeSort (catalogue.precedes_trans sort) (catalogue.precedes_total sort) _

/-- Without a sort a listing is in the order of filing. -/
theorem listing_of_no_sort (catalogue : Catalogue) (indexName : String) (query : Option Query) :
    catalogue.listing indexName query none = catalogue.matching indexName query := by
  apply List.mergeSort_of_pairwise
  apply List.pairwise_of_forall
  intro earlier later
  exact SortDirection.admits_self _ _

end Catalogue
end Depot
