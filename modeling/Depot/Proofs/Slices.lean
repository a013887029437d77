import Depot.Paging
import Mathlib.Data.List.Basic

/-!
# Slices

A page is a slice of a listing with the numbers of the request and the length of the listing. The
slices of one size follow each other without a gap, and the number of pages and whether a page
comes next follow from the length.
-/

namespace Depot.Page

variable {α : Type}

/-- The slice of a listing that a request asks for. -/
def slice (listing : List α) (request : PageRequest) : Page α :=
  ⟨(listing.drop request.offset).take request.size, listing.length, request.page, request.size⟩

/-- A number is below the number of pages exactly when something stands at its start. -/
theorem lt_totalPages_iff {page : Page α} (positive : 0 < page.pageSize) (number : Int) :
    number < page.totalPages ↔ number * page.pageSize < page.totalElements := by
  have divided := Int.ediv_lt_iff_lt_mul (a := -page.totalElements) (b := -number) positive
  rw [Int.neg_mul] at divided
  rw [totalPages, if_neg (by omega), Int.fdiv_eq_ediv_of_nonneg _ (by omega)]
  constructor
  · intro below
    have scaled := divided.mp (by omega)
    omega
  · intro started
    have below := divided.mpr (by omega)
    omega

/-- A slice is before the number of pages exactly when something stands at its start. -/
theorem lt_totalPages_slice_iff (listing : List α) (request : PageRequest) (number : Nat) :
    (number : Int) < (slice listing request).totalPages ↔
      number * request.size < listing.length := by
  have positive : 0 < (slice listing request).pageSize := Int.natCast_pos.mpr request.size_pos
  rw [lt_totalPages_iff positive, slice, ← Int.natCast_mul, Int.ofNat_lt]

/-- As many slices as there are pages hold the whole listing. -/
theorem length_le_of_totalPages_le {listing : List α} {request : PageRequest} {count : Nat}
    (all : (slice listing request).totalPages ≤ count) :
    listing.length ≤ count * request.size := by
  have notStarted := mt (lt_totalPages_slice_iff listing request count).mpr (by omega)
  exact Nat.le_of_not_lt notStarted

/-- A slice has no more items than its size. -/
theorem length_slice_le (listing : List α) (request : PageRequest) :
    (slice listing request).content.length ≤ request.size :=
  List.length_take_le _ _

/-- A slice has items exactly when something stands at its start. -/
theorem slice_ne_nil_iff (listing : List α) (request : PageRequest) :
    (slice listing request).content ≠ [] ↔ request.offset < listing.length := by
  have positive := request.size_pos
  rw [slice, ne_eq, List.take_eq_nil_iff, List.drop_eq_nil_iff]
  omega

/-- A slice from the number of pages on is empty. -/
theorem slice_eq_nil {listing : List α} {request : PageRequest}
    (beyond : (slice listing request).totalPages ≤ request.page) :
    (slice listing request).content = [] := by
  have notBefore := mt (lt_totalPages_slice_iff listing request request.page).mpr (by omega)
  exact Decidable.not_not.mp (mt (slice_ne_nil_iff listing request).mp notBefore)

/-- A slice says that a page comes next exactly when the next slice has items. -/
theorem hasNext_slice_iff (listing : List α) {request following : PageRequest}
    (next : following.page = request.page + 1) (sameSize : following.size = request.size) :
    (slice listing request).hasNext = true ↔ (slice listing following).content ≠ [] := by
  have started := lt_totalPages_slice_iff listing request (request.page + 1)
  rw [slice_ne_nil_iff, PageRequest.offset, next, sameSize, ← started, hasNext, decide_eq_true_eq,
    slice, Int.natCast_add]
  rfl

/-- The slices of one size follow each other. -/
theorem flatMap_slices (listing : List α) (size count : Nat) :
    ((List.range count).flatMap fun number => (listing.drop (number * size)).take size) =
      listing.take (count * size) := by
  induction count with
  | zero => simp
  | succ count inductionHypothesis =>
    rw [List.range_succ, List.flatMap_append, inductionHypothesis, List.flatMap_singleton,
      Nat.succ_mul, List.take_add]

end Depot.Page
