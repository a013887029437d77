import Depot.Datum.Literal

/-!
# Pages and orders

A page request names a zero-based page, a page size and an order; both numbers are
checked when the request is made. A page carries its items, the size of the whole
result, and the numbers that follow from them.
-/

namespace Depot

/-- The order of a result: by a field, in a direction. Both are checked when a
selection is made of it. -/
structure SortOrder where
  field : Datum
  direction : Datum

/-- The two directions of an order. -/
inductive SortDirection where
  | ascending
  | descending
  deriving DecidableEq

namespace SortDirection

/-- The name of a direction in requests. -/
def label : SortDirection → String
  | ascending => "asc"
  | descending => "desc"

/-- The direction that a datum names. -/
def ofDatum? : Datum → Option SortDirection
  | .text name =>
    if name = ascending.label then some ascending
    else if name = descending.label then some descending
    else none
  | _ => none

end SortDirection

/-- The page size of a request that names none. -/
def defaultPageSize : Nat := 20

/-- What can be wrong with the numbers of a page request. -/
inductive PageError where
  | negativePage
  | emptyPage
  deriving DecidableEq

/-- The wording of a page error. -/
def PageError.message : PageError → String
  | negativePage => "Page number must be >= 0"
  | emptyPage => "Page size must be >= 1"

/-- A page of a result. -/
structure PageRequest where
  page : Nat
  size : Nat
  sort : Option SortOrder
  size_pos : 0 < size

namespace PageRequest

/-- The request for a page, or the first number that is out of range. -/
def make (page size : Int) (sort : Option SortOrder) : Except PageError PageRequest :=
  if page < 0 then .error .negativePage
  else if positive : 1 ≤ size then .ok ⟨page.toNat, size.toNat, sort, by omega⟩
  else .error .emptyPage

/-- The number of items before the page. -/
def offset (request : PageRequest) : Nat := request.page * request.size

end PageRequest

/-- One page of a result. -/
structure Page (α : Type) where
  content : List α
  totalElements : Int
  pageNumber : Int
  pageSize : Int

namespace Page

variable {α β : Type}

/-- The number of pages that hold the whole result; the last one may be short. -/
def totalPages (page : Page α) : Int :=
  if page.pageSize ≤ 0 then 0 else -(Int.fdiv (-page.totalElements) page.pageSize)

/-- Whether a page comes after this one. -/
def hasNext (page : Page α) : Bool := page.pageNumber + 1 < page.totalPages

/-- A page as a record, with its items as they are given. -/
def toDatum (item : α → Datum) (page : Page α) : Datum :=
  .record [
    ("content", .sequence (page.content.map item)),
    ("total_elements", .integer page.totalElements),
    ("page_number", .integer page.pageNumber),
    ("page_size", .integer page.pageSize),
    ("total_pages", .integer page.totalPages)]

/-- The same page with other items. -/
def withContent (page : Page α) (content : List β) : Page β :=
  ⟨content, page.totalElements, page.pageNumber, page.pageSize⟩

end Page
end Depot
