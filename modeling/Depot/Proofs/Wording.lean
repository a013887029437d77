import Depot.Proofs.Asking
import Depot.Proofs.Searching

/-!
# What statements say

The statements of a selection put its condition into parentheses, and their parameters stand beside
them in one list. Whatever an accepted query and sort ask for is what the statements say: the text
of the condition is read back as the condition, nothing in it reaches out of its parentheses, and
the parameters fill the places of the whole statement with the values that were meant for them.
-/

namespace Depot

/-- What a sort asks for: the order of a name in a direction, or without a sort that of filing. -/
inductive SortOrder.Asks : Option SortOrder → OrderKey Parameter → SortDirection → Prop
  | filing : Asks none .filing .ascending
  | documentId {sort : SortOrder} {direction : SortDirection}
    (reads : sort.reading? = some ((FieldName.identifier : Text), direction)) :
    Asks (some sort) .documentId direction
  | field {sort : SortOrder} {name : Text} {direction : SortDirection}
    (reads : sort.reading? = some (name, direction)) (ordinary : name ≠ FieldName.identifier) :
    Asks (some sort) (.field (.text name)) direction

/-- The order of an accepted sort writes down what the sort asks for. -/
theorem OrderClause.words_ofSort {sort : Option SortOrder} {order : OrderClause}
    (accepted : ofSort sort = .ok order) :
    ∃ key, SortOrder.Asks sort key order.direction ∧ key.shape = order.key ∧
      key.operands = order.parameters := by
  cases sort with
  | none =>
    cases accepted
    exact ⟨.filing, .filing, rfl, rfl⟩
  | some sort =>
    obtain ⟨name, direction, -, reads, ⟨rfl, rfl⟩ | ⟨ordinary, rfl⟩⟩ := of_ofSort accepted
    · exact ⟨.documentId, .documentId reads, rfl, rfl⟩
    · exact ⟨.field (.text name), .field reads ordinary, rfl, rfl⟩

namespace Selection

/-- What comes before the condition in the statement that counts, up to its place. -/
def countOpening : String := "SELECT COUNT(*) FROM documents d WHERE d.index_name = "

/-- What comes before the condition in the statement that fetches a page, up to its place. -/
def pageOpening : String :=
  "SELECT d.id, d.index_name, d.doc_id, d.hash, d.content_type FROM documents d " ++
    "WHERE d.index_name = "

/-- The statements of a selection say what is asked for: a condition and an order with their
values. -/
structure States (selection : Selection) (condition : Condition Parameter)
    (key : OrderKey Parameter) : Prop where
  /-- No parenthesis of the condition or of the order is open at its end or closed before it is
  opened. -/
  closed : isClosed selection.condition.text = true ∧ isClosed selection.order.text = true
  /-- There are as many places as parameters. -/
  counted : placesIn selection.condition.text = selection.condition.parameters.length ∧
    placesIn selection.order.text = selection.order.parameters.length
  /-- At each level of its parentheses the condition has AND only or OR only. -/
  unmixed : Condition.isUnmixed selection.condition.text = true
  /-- The text of the condition is read as the condition. -/
  reads : Condition.read? selection.condition.text = some condition.shape
  /-- The condition stays within the parentheses in which it is put into the statements. -/
  enclosed : ∃ countRest pageRest,
    selection.countText = countOpening ++ "? AND (" ++ countRest ∧
    enclosedIn? countRest = some (selection.condition.text, "") ∧
    selection.pageText = pageOpening ++ "? AND (" ++ pageRest ∧
    enclosedIn? pageRest =
      some (selection.condition.text, " " ++ selection.order.text ++ " LIMIT ? OFFSET ?")
  /-- Binding hands the parameters of the condition over to it and leaves the others. -/
  bound : ∀ others, selection.condition.condition.bind? (selection.condition.parameters ++ others) =
    some (condition, others)
  /-- The parameters of the count stand where they are meant to stand, however they are written. -/
  countFilled : ∀ (write : Parameter → String) (indexName : Text),
    placesIn selection.countText = (selection.countParameters indexName).length ∧
    filled selection.countText ((selection.countParameters indexName).map write) =
      countOpening ++ write (.text indexName) ++ " AND (" ++ condition.written write ++ ")"
  /-- The parameters of the page stand where they are meant to stand, however they are written. -/
  pageFilled : ∀ (write : Parameter → String) (indexName : Text) (request : PageRequest),
    placesIn selection.pageText = (selection.pageParameters indexName request).length ∧
    filled selection.pageText ((selection.pageParameters indexName request).map write) =
      pageOpening ++ write (.text indexName) ++ " AND (" ++ condition.written write ++ ") " ++
        key.written write selection.order.direction ++ " LIMIT " ++ write (.integer request.size) ++
        " OFFSET " ++ write (.integer request.offset)

section

variable {selection : Selection} {condition : Condition Parameter} {key : OrderKey Parameter}

/-- The symbols of the statement that counts. -/
theorem toList_countText (selection : Selection) :
    selection.countText.toList = countOpening.toList ++ ['?'] ++ " AND ".toList ++
      '(' :: (selection.condition.text.toList ++ [')']) := by
  have opening : "SELECT COUNT(*) FROM documents d WHERE d.index_name = ? AND (".toList =
      countOpening.toList ++ ['?'] ++ " AND ".toList ++ ['('] := by
    decide +kernel
  change ("SELECT COUNT(*) FROM documents d WHERE d.index_name = ? AND (" ++
    selection.condition.text ++ ")").toList = _
  rw [String.toList_append, String.toList_append, opening, List.append_assoc, List.append_assoc]
  rfl

/-- The symbols of the statement that fetches a page. -/
theorem toList_pageText (selection : Selection) :
    selection.pageText.toList = pageOpening.toList ++ ['?'] ++ " AND ".toList ++
      '(' :: (selection.condition.text.toList ++ [')']) ++ " ".toList ++
      selection.order.text.toList ++ " LIMIT ".toList ++ ['?'] ++ " OFFSET ".toList ++ ['?'] := by
  have opening : ("SELECT d.id, d.index_name, d.doc_id, d.hash, d.content_type FROM documents d " ++
      "WHERE d.index_name = ? AND (").toList =
      pageOpening.toList ++ ['?'] ++ " AND ".toList ++ ['('] := by
    decide +kernel
  have closing : ") ".toList = [')'] ++ " ".toList := rfl
  have ending : " LIMIT ? OFFSET ?".toList =
      " LIMIT ".toList ++ ['?'] ++ " OFFSET ".toList ++ ['?'] :=
    rfl
  change ("SELECT d.id, d.index_name, d.doc_id, d.hash, d.content_type FROM documents d " ++
    "WHERE d.index_name = ? AND (" ++ selection.condition.text ++ ") " ++ selection.order.text ++
    " LIMIT ? OFFSET ?").toList = _
  rw [String.toList_append, String.toList_append, String.toList_append, String.toList_append,
    opening, closing, ending]
  simp only [List.append_assoc, List.cons_append, List.nil_append]

/-- The statement that counts is a fragment that takes up the index name and the values of the
condition. -/
theorem fragment_countText (write : Parameter → String) (name : String)
    (writes : selection.condition.WritesDown condition) :
    Fragment selection.countText.toList (name :: selection.condition.parameters.map write)
      (countOpening ++ name ++ " AND (" ++ condition.written write ++ ")").toList := by
  have opening : Fragment countOpening.toList [] _ := .literal (by decide +kernel)
  have connective : Fragment " AND ".toList [] _ := .literal (by decide +kernel)
  have inner := condition.fragment write
  rw [writes.shape, writes.operands] at inner
  have whole := ((opening.append (.place name)).append connective).append inner.enclose
  rw [toList_countText]
  have full : (countOpening ++ name ++ " AND (" ++ condition.written write ++ ")").toList =
      countOpening.toList ++ name.toList ++ " AND ".toList ++
        '(' :: ((condition.written write).toList ++ [')']) := by
    simp only [String.toList_append, List.append_assoc]
    rfl
  rw [full]
  exact whole

/-- The statement that fetches a page is a fragment that takes up the index name, the values of the
condition, that of the order, the size of the page and the number of rows before it. -/
theorem fragment_pageText (write : Parameter → String) (name size offset : String)
    (writes : selection.condition.WritesDown condition) (isKey : key.shape = selection.order.key)
    (named : key.operands = selection.order.parameters) :
    Fragment selection.pageText.toList
      (name :: (selection.condition.parameters.map write ++
        selection.order.parameters.map write ++ [size, offset]))
      (pageOpening ++ name ++ " AND (" ++ condition.written write ++ ") " ++
        key.written write selection.order.direction ++ " LIMIT " ++ size ++ " OFFSET " ++
        offset).toList := by
  have opening : Fragment pageOpening.toList [] _ := .literal (by decide +kernel)
  have connective : Fragment " AND ".toList [] _ := .literal (by decide +kernel)
  have space : Fragment " ".toList [] _ := .literal (by decide +kernel)
  have limit : Fragment " LIMIT ".toList [] _ := .literal (by decide +kernel)
  have offsetWord : Fragment " OFFSET ".toList [] _ := .literal (by decide +kernel)
  have inner := condition.fragment write
  rw [writes.shape, writes.operands] at inner
  have order := key.fragment write selection.order.direction selection.order.parameters
  rw [isKey, named] at order
  have whole := ((((((((opening.append (.place name)).append connective).append
    inner.enclose).append space).append order).append limit).append (.place size)).append
    offsetWord).append (.place offset)
  have closing : ") ".toList = [')'] ++ " ".toList := rfl
  have inside : " AND (".toList = " AND ".toList ++ ['('] := rfl
  rw [toList_pageText]
  simp only [String.toList_append, closing, inside, List.append_assoc, List.cons_append,
    List.nil_append] at whole ⊢
  exact whole

/-- What a selection writes down is what its statements say. -/
theorem states_of_writesDown (writes : selection.condition.WritesDown condition)
    (legible : condition.isLegible = true) (isKey : key.shape = selection.order.key)
    (named : key.operands = selection.order.parameters) : selection.States condition key := by
  have ofCondition := condition.fragment fun _ : Parameter => "?"
  have ofOrder := key.fragment (fun _ : Parameter => "?") selection.order.direction
    selection.order.parameters
  rw [writes.shape, writes.operands] at ofCondition
  rw [isKey, named] at ofOrder
  have shapeLegible : selection.condition.condition.isLegible = true := by
    rw [← writes.shape, Condition.isLegible_shape, legible]
  refine ⟨⟨ofCondition.isClosed_eq, ofOrder.isClosed_eq⟩, ⟨?_, ?_⟩,
    Condition.isUnmixed_text shapeLegible, ?_, ⟨_, _, ?_, ofCondition.enclosedIn?_eq "", ?_,
      ofCondition.enclosedIn?_eq _⟩, ?_, ?_, ?_⟩
  · exact ofCondition.placesIn_eq.trans (List.length_map _)
  · exact ofOrder.placesIn_eq.trans (List.length_map _)
  · rw [writes.shape]
    exact Condition.read?_text shapeLegible
  · rw [← String.toList_inj, toList_countText]
    simp only [String.toList_append, List.append_assoc]
    rfl
  · rw [← String.toList_inj, toList_pageText]
    simp only [String.toList_append, List.append_assoc, List.cons_append]
    rfl
  · intro others
    rw [← writes.shape, ← writes.operands]
    exact condition.bind?_shape others
  · intro write indexName
    have whole := fragment_countText write (write (.text indexName)) writes
    exact ⟨whole.placesIn_eq.trans (by simp [countParameters]), whole.filled_eq⟩
  · intro write indexName request
    have whole := fragment_pageText write (write (.text indexName)) (write (.integer request.size))
      (write (.integer request.offset)) writes isKey named
    refine ⟨whole.placesIn_eq.trans (by simp [pageParameters]), ?_⟩
    rw [← whole.filled_eq, pageParameters, List.map_cons, List.map_append, List.map_append]
    rfl

end

/-- The statements of an accepted query and an accepted sort say what the two ask for: a query asks
for a condition, no query for all documents, and a sort for an order. -/
theorem states_ofQuery {query : Option Query} {sort : Option SortOrder} {selection : Selection}
    (accepted : ofQuery query sort = .ok selection) :
    ∃ condition key, (∀ given ∈ query, given.Asks condition) ∧
      (query = none → condition = .constant true) ∧
      SortOrder.Asks sort key selection.order.direction ∧ selection.States condition key := by
  obtain ⟨ofCondition, ofOrder⟩ := of_ofQuery accepted
  obtain ⟨key, ordered, isKey, named⟩ := OrderClause.words_ofSort ofOrder
  rcases ofCondition with ⟨rfl, isEverything⟩ | ⟨given, rfl, judged⟩
  · have writes : selection.condition.WritesDown (.constant true) := by
      rw [isEverything]
      exact ⟨rfl, rfl⟩
    exact ⟨_, key, nofun, fun _ => rfl, ordered, states_of_writesDown writes rfl isKey named⟩
  · obtain ⟨condition, asks, writes, legible⟩ := Clause.words_ofQuery judged
    refine ⟨condition, key, ?_, nofun, ordered, states_of_writesDown writes legible isKey named⟩
    rintro other ⟨⟩
    exact asks

/-- An identifier between two bounds, or a value out of three of two kinds. -/
def identifierOrValue : Query :=
  .composite .any [.range (.text "_id") (.text "a") (.text "m"),
    .among (.text "b") [.integer 1, .text "x", .integer 2]]

/-- A range of identifiers with two bounds stands in parentheses of its own beside OR, and the sort
takes its parameter after those of the query. -/
theorem states_ofQuery_identifierOrValue :
    ∃ selection condition key,
      ofQuery (some identifierOrValue) (some ⟨.text "b", .text "desc"⟩) = .ok selection ∧
      selection.condition.text = "(d.doc_id >= ? AND d.doc_id <= ?) OR (EXISTS (SELECT 1 FROM " ++
        "document_fields f WHERE f.document_id = d.id AND f.name = ? AND ((f.kind = ? AND " ++
        "f.value IN (?, ?)) OR (f.kind = ? AND f.value IN (?)))))" ∧
      identifierOrValue.Asks condition ∧
      SortOrder.Asks (some ⟨.text "b", .text "desc"⟩) key .descending ∧
      selection.States condition key := by
  have accepted : ofQuery (some identifierOrValue) (some ⟨.text "b", .text "desc"⟩) = .ok _ := rfl
  obtain ⟨condition, key, asks, -, ordered, states⟩ := states_ofQuery accepted
  exact ⟨_, condition, key, accepted, by decide +kernel, asks _ rfl, ordered, states⟩

end Selection
end Depot
