import Depot.Index.Statement

/-!
# Fragments of statements

A statement is a text with places marked `?` and a list of values beside it. What a list of values
does to a text is said here on the text alone: the places are filled from left to right. A fragment
is a text whose parentheses are closed within it and whose places take up its values exactly.
Fragments stay fragments when they are put one after the other or into parentheses, and every
condition and every order is one.
-/

namespace Depot

namespace Fragment

/-- The depth in parentheses after a symbol; nothing if it closes one that is not open. -/
def step? (depth : Nat) : Char → Option Nat
  | '(' => some (depth + 1)
  | ')' =>
    match depth with
    | 0 => none
    | outer + 1 => some outer
  | _ => some depth

/-- The depth in parentheses after a text that starts at a depth. -/
def depth? (depth : Nat) (text : List Char) : Option Nat := text.foldlM step? depth

/-- What stands before the parenthesis that closes the last one opened before the text, and what
stands after it, where more parentheses may be open at the start. -/
def enclosed? : Nat → List Char → Option (List Char × List Char)
  | _, [] => none
  | depth, symbol :: rest =>
    match step? depth symbol with
    | none => some ([], rest)
    | some next => (enclosed? next rest).map fun (front, back) => (symbol :: front, back)

/-- Puts values into the places of a text from left to right; places beyond the values stay. -/
def fill : List Char → List String → List Char
  | [], _ => []
  | symbol :: rest, [] => symbol :: rest
  | symbol :: rest, value :: values =>
    if symbol = '?' then value.toList ++ fill rest values
    else symbol :: fill rest (value :: values)

end Fragment

/-- Whether the parentheses of a text are balanced and none is closed before it is opened. -/
def isClosed (text : String) : Bool := Fragment.depth? 0 text.toList == some 0

/-- The number of places in a text. -/
def placesIn (text : String) : Nat := text.toList.count '?'

/-- A text with values in its places. -/
def filled (text : String) (values : List String) : String :=
  String.ofList (Fragment.fill text.toList values)

/-- The text up to the parenthesis that closes the last one opened before it, and the text after
that parenthesis. -/
def enclosedIn? (text : String) : Option (String × String) :=
  (Fragment.enclosed? 0 text.toList).map (Prod.map String.ofList String.ofList)

/-- A text whose parentheses are closed within it and whose places take up some values, with what
it becomes when they are put in. -/
structure Fragment (text : List Char) (values : List String) (whole : List Char) : Prop where
  closed : Fragment.depth? 0 text = some 0
  counted : text.count '?' = values.length
  filled : Fragment.fill text values = whole

namespace Fragment

/-- A symbol does the same at a greater depth. -/
theorem step?_add {depth next : Nat} {symbol : Char} (done : step? depth symbol = some next)
    (outer : Nat) : step? (depth + outer) symbol = some (next + outer) := by
  unfold step? at done ⊢
  split at done
  · cases done
    exact congrArg some (Nat.add_right_comm depth outer 1)
  · cases depth with
    | zero => cases done
    | succ inner =>
      cases done
      rw [Nat.add_right_comm]
  · cases done
    rfl

/-- A text does the same at a greater depth. -/
theorem depth?_add {text : List Char} {depth next : Nat} (done : depth? depth text = some next)
    (outer : Nat) : depth? (depth + outer) text = some (next + outer) := by
  induction text generalizing depth with
  | nil =>
    cases done
    rfl
  | cons symbol rest inductionHypothesis =>
    rw [depth?, List.foldlM_cons] at done
    cases stepped : step? depth symbol with
    | none => rw [stepped] at done; cases done
    | some middle =>
      rw [stepped] at done
      rw [depth?, List.foldlM_cons, step?_add stepped outer]
      exact inductionHypothesis done

/-- The parenthesis that is closed after a text is found behind it. -/
theorem enclosed?_append {front : List Char} {depth next : Nat}
    (done : depth? depth front = some next) (back : List Char) :
    enclosed? depth (front ++ back) =
      (enclosed? next back).map fun (inner, outer) => (front ++ inner, outer) := by
  induction front generalizing depth with
  | nil =>
    cases done
    rw [List.nil_append]
    exact Option.map_id'.symm
  | cons symbol rest inductionHypothesis =>
    rw [depth?, List.foldlM_cons] at done
    cases stepped : step? depth symbol with
    | none => rw [stepped] at done; cases done
    | some middle =>
      rw [stepped] at done
      rw [List.cons_append, enclosed?, stepped]
      simp only [inductionHypothesis done, Option.map_map]
      rfl

/-- Without values a text stays as it is. -/
@[simp] theorem fill_nil (text : List Char) : fill text [] = text := by
  cases text <;> rfl

/-- A symbol that is no place stays where it is. -/
theorem fill_cons_of_ne {symbol : Char} (noPlace : symbol ≠ '?') (rest : List Char)
    (values : List String) : fill (symbol :: rest) values = symbol :: fill rest values := by
  cases values with
  | nil => rw [fill_nil, fill_nil]
  | cons value values => rw [fill, if_neg noPlace]

/-- Values that are as many as the places of a text are used up by it. -/
theorem fill_append {front : List Char} {values : List String}
    (counted : front.count '?' = values.length) (back : List Char) (others : List String) :
    fill (front ++ back) (values ++ others) = fill front values ++ fill back others := by
  induction front generalizing values with
  | nil =>
    rw [List.count_nil, eq_comm, List.length_eq_zero_iff] at counted
    subst counted
    rfl
  | cons symbol rest inductionHypothesis =>
    by_cases isPlace : symbol = '?'
    · subst isPlace
      rw [List.count_cons_self] at counted
      cases values with
      | nil => cases counted
      | cons value values =>
        rw [List.cons_append, List.cons_append, fill, fill, if_pos rfl, if_pos rfl,
          inductionHypothesis (Nat.succ.inj counted), List.append_assoc]
    · rw [List.count_cons_of_ne isPlace] at counted
      rw [List.cons_append, fill_cons_of_ne isPlace, fill_cons_of_ne isPlace,
        inductionHypothesis counted, List.cons_append]

/-- A closed text without places is a fragment that stays as it is. -/
theorem literal {text : List Char} (plain : depth? 0 text = some 0 ∧ text.count '?' = 0) :
    Fragment text [] text :=
  ⟨plain.1, plain.2, fill_nil text⟩

/-- A place is a fragment. -/
theorem place (value : String) : Fragment ['?'] [value] value.toList :=
  ⟨rfl, rfl, List.append_nil _⟩

/-- Two fragments after each other are a fragment. -/
theorem append {front back frontWhole backWhole : List Char} {values others : List String}
    (ofFront : Fragment front values frontWhole) (ofBack : Fragment back others backWhole) :
    Fragment (front ++ back) (values ++ others) (frontWhole ++ backWhole) := by
  refine ⟨?_, ?_, ?_⟩
  · rw [depth?, List.foldlM_append]
    exact (congrArg (Option.bind · (depth? · back)) ofFront.closed).trans ofBack.closed
  · rw [List.count_append, List.length_append, ofFront.counted, ofBack.counted]
  · rw [fill_append ofFront.counted, ofFront.filled, ofBack.filled]

/-- A fragment in parentheses is a fragment. -/
theorem enclose {text whole : List Char} {values : List String}
    (inner : Fragment text values whole) :
    Fragment ('(' :: (text ++ [')'])) values ('(' :: (whole ++ [')'])) := by
  -- Inside another parenthesis the text never comes back below depth 1.
  have opened : depth? 1 text = some 1 := depth?_add inner.closed 1
  refine ⟨?_, ?_, ?_⟩
  · change depth? 1 (text ++ [')']) = some 0
    rw [depth?, List.foldlM_append]
    exact congrArg (Option.bind · (depth? · [')'])) opened
  · rw [List.count_cons_of_ne (by decide), List.count_append, inner.counted]
    rfl
  · rw [fill_cons_of_ne (by decide), ← List.append_nil values, fill_append inner.counted,
      inner.filled]
    rfl

/-- The parenthesis around a fragment is closed right behind it. -/
theorem enclosed?_eq {text whole : List Char} {values : List String}
    (inner : Fragment text values whole) (rest : List Char) :
    enclosed? 0 (text ++ ')' :: rest) = some (text, rest) := by
  rw [enclosed?_append inner.closed]
  exact congrArg (fun front => some (front, rest)) (List.append_nil text)

section

variable {text whole : String} {values : List String}

/-- A fragment is closed. -/
theorem isClosed_eq (fragment : Fragment text.toList values whole.toList) : isClosed text = true :=
  beq_iff_eq.mpr fragment.closed

/-- A fragment has as many places as it takes up values. -/
theorem placesIn_eq (fragment : Fragment text.toList values whole.toList) :
    placesIn text = values.length :=
  fragment.counted

/-- A fragment with its values in its places is whole. -/
theorem filled_eq (fragment : Fragment text.toList values whole.toList) :
    Depot.filled text values = whole := by
  rw [Depot.filled, fragment.filled, String.ofList_toList]

/-- A fragment stays within the parentheses in which it is put. -/
theorem enclosedIn?_eq (fragment : Fragment text.toList values whole.toList) (rest : String) :
    enclosedIn? (text ++ ")" ++ rest) = some (text, rest) := by
  have symbols : (text ++ ")" ++ rest).toList = text.toList ++ ')' :: rest.toList := by
    rw [String.toList_append, String.toList_append, List.append_assoc]
    rfl
  rw [enclosedIn?, symbols, fragment.enclosed?_eq, Option.map_some, Prod.map,
    String.ofList_toList, String.ofList_toList]

end
end Fragment

section

variable {hole : Type} (write : hole → String)

namespace Condition

/-- A condition with its operands written in their places. -/
def written : Condition hole → String
  | constant value => if value then "1 = 1" else "1 = 0"
  | owned => "f.document_id = d.id"
  | compare column comparison operand =>
    column.text ++ " " ++ comparison.operator ++ " " ++ write operand
  | among column operands =>
    column.text ++ " IN (" ++ ", ".intercalate (operands.map write) ++ ")"
  | joined connective left right => written left ++ connective.text ++ written right
  | grouped inner => "(" ++ written inner ++ ")"
  | fieldExists inner => "EXISTS (SELECT 1 FROM document_fields f WHERE " ++ written inner ++ ")"

/-- The written form of a condition has marks in its places. -/
theorem text_shape (condition : Condition hole) :
    condition.shape.text = condition.written fun _ => "?" := by
  induction condition with
  | constant value => rfl
  | owned => rfl
  | compare column comparison operand =>
    have spaced : " ?" = " " ++ "?" := rfl
    change column.text ++ " " ++ comparison.operator ++ " ?" = _
    rw [spaced, ← String.append_assoc]
    rfl
  | among column operands =>
    change column.text ++ " IN (" ++ ", ".intercalate ((operands.map fun _ => ()).map _) ++ ")" = _
    rw [List.map_map]
    rfl
  | joined connective left right ofLeft ofRight =>
    change left.shape.text ++ connective.text ++ right.shape.text = _
    rw [ofLeft, ofRight]
    rfl
  | grouped inner ofInner => exact congrArg (fun text => "(" ++ text ++ ")") ofInner
  | fieldExists inner ofInner =>
    exact congrArg
      (fun text => "EXISTS (SELECT 1 FROM document_fields f WHERE " ++ text ++ ")") ofInner

/-- Where nothing is in the places there is nothing to forget. -/
theorem shape_self (condition : Condition Unit) : condition.shape = condition := by
  induction condition with
  | among column operands => exact congrArg (among column) (List.map_id' operands)
  | joined connective left right ofLeft ofRight => rw [shape, ofLeft, ofRight]
  | grouped inner ofInner => rw [shape, ofInner]
  | fieldExists inner ofInner => rw [shape, ofInner]
  | _ => rfl

/-- The symbols of a comparison. -/
theorem toList_compare (column : Column) (comparison : Comparison) (operand : hole) :
    (written write (compare column comparison operand)).toList =
      (column.text ++ " " ++ comparison.operator ++ " ").toList ++ (write operand).toList :=
  String.toList_append

/-- The symbols of a choice. -/
theorem toList_among (column : Column) (operands : List hole) :
    (written write (among column operands)).toList = (column.text ++ " IN ").toList ++
      '(' :: ((", ".intercalate (operands.map write)).toList ++ [')']) := by
  change (column.text ++ " IN (" ++ ", ".intercalate (operands.map write) ++ ")").toList = _
  simp only [String.toList_append, List.append_assoc]
  rfl

/-- The symbols of two joined conditions. -/
theorem toList_joined (connective : Connective) (left right : Condition hole) :
    (written write (joined connective left right)).toList =
      (written write left).toList ++ connective.text.toList ++ (written write right).toList := by
  rw [← String.toList_append, ← String.toList_append]
  rfl

/-- The symbols of a condition in parentheses. -/
theorem toList_grouped (inner : Condition hole) :
    (written write (grouped inner)).toList = '(' :: ((written write inner).toList ++ [')']) := by
  change ("(" ++ written write inner ++ ")").toList = _
  rw [String.toList_append, String.toList_append]
  rfl

/-- The symbols of an existence test. -/
theorem toList_fieldExists (inner : Condition hole) :
    (written write (fieldExists inner)).toList = "EXISTS ".toList ++
      '(' :: ("SELECT 1 FROM document_fields f WHERE ".toList ++ (written write inner).toList ++
        [')']) := by
  change ("EXISTS (SELECT 1 FROM document_fields f WHERE " ++ written write inner ++ ")").toList = _
  rw [String.toList_append, String.toList_append]
  rfl

/-- A list of places is a fragment. -/
theorem fragment_places (operands : List hole) :
    Fragment (", ".intercalate (operands.map fun _ => "?")).toList (operands.map write)
      (", ".intercalate (operands.map write)).toList := by
  have mark : "?".toList = ['?'] := rfl
  simp only [String.toList_intercalate, List.map_map, Function.comp_def, mark]
  induction operands with
  | nil => exact .literal ⟨rfl, rfl⟩
  | cons first rest inductionHypothesis =>
    cases rest with
    | nil =>
      simp only [List.map_cons, List.map_nil, List.intercalate_singleton]
      exact .place (write first)
    | cons second others =>
      simp only [List.map_cons, List.intercalate_cons_cons] at inductionHypothesis ⊢
      have comma : Fragment ", ".toList [] _ := .literal (by decide +kernel)
      exact ((Fragment.place (write first)).append comma).append inductionHypothesis

/-- Every condition is a fragment that takes up its operands. -/
theorem fragment (condition : Condition hole) :
    Fragment condition.shape.text.toList (condition.operands.map write)
      (condition.written write).toList := by
  rw [text_shape]
  induction condition with
  | constant value =>
    have plain : Fragment (if value then "1 = 1" else "1 = 0").toList [] _ :=
      .literal (by cases value <;> decide +kernel)
    exact plain
  | owned =>
    have plain : Fragment "f.document_id = d.id".toList [] _ := .literal (by decide +kernel)
    exact plain
  | compare column comparison operand =>
    have front : Fragment (column.text ++ " " ++ comparison.operator ++ " ").toList [] _ :=
      .literal (by cases column <;> cases comparison <;> decide +kernel)
    rw [toList_compare, toList_compare]
    exact front.append (.place (write operand))
  | among column values =>
    have front : Fragment (column.text ++ " IN ").toList [] _ :=
      .literal (by cases column <;> decide +kernel)
    rw [toList_among, toList_among]
    exact front.append (fragment_places write values).enclose
  | joined connective left right ofLeft ofRight =>
    have between : Fragment connective.text.toList [] _ :=
      .literal (by cases connective <;> decide +kernel)
    have whole := (ofLeft.append between).append ofRight
    rw [List.append_nil] at whole
    rw [toList_joined, toList_joined, operands, List.map_append]
    exact whole
  | grouped inner ofInner =>
    rw [toList_grouped, toList_grouped]
    exact ofInner.enclose
  | fieldExists inner ofInner =>
    have front : Fragment "EXISTS ".toList [] _ :=
      .literal (by decide +kernel)
    have select : Fragment "SELECT 1 FROM document_fields f WHERE ".toList [] _ :=
      .literal (by decide +kernel)
    rw [toList_fieldExists, toList_fieldExists]
    exact front.append (select.append ofInner).enclose

end Condition

namespace OrderKey

/-- Forgets what is in the place. -/
def shape : OrderKey hole → OrderKey Unit
  | filing => filing
  | documentId => documentId
  | field _ => field ()

/-- What is in the place, if there is one. -/
def operands : OrderKey hole → List hole
  | field name => [name]
  | _ => []

/-- An order in a direction with its operand written in its place. -/
def written (direction : SortDirection) : OrderKey hole → String
  | filing => "ORDER BY d.id ASC"
  | documentId => "ORDER BY d.doc_id " ++ OrderClause.directionText direction ++ ", d.id ASC"
  | field name =>
    "ORDER BY (SELECT f.value FROM document_fields f WHERE f.document_id = d.id " ++
      "AND f.name = " ++ write name ++ ") " ++ OrderClause.directionText direction ++ ", d.id ASC"

/-- The written form of an order has a mark in its place. -/
theorem text_shape (key : OrderKey hole) (direction : SortDirection)
    (parameters : List Parameter) :
    OrderClause.text ⟨key.shape, direction, parameters⟩ =
      key.written (fun _ => "?") direction := by
  cases key <;> cases direction <;> rfl

/-- The query for the value of a field, up to the name of the field. -/
def select : String :=
  "SELECT f.value FROM document_fields f WHERE f.document_id = d.id AND f.name = "

/-- The symbols of an order by a field. -/
theorem toList_field (direction : SortDirection) (name : hole) :
    (written write direction (field name)).toList =
      "ORDER BY ".toList ++ '(' :: (select.toList ++ (write name).toList ++ [')']) ++
        (" " ++ OrderClause.directionText direction ++ ", d.id ASC").toList := by
  have opening :
      "ORDER BY (SELECT f.value FROM document_fields f WHERE f.document_id = d.id ".toList ++
        "AND f.name = ".toList = "ORDER BY ".toList ++ '(' :: select.toList := by
    decide +kernel
  have closing : ") ".toList = [')'] ++ " ".toList := rfl
  change ("ORDER BY (SELECT f.value FROM document_fields f WHERE f.document_id = d.id " ++
    "AND f.name = " ++ write name ++ ") " ++ OrderClause.directionText direction ++
    ", d.id ASC").toList = _
  simp only [String.toList_append, opening, closing]
  simp only [List.append_assoc, List.cons_append]

/-- Every order is a fragment that takes up its operand. -/
theorem fragment (key : OrderKey hole) (direction : SortDirection) (parameters : List Parameter) :
    Fragment (OrderClause.text ⟨key.shape, direction, parameters⟩).toList (key.operands.map write)
      (key.written write direction).toList := by
  rw [text_shape]
  cases key with
  | filing =>
    have plain : Fragment "ORDER BY d.id ASC".toList [] _ := .literal (by decide +kernel)
    exact plain
  | documentId =>
    have plain : Fragment ("ORDER BY d.doc_id " ++ OrderClause.directionText direction ++
        ", d.id ASC").toList [] _ :=
      .literal (by cases direction <;> decide +kernel)
    exact plain
  | field name =>
    have front : Fragment "ORDER BY ".toList [] _ := .literal (by decide +kernel)
    have inner : Fragment select.toList [] _ := .literal (by decide +kernel)
    have back : Fragment (" " ++ OrderClause.directionText direction ++ ", d.id ASC").toList [] _ :=
      .literal (by cases direction <;> decide +kernel)
    rw [toList_field, toList_field]
    exact (front.append (inner.append (.place (write name))).enclose).append back

end OrderKey
end
end Depot
