import Depot.Index.Connection

/-!
# What the index can keep

Texts with halves of surrogate pairs are accepted almost everywhere, but the index cannot keep
them. For the texts that it can keep, the encoding functions are total: this module gives the
total functions, and the rows in which the fields of a document are kept.
-/

namespace Depot

namespace Text

/-- Whether a text has characters alone, so that the index can keep it. -/
def isEncodable (text : Text) : Bool := text.encodingFault?.isNone

/-- A text of characters alone is encoded without a change. -/
theorem encode_of_isEncodable {text : Text} (encodable : text.isEncodable = true) :
    text.encode = .ok text.toStringLossy := by
  have faultless : text.encodingFault? = none := Option.isNone_iff_eq_none.mp encodable
  rw [encode, faultless]

/-- Any other text is refused. -/
theorem encode_of_not_isEncodable {text : Text} (refused : text.isEncodable = false) :
    ∃ fault, text.encode = .error fault := by
  rw [isEncodable, Option.isNone_eq_false_iff, Option.isSome_iff_exists] at refused
  obtain ⟨fault, found⟩ := refused
  exact ⟨fault, by rw [encode, found]⟩

/-- Encoding loses nothing. -/
theorem ofString_toStringLossy {text : Text} (encodable : text.isEncodable = true) :
    ofString text.toStringLossy = text :=
  ofString_of_encode (encode_of_isEncodable encodable)

/-- Strings can be encoded. -/
@[simp] theorem isEncodable_ofString (text : String) : (ofString text).isEncodable = true := by
  rw [isEncodable, encodingFault?, ofString, ofChars, encodingFaultFrom_map_char]
  rfl

/-- A string is encoded as itself. -/
@[simp] theorem toStringLossy_ofString (text : String) : (ofString text).toStringLossy = text := by
  apply ofString_injective
  exact ofString_toStringLossy (isEncodable_ofString text)

/-- Texts that can be encoded are the same when they are encoded as the same string. -/
theorem toStringLossy_inj {left right : Text} (leftEncodable : left.isEncodable = true)
    (rightEncodable : right.isEncodable = true) :
    left.toStringLossy = right.toStringLossy ↔ left = right := by
  constructor
  · intro same
    rw [← ofString_toStringLossy leftEncodable, same, ofString_toStringLossy rightEncodable]
  · rintro rfl
    rfl

end Text

namespace FieldValue

/-- Whether the index can keep a value. -/
def isEncodable : FieldValue → Bool
  | text value => value.isEncodable
  | _ => true

/-- The form in which the index keeps a value. -/
def stored : FieldValue → StoredValue
  | boolean value => .integer (if value then 1 else 0)
  | integer value => .integer value
  | real value => .real value
  | text value => .text value.toStringLossy

/-- A value that can be kept is handed over in its stored form. -/
theorem encode_parameter {value : FieldValue} (encodable : value.isEncodable = true) :
    value.parameter.encode = .ok value.stored := by
  cases value with
  | text value => rw [parameter, Parameter.encode, Text.encode_of_isEncodable encodable]; rfl
  | _ => rfl

/-- Any other value is refused. -/
theorem encode_parameter_of_not {value : FieldValue} (refused : value.isEncodable = false) :
    ∃ fault, value.parameter.encode = .error fault := by
  cases value with
  | text value =>
    obtain ⟨fault, failed⟩ := Text.encode_of_not_isEncodable refused
    exact ⟨fault, by rw [parameter, Parameter.encode, failed]; rfl⟩
  | _ => cases refused

end FieldValue

namespace Field

/-- Whether the index can keep the name and the value of a field. -/
def isEncodable (field : Field) : Bool := field.name.isEncodable && field.value.isEncodable

/-- The row in which the index keeps a field. -/
def row (field : Field) (owner position : Nat) : FieldRow :=
  ⟨owner, position, field.name.toStringLossy, field.value.kind.label, field.value.stored⟩

/-- The rows in which the index keeps fields whose first one has a position. -/
def rows (owner position : Nat) : List Field → List FieldRow
  | [] => []
  | field :: rest => field.row owner position :: rows owner (position + 1) rest

/-- The name and the value of a field that can be kept. -/
theorem isEncodable_iff (field : Field) :
    field.isEncodable = true ↔ field.name.isEncodable = true ∧ field.value.isEncodable = true := by
  rw [isEncodable, Bool.and_eq_true]

/-- A field that can be kept has a row. -/
theorem ofField_of_isEncodable {field : Field} (encodable : field.isEncodable = true)
    (owner position : Nat) :
    FieldRow.ofField owner position field = .ok (field.row owner position) := by
  obtain ⟨nameEncodable, valueEncodable⟩ := field.isEncodable_iff.mp encodable
  rw [FieldRow.ofField, Text.encode_of_isEncodable nameEncodable,
    FieldValue.encode_parameter valueEncodable]
  rfl

/-- Any other field has none. -/
theorem ofField_of_not_isEncodable {field : Field} (refused : field.isEncodable = false)
    (owner position : Nat) : ∃ fault, FieldRow.ofField owner position field = .error fault := by
  cases nameEncodable : field.name.isEncodable with
  | false =>
    obtain ⟨fault, failed⟩ := Text.encode_of_not_isEncodable nameEncodable
    exact ⟨fault, by rw [FieldRow.ofField, failed]; rfl⟩
  | true =>
    have valueRefused : field.value.isEncodable = false := by
      simpa [isEncodable, nameEncodable] using refused
    obtain ⟨fault, failed⟩ := FieldValue.encode_parameter_of_not valueRefused
    refine ⟨fault, ?_⟩
    rw [FieldRow.ofField, Text.encode_of_isEncodable nameEncodable, failed]
    rfl

/-- A field reads back from its row. -/
theorem toField_row {field : Field} (encodable : field.isEncodable = true) (owner position : Nat) :
    (field.row owner position).toField = .ok field := by
  obtain ⟨nameEncodable, valueEncodable⟩ := field.isEncodable_iff.mp encodable
  have restored := Datum.restore_stored (FieldValue.encode_parameter valueEncodable)
  rw [FieldRow.toField, row, Text.ofString_toStringLossy nameEncodable, restored, make_self]

/-- Fields read back from their rows. -/
theorem mapM_toField_rows {fields : List Field}
    (encodable : ∀ field ∈ fields, field.isEncodable = true) (owner position : Nat) :
    (rows owner position fields).mapM FieldRow.toField = .ok fields := by
  induction fields generalizing position with
  | nil => rfl
  | cons field rest inductionHypothesis =>
    rw [List.forall_mem_cons] at encodable
    rw [rows, List.mapM_cons, toField_row encodable.1, inductionHypothesis encodable.2]
    rfl

/-- Every row of a document has the number of the document. -/
theorem owner_of_mem_rows {owner position : Nat} {fields : List Field} {row : FieldRow}
    (member : row ∈ rows owner position fields) : row.owner = owner := by
  induction fields generalizing position with
  | nil => cases member
  | cons field rest inductionHypothesis =>
    rcases List.mem_cons.mp member with rfl | later
    · rfl
    · exact inductionHypothesis later

/-- The rows of a document have ascending positions. -/
theorem position_le_of_mem_rows {owner position : Nat} {fields : List Field} {row : FieldRow}
    (member : row ∈ rows owner position fields) : position ≤ row.position := by
  induction fields generalizing position with
  | nil => cases member
  | cons field rest inductionHypothesis =>
    rcases List.mem_cons.mp member with rfl | later
    · exact Nat.le_refl _
    · have above := inductionHypothesis later
      omega

/-- Sorting the rows of a document by position changes nothing. -/
theorem pairwise_position_rows (owner position : Nat) (fields : List Field) :
    (rows owner position fields).Pairwise fun left right => left.position ≤ right.position := by
  induction fields generalizing position with
  | nil => exact .nil
  | cons field rest inductionHypothesis =>
    refine .cons ?_ (inductionHypothesis (position + 1))
    intro row member
    have above := position_le_of_mem_rows member
    rw [Field.row]
    exact Nat.le_of_succ_le above

end Field
end Depot
