import Depot.Field.Value

/-!
# Fields

A `Field` is a name and a value that the index can keep; the two conditions are part of
the type, so a field that exists is one that was accepted. `Field.collect` turns the
fields of one document into an ordered list with distinct names.
-/

namespace Depot

/-- Why a name and a value, or a list of fields, was refused. -/
inductive FieldError where
  | name (error : FieldNameError)
  | reserved (name : Text)
  | unsupportedValue (typeName : String) (name : Text)
  | integerRange (name : Text)
  /-- A list of fields holds something that is no field. -/
  | notField (typeName : String)
  | duplicate (name : Text)

/-- The wording of a field error. -/
def FieldError.message : FieldError → String
  | .name error => error.message
  | .reserved label => "Field name " ++ Text.quoted label ++ " is reserved"
  | .unsupportedValue typeName label =>
    "Unsupported value type " ++ typeName ++ " for field " ++ Text.quoted label
  | .integerRange label =>
    "Integer value of field " ++ Text.quoted label ++ " is outside the 64-bit range"
  | .notField typeName => "Expected IndexField, got " ++ typeName
  | .duplicate label => "Duplicate field name: " ++ Text.quoted label

/-- A named value of a document. -/
structure Field where
  name : Text
  value : FieldValue
  usable : FieldName.isUsable name = true
  fits : value.fits = true
  deriving DecidableEq

namespace Field

/-- The value of an accepted name; the value is looked at after the name. -/
def ofUsable (name : Text) (usable : FieldName.isUsable name = true) (value : Datum) :
    Except FieldError Field :=
  match FieldValue.ofDatum? value with
  | none => .error (.unsupportedValue value.typeName name)
  | some accepted =>
    if fits : accepted.fits = true then .ok ⟨name, accepted, usable, fits⟩
    else .error (.integerRange name)

/-- The field of a name and a value, or the first thing that is wrong with them: the
name's characters, its being internal, the value's shape, its range. -/
def make (name value : Datum) : Except FieldError Field :=
  match FieldName.validate name with
  | .error error => .error (.name error)
  | .ok accepted =>
    if usable : FieldName.isUsable accepted = true then ofUsable accepted usable value
    else .error (.reserved accepted)

/-- A field is made from its own name and value. -/
theorem make_self (field : Field) : make (.text field.name) field.value.toDatum = .ok field := by
  have valid : FieldName.validate (.text field.name) = .ok field.name := by
    rw [FieldName.validate_eq_ok_iff]
    have usable := field.usable
    simp_all [FieldName.isUsable]
  simp [make, valid, field.usable, ofUsable, field.fits]

/-- The name whose second occurrence comes first, if a name occurs twice. -/
def repeatedName? (seen : List Text) : List Field → Option Text
  | [] => none
  | field :: rest =>
    if seen.contains field.name then some field.name
    else repeatedName? (field.name :: seen) rest

/-- Refuses a list of fields in which a name repeats. -/
def distinct (fields : List Field) : Except FieldError (List Field) :=
  match repeatedName? [] fields with
  | some name => .error (.duplicate name)
  | none => .ok fields

/-- No name repeats, and none is among those seen, exactly when there is no repeated name. -/
theorem repeatedName?_eq_none_iff (seen : List Text) (fields : List Field) :
    repeatedName? seen fields = none ↔
      (fields.map name).Nodup ∧ ∀ field ∈ fields, field.name ∉ seen := by
  induction fields generalizing seen with
  | nil => simp [repeatedName?]
  | cons field rest inductionHypothesis =>
    by_cases known : field.name ∈ seen
    · simp [repeatedName?, known]
    · rw [repeatedName?, if_neg (by simpa using known), inductionHypothesis]
      rw [List.map_cons, List.nodup_cons, List.forall_mem_cons]
      simp only [List.mem_map, List.mem_cons, not_or]
      constructor
      · rintro ⟨distinctRest, fresh⟩
        exact ⟨⟨fun ⟨other, member, same⟩ => (fresh other member).1 same, distinctRest⟩,
          known, fun other member => (fresh other member).2⟩
      · rintro ⟨⟨unique, distinctRest⟩, _, fresh⟩
        exact ⟨distinctRest, fun other member =>
          ⟨fun same => unique ⟨other, member, same⟩, fresh other member⟩⟩

/-- An entry of a list of fields: a field, or something else that was put there. -/
inductive Item where
  | accepted (field : Field)
  | other (given : Datum)

/-- The field of an entry. -/
def Item.accept : Item → Except FieldError Field
  | .accepted field => .ok field
  | .other given => .error (.notField given.typeName)

/-- The two forms in which the fields of a document are given. -/
inductive Source where
  /-- Names with values, still to be checked. -/
  | mapping (entries : List (Datum × Datum))
  /-- A list that should hold fields. -/
  | items (items : List Item)

/-- The fields of a document: checked in order, then required to have distinct names. -/
def collect : Option Source → Except FieldError (List Field)
  | none => .ok []
  | some (.mapping entries) => do
    distinct (← entries.mapM fun entry => make entry.1 entry.2)
  | some (.items items) => do distinct (← items.mapM Item.accept)

/-- The name and the value of a field as data. -/
def toPair (field : Field) : Text × Datum := (field.name, field.value.toDatum)

end Field
end Depot
