import Depot.Datum.Literal

/-!
# Field names

A field name is a non-empty text without double quotes and without control characters.
Names that start with an underscore are kept for the library's own use; one of them,
`_id`, may be queried and stands for the document identifier.
-/

namespace Depot

/-- Why a datum cannot be used as a field name. -/
inductive FieldNameError where
  /-- The datum is no text, or the empty text. -/
  | notName (given : Datum)
  | forbiddenCharacters (name : Text)

/-- The wording of a field name error. It says of a datum without a literal that there is none. -/
def FieldNameError.message : FieldNameError → String
  | notName given =>
    if given.isWritable then "Field name must be a non-empty string, got " ++ given.literal
    else Datum.unwritableText
  | forbiddenCharacters name =>
    "Field name contains forbidden characters: " ++ Text.quoted name

namespace FieldName

/-- The name under which queries and sorts reach the document identifier. -/
def identifier : String := "_id"

/-- A symbol that no field name may hold. -/
def isForbidden (symbol : Symbol) : Bool := symbol == .char '"' || symbol.code < 32

/-- Whether a text can name a field in a query. -/
def isValid (name : Text) : Bool := !name.isEmpty && !name.symbols.any isForbidden

/-- Whether a text starts with the mark of internal names. -/
def isInternal (name : Text) : Bool := name.symbols.head? == some (.char '_')

/-- Internal names are reserved, the document identifier apart. -/
def isReserved (name : Text) : Bool := isInternal name && name != (identifier : Text)

/-- Whether a text can name a stored field. -/
def isUsable (name : Text) : Bool := isValid name && !isInternal name

/-- The text of a datum that can name a field in a query. -/
def validate : Datum → Except FieldNameError Text
  | .text name =>
    if name.isEmpty then .error (.notName (.text name))
    else if name.symbols.any isForbidden then .error (.forbiddenCharacters name)
    else .ok name
  | other => .error (.notName other)

/-- Validation accepts exactly the valid texts, and returns them unchanged. -/
theorem validate_eq_ok_iff (given : Datum) (name : Text) :
    validate given = .ok name ↔ given = .text name ∧ isValid name = true := by
  constructor
  · intro accepted
    cases given with
    | text candidate =>
      simp only [validate] at accepted
      split at accepted
      · cases accepted
      · split at accepted
        · cases accepted
        · cases accepted
          exact ⟨rfl, by simp_all [isValid]⟩
    | _ => cases accepted
  · rintro ⟨rfl, valid⟩
    simp_all [validate, isValid]

/-- The document identifier is a valid name, not reserved, and not usable for a stored field. -/
theorem identifier_status :
    isValid identifier = true ∧ isReserved identifier = false ∧ isUsable identifier = false := by
  decide

end FieldName
end Depot
