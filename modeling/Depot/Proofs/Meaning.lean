import Depot.Metadata
import Depot.Query.Basic

/-!
# What queries mean

`Query.holds` says of which documents a query is true, without conditions, clauses or tables.
A leaf looks at the values that its field has in the document; the document identifier is a
field of its own, which every document has once. Numbers are compared by the exact points that
they denote, texts by their code points, and values of different kinds not at all.
-/

namespace Depot

/-- The code points of a text. -/
def Text.codes (text : Text) : List Nat := text.symbols.map Symbol.code

/-- Whether a list of code points comes no later than another one: the first numbers that differ
decide, and a list comes before those that continue it. -/
def Text.codesAtMost : List Nat → List Nat → Bool
  | [], _ => true
  | _ :: _, [] => false
  | left :: lefts, right :: rights => left < right || (left == right && codesAtMost lefts rights)

namespace Datum

/-- The point that a number denotes; the number word that denotes none has none. -/
def point? : Datum → Option ExtendedRational
  | integer value => some (.finite value)
  | real value => value.toExtended?
  | _ => none

/-- Whether two numbers denote points that pass a test. -/
def testPoints (test : ExtendedRational → ExtendedRational → Bool) (left right : Datum) : Bool :=
  match left.point?, right.point? with
  | some leftPoint, some rightPoint => test leftPoint rightPoint
  | _, _ => false

/-- Whether two values are of one kind and equal. -/
def agrees : Datum → Datum → Bool
  | boolean left, boolean right => left == right
  | text left, text right => left == right
  | left, right => testPoints (fun leftPoint rightPoint => leftPoint == rightPoint) left right

/-- Whether two texts or two numbers stand in ascending order. -/
def atMost : Datum → Datum → Bool
  | text left, text right => Text.codesAtMost left.codes right.codes
  | left, right => testPoints ExtendedRational.le left right

end Datum

/-- The values that a document has under a name. -/
def Metadata.valuesOf (document : Metadata) (name : Text) : List Datum :=
  if name = FieldName.identifier then [.text document.documentId]
  else (document.fields.filter fun field => field.name = name).map fun field =>
    field.value.toDatum

/-- Whether a value passes the test of a leaf: a bound that is absent asks for nothing. -/
def QueryKind.accepts (kind : QueryKind) (values : List Datum) (low high value : Datum) : Bool :=
  match kind with
  | .equals => value.agrees (values.headD .null)
  | .among => values.any value.agrees
  | .range => (!low.isPresent || low.atMost value) && (!high.isPresent || value.atMost high)
  | .present => true
  | _ => false

namespace Query

mutual

/-- Whether a query is true of a document. -/
def holds (document : Metadata) : Query → Bool
  | .node kind field values low high children =>
    match kind with
    | .all => holdsAll document children
    | .any => children.isEmpty || holdsAny document children
    | leaf =>
      match field with
      | .text name => (document.valuesOf name).any (leaf.accepts values low high)
      | _ => false
  | .foreign _ => false

/-- Whether every query of a list is true of a document. -/
def holdsAll (document : Metadata) : List Query → Bool
  | [] => true
  | child :: rest => holds document child && holdsAll document rest

/-- Whether some query of a list is true of a document. -/
def holdsAny (document : Metadata) : List Query → Bool
  | [] => false
  | child :: rest => holds document child || holdsAny document rest

end

/-- A conjunction is true when all its children are. -/
theorem holdsAll_eq_all (document : Metadata) (children : List Query) :
    holdsAll document children = children.all (holds document) := by
  induction children with
  | nil => rfl
  | cons child rest inductionHypothesis =>
    rw [holdsAll, List.all_cons, inductionHypothesis]

/-- A disjunction is true when one of its children is. -/
theorem holdsAny_eq_any (document : Metadata) (children : List Query) :
    holdsAny document children = children.any (holds document) := by
  induction children with
  | nil => rfl
  | cons child rest inductionHypothesis =>
    rw [holdsAny, List.any_cons, inductionHypothesis]

end Query

/-- Characters are ordered by their code points. -/
theorem Text.codesAtMost_chars (lefts rights : List Char) :
    codesAtMost (lefts.map Char.toNat) (rights.map Char.toNat) = true ↔
      ¬ List.Lex (fun left right : Char => left < right) rights lefts := by
  induction lefts generalizing rights with
  | nil =>
    constructor
    · intro _ before
      cases before
    · intro _
      rfl
  | cons left lefts inductionHypothesis =>
    cases rights with
    | nil =>
      constructor
      · intro atMost
        cases atMost
      · intro notBefore
        exact absurd .nil notBefore
    | cons right rights =>
      have more : (right < left) ↔ right.toNat < left.toNat := Iff.rfl
      have same : right = left ↔ left.toNat = right.toNat :=
        ⟨fun equal => congrArg Char.toNat equal.symm, fun equal => (Char.toNat_inj.mp equal).symm⟩
      rw [List.map_cons, List.map_cons, codesAtMost, Bool.or_eq_true, Bool.and_eq_true,
        decide_eq_true_eq, beq_iff_eq, inductionHypothesis, List.cons_lex_cons_iff, more, same]
      constructor
      · rintro (below | ⟨equal, notBefore⟩)
        · rintro (above | ⟨equal, -⟩) <;> omega
        · rintro (above | ⟨-, before⟩)
          · omega
          · exact notBefore before
      · intro notBefore
        rw [not_or, not_and] at notBefore
        rcases Nat.lt_trichotomy left.toNat right.toNat with below | equal | above
        · exact .inl below
        · exact .inr ⟨equal, notBefore.2 equal⟩
        · exact absurd above notBefore.1

/-- Strings are ordered by their code points. -/
theorem Text.codesAtMost_ofString (left right : String) :
    codesAtMost (ofString left).codes (ofString right).codes = decide (left ≤ right) := by
  have codes (text : String) : (ofString text).codes = text.toList.map Char.toNat := by
    simp [Text.codes, ofString, ofChars, Function.comp_def, Symbol.code]
  rw [codes, codes, Bool.eq_iff_iff, decide_eq_true_eq]
  exact codesAtMost_chars left.toList right.toList

end Depot
