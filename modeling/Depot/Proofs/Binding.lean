import Depot.Index.Statement
import Depot.Proofs.Representation

/-!
# Clauses with their values in place

The values of a clause stand beside it and are put into its places when it is run. A clause
means a predicate on documents when the condition that results holds of exactly the rows that
stand for documents with the predicate. Meanings are joined the way clauses are.
-/

namespace Depot

namespace Parameter

/-- Whether a parameter can be handed to the index. -/
def isBindable : Parameter → Bool
  | integer value => fitsInteger value
  | real _ => true
  | text value => value.isEncodable

/-- Whether a parameter is no integer that is out of range. -/
def fits : Parameter → Bool
  | integer value => fitsInteger value
  | _ => true

/-- The stored form of a parameter that can be handed over. -/
def bound : Parameter → StoredValue
  | integer value => .integer value
  | real value => .real value
  | text value => .text value.toStringLossy

/-- A parameter that can be handed over is bound to its stored form. -/
theorem bind_of_isBindable {parameter : Parameter} (bindable : parameter.isBindable = true) :
    parameter.bind = .ok parameter.bound := by
  cases parameter with
  | integer value => exact if_pos bindable
  | real value => rfl
  | text value =>
    rw [bind, encode, Text.encode_of_isEncodable bindable]
    · rfl
    · simp

@[simp] theorem isBindable_text (value : Text) : (text value).isBindable = value.isEncodable := rfl

@[simp] theorem bound_text (value : Text) : (text value).bound = .text value.toStringLossy := rfl

/-- The parameter of a field value is bound to the stored value. -/
@[simp] theorem bound_parameter (value : FieldValue) : value.parameter.bound = value.stored := by
  cases value <;> rfl

/-- Parameters that can be handed over are bound in order. -/
theorem mapM_bind_of_isBindable {parameters : List Parameter}
    (bindable : ∀ parameter ∈ parameters, parameter.isBindable = true) :
    parameters.mapM Parameter.bind = .ok (parameters.map bound) := by
  induction parameters with
  | nil => rfl
  | cons parameter rest inductionHypothesis =>
    rw [List.forall_mem_cons] at bindable
    rw [List.mapM_cons, bind_of_isBindable bindable.1, inductionHypothesis bindable.2]
    rfl

/-- A parameter that fits and cannot be handed over is a text that cannot be encoded. -/
theorem bind_of_not_isBindable {parameter : Parameter} (inRange : parameter.fits = true)
    (refused : parameter.isBindable = false) :
    ∃ fault, parameter.bind = .error (.encoding fault) := by
  cases parameter with
  | integer value =>
    rw [isBindable, show fitsInteger value = true from inRange] at refused
    cases refused
  | real value => cases refused
  | text value =>
    obtain ⟨fault, failed⟩ := Text.encode_of_not_isEncodable refused
    refine ⟨fault, ?_⟩
    rw [bind, encode, failed]
    · rfl
    · simp

end Parameter

namespace Condition

variable {hole : Type}

/-- The shape of a chain of joined conditions. -/
theorem shape_foldl_joined (connective : Connective) (first : Condition hole)
    (rest : List (Condition hole)) :
    (rest.foldl (joined connective) first).shape =
      (rest.map shape).foldl (joined connective) first.shape := by
  induction rest generalizing first with
  | nil => rfl
  | cons second rest inductionHypothesis =>
    rw [List.foldl_cons, inductionHypothesis, List.map_cons, List.foldl_cons, shape]

/-- The contents of the places of a chain of joined conditions. -/
theorem operands_foldl_joined (connective : Connective) (first : Condition hole)
    (rest : List (Condition hole)) :
    (rest.foldl (joined connective) first).operands =
      first.operands ++ rest.flatMap operands := by
  induction rest generalizing first with
  | nil => simp
  | cons second rest inductionHypothesis =>
    rw [List.foldl_cons, inductionHypothesis, operands, List.flatMap_cons, List.append_assoc]

/-- A chain of conjunctions holds when all its parts do. -/
theorem holds_foldl_conjunction (fields : List FieldRow) (row : DocumentRow)
    (field : Option FieldRow) (first : Condition StoredValue)
    (rest : List (Condition StoredValue)) :
    (rest.foldl (joined .conjunction) first).holds fields row field =
      (first.holds fields row field && rest.all (holds fields row field)) := by
  induction rest generalizing first with
  | nil => simp
  | cons second rest inductionHypothesis =>
    rw [List.foldl_cons, inductionHypothesis, holds, Connective.join, List.all_cons,
      Bool.and_assoc]

/-- A chain of disjunctions holds when one of its parts does. -/
theorem holds_foldl_disjunction (fields : List FieldRow) (row : DocumentRow)
    (field : Option FieldRow) (first : Condition StoredValue)
    (rest : List (Condition StoredValue)) :
    (rest.foldl (joined .disjunction) first).holds fields row field =
      (first.holds fields row field || rest.any (holds fields row field)) := by
  induction rest generalizing first with
  | nil => simp
  | cons second rest inductionHypothesis =>
    rw [List.foldl_cons, inductionHypothesis, holds, Connective.join, List.any_cons,
      Bool.or_assoc]

end Condition

namespace Clause

/-- A condition is a clause with its values in place. -/
structure Binds (clause : Clause) (condition : Condition StoredValue) : Prop where
  shape : condition.shape = clause.condition
  operands : condition.operands = clause.parameters.map Parameter.bound

/-- A clause means a predicate on documents. -/
def Means (clause : Clause) (predicate : Metadata → Bool) : Prop :=
  ∃ condition, clause.Binds condition ∧
    ∀ fields row document, row.StandsFor fields document →
      condition.holds fields row none = predicate document

/-- Whether all values of a clause can be handed to the index. -/
def isBindable (clause : Clause) : Bool := clause.parameters.all Parameter.isBindable

/-- Putting the values of a clause into its places gives its condition, and leaves what comes
after them. -/
theorem Binds.bind? {clause : Clause} {condition : Condition StoredValue}
    (binds : clause.Binds condition) (rest : List StoredValue) :
    clause.condition.bind? (clause.parameters.map Parameter.bound ++ rest) =
      some (condition, rest) := by
  rw [← binds.shape, ← binds.operands]
  exact Condition.bind?_shape condition rest

/-- A clause that means one predicate means every predicate with the same values. -/
theorem Means.congr {clause : Clause} {predicate other : Metadata → Bool}
    (means : clause.Means predicate) (same : ∀ document, predicate document = other document) :
    clause.Means other := by
  rwa [← funext same]

/-- The clause that every document fulfils. -/
theorem means_everything : everything.Means fun _ => true :=
  ⟨.constant true, ⟨rfl, rfl⟩, fun _ _ _ _ => rfl⟩

/-- The clause that no document fulfils. -/
theorem means_nothing : nothing.Means fun _ => false :=
  ⟨.constant false, ⟨rfl, rfl⟩, fun _ _ _ _ => rfl⟩

/-- Parentheses change no meaning. -/
theorem Means.grouped {clause : Clause} {predicate : Metadata → Bool}
    (means : clause.Means predicate) : clause.grouped.Means predicate := by
  obtain ⟨condition, binds, truth⟩ := means
  refine ⟨.grouped condition, ⟨?_, binds.operands⟩, truth⟩
  rw [Condition.shape, binds.shape, Clause.grouped]

/-- Joined clauses mean the joined predicates. -/
theorem Means.joined {left right : Clause} {first second : Metadata → Bool}
    (leftMeans : left.Means first) (rightMeans : right.Means second) (connective : Connective) :
    (Clause.joined connective left right).Means fun document =>
      connective.join (first document) (second document) := by
  obtain ⟨leftCondition, leftBinds, leftTruth⟩ := leftMeans
  obtain ⟨rightCondition, rightBinds, rightTruth⟩ := rightMeans
  refine ⟨.joined connective leftCondition rightCondition, ⟨?_, ?_⟩, ?_⟩
  · rw [Condition.shape, leftBinds.shape, rightBinds.shape, Clause.joined]
  · rw [Condition.operands, leftBinds.operands, rightBinds.operands, Clause.joined,
      List.map_append]
  · intro fields row document standsFor
    rw [Condition.holds, leftTruth fields row document standsFor,
      rightTruth fields row document standsFor]

/-- The truth value of a composite of truth values; an empty one is true. -/
def composite : Connective → List Bool → Bool
  | .conjunction, values => values.all id
  | .disjunction, values => values.isEmpty || values.any id

/-- A composite in two parts is joined from the two. -/
theorem composite_append (connective : Connective) {first second : List Bool}
    (firstPresent : first ≠ []) (secondPresent : second ≠ []) :
    composite connective (first ++ second) =
      connective.join (composite connective first) (composite connective second) := by
  cases connective with
  | conjunction => exact List.all_append
  | disjunction =>
    have firstNonempty : first.isEmpty = false := List.isEmpty_eq_false_iff.mpr firstPresent
    have secondNonempty : second.isEmpty = false := List.isEmpty_eq_false_iff.mpr secondPresent
    have bothNonempty : (first ++ second).isEmpty = false := by
      rw [List.isEmpty_eq_false_iff]
      exact List.append_ne_nil_of_left_ne_nil firstPresent second
    rw [composite, composite, composite, bothNonempty, firstNonempty, secondNonempty,
      List.any_append]
    rfl

/-- Clauses that are joined as a balanced tree mean the composite of what they mean. -/
theorem means_balanced (connective : Connective) {clauses : List Clause}
    {predicates : List (Metadata → Bool)} (means : List.Forall₂ Means clauses predicates) :
    (balanced connective clauses).Means fun document =>
      composite connective (predicates.map fun predicate => predicate document) := by
  induction clauses using balanced.induct generalizing predicates with
  | case1 =>
    cases means
    rw [balanced]
    exact means_everything.congr fun _ => by cases connective <;> rfl
  | case2 only =>
    obtain _ | ⟨onlyMeans, _ | _⟩ := means
    rw [balanced]
    exact onlyMeans.grouped.congr fun _ => by cases connective <;> simp [composite]
  | case3 left right =>
    obtain _ | ⟨leftMeans, _ | ⟨rightMeans, _ | _⟩⟩ := means
    rw [balanced]
    exact (leftMeans.grouped.joined rightMeans.grouped connective).congr fun _ => by
      cases connective <;> simp [composite, Connective.join]
  | case4 first second third rest all middle leftHypothesis =>
    rename_i rightHypothesis
    have leftMeans := leftHypothesis (List.forall₂_take middle means)
    have rightMeans := rightHypothesis (List.forall₂_drop middle means)
    rw [balanced]
    refine (leftMeans.grouped.joined rightMeans.grouped connective).congr fun document => ?_
    have sameLength : predicates.length = all.length := means.length_eq.symm
    have longEnough : 3 ≤ all.length := by simp [all]
    have halves : middle = all.length / 2 := rfl
    rw [← composite_append connective, ← List.map_append, List.take_append_drop]
    · rw [ne_eq, List.map_eq_nil_iff, List.take_eq_nil_iff, not_or]
      refine ⟨by omega, ?_⟩
      rintro rfl
      rw [List.length_nil] at sameLength
      omega
    · rw [ne_eq, List.map_eq_nil_iff, List.drop_eq_nil_iff]
      omega

/-- The values of a balanced tree are those of the clauses in order. -/
theorem parameters_balanced (connective : Connective) (clauses : List Clause) :
    (balanced connective clauses).parameters = clauses.flatMap Clause.parameters := by
  induction clauses using balanced.induct with
  | case1 => rw [balanced]; rfl
  | case2 only => rw [balanced]; simp [Clause.grouped]
  | case3 left right => rw [balanced]; simp [Clause.joined, Clause.grouped]
  | case4 first second third rest all middle leftHypothesis =>
    rename_i rightHypothesis
    rw [balanced, Clause.joined, Clause.grouped, Clause.grouped, leftHypothesis, rightHypothesis,
      ← List.flatMap_append, List.take_append_drop]

end Clause
end Depot
