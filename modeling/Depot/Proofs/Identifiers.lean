import Depot.Proofs.Matching

/-!
# Leaves match identifiers

A leaf on the document identifier compares the column of the identifier, which is a text in every
row. Its clause means what the leaf says of the identifier as a value.
-/

namespace Depot.Clause

/-- A comparison with the identifier compares the column of the identifier. -/
theorem means_documentId (comparison : Comparison) (label : Text) :
    Means ⟨.compare .documentId comparison (), [.text label]⟩ fun document =>
      comparison.holds (.text document.documentId) (.text label.toStringLossy) := by
  refine ⟨.compare .documentId comparison (.text label.toStringLossy), ⟨rfl, rfl⟩, ?_⟩
  intro fields row document standsFor
  rw [Condition.holds, Column.read, standsFor.documentId]
  rfl

/-- A string is equal to a text as values are. -/
theorem equal_holds_label (string : String) {label : Text} (encodable : label.isEncodable = true) :
    Comparison.equal.holds (.text string) (.text label.toStringLossy) =
      Datum.agrees (.text string) (.text label) := by
  rw [Comparison.equal_holds_text, Datum.agrees, beq_eq_decide]
  apply decide_eq_decide.mpr
  rw [← Text.ofString_inj, Text.ofString_toStringLossy encodable]

/-- A string is at most a text as values are. -/
theorem atMost_holds_label (string : String) {label : Text}
    (encodable : label.isEncodable = true) :
    Comparison.atMost.holds (.text string) (.text label.toStringLossy) =
      Datum.atMost (.text string) (.text label) := by
  rw [Comparison.atMost_holds_text, Datum.atMost, ← Text.codesAtMost_ofString,
    Text.ofString_toStringLossy encodable]

/-- A string is at least a text as values are. -/
theorem atLeast_holds_label (string : String) {label : Text}
    (encodable : label.isEncodable = true) :
    Comparison.atLeast.holds (.text string) (.text label.toStringLossy) =
      Datum.atMost (.text label) (.text string) := by
  rw [Comparison.atLeast_holds, Comparison.atMost_holds_text, Datum.atMost,
    ← Text.codesAtMost_ofString, Text.ofString_toStringLossy encodable]

/-- A choice among identifiers means that the identifier is one of them. -/
theorem means_among_documentId {labels : List Text}
    (encodable : ∀ label ∈ labels, label.isEncodable = true) :
    Means ⟨.among .documentId (labels.map fun _ => ()), labels.map Parameter.text⟩ fun document =>
      (labels.map Datum.text).any (Datum.text document.documentId).agrees := by
  refine ⟨.among .documentId (labels.map fun label => .text label.toStringLossy), ⟨?_, ?_⟩, ?_⟩
  · rw [Condition.shape, List.map_map]
  · rw [Condition.operands, List.map_map, Function.comp_def]
    rfl
  · intro fields row document standsFor
    simp only [Condition.holds, List.any_map]
    apply any_congr_of_mem
    intro label member
    rw [Function.comp_apply, Column.read, standsFor.documentId]
    exact equal_holds_label document.documentId (encodable label member)

/-- An accepted leaf on the identifier means that the identifier passes its test. -/
theorem means_identifierLeaf {kind : QueryKind} {values : List Datum} {low high : Datum}
    {clause : Clause} (accepted : identifierLeaf kind values low high = .ok clause)
    (bindable : clause.isBindable = true) :
    clause.Means fun document => kind.accepts values low high (.text document.documentId) := by
  cases of_identifierLeaf accepted with
  | present => exact means_everything
  | equals label tested =>
    have encodable : label.isEncodable = true := by simpa [isBindable] using bindable
    refine (means_documentId .equal label).congr fun document => ?_
    rw [QueryKind.accepts, tested]
    exact equal_holds_label document.documentId encodable
  | amongNone => exact means_nothing
  | among first rest =>
    have encodable : ∀ label ∈ first :: rest, label.isEncodable = true := by
      simpa [isBindable] using bindable
    exact means_among_documentId encodable
  | unbounded noLow noHigh =>
    refine means_everything.congr fun document => ?_
    rw [QueryKind.accepts, noLow, noHigh]
    rfl
  | atLeast low noHigh =>
    have encodable : low.isEncodable = true := by simpa [isBindable] using bindable
    refine (means_documentId .atLeast low).congr fun document => ?_
    rw [QueryKind.accepts, noHigh, atLeast_holds_label document.documentId encodable]
    exact (Bool.and_true _).symm
  | atMost high noLow =>
    have encodable : high.isEncodable = true := by simpa [isBindable] using bindable
    refine (means_documentId .atMost high).congr fun document => ?_
    rw [QueryKind.accepts, noLow, atMost_holds_label document.documentId encodable]
    rfl
  | between low high =>
    have encodable : low.isEncodable = true ∧ high.isEncodable = true := by
      simpa [isBindable, joined] using bindable
    refine ((means_documentId .atLeast low).joined (means_documentId .atMost high)
      .conjunction).congr fun document => ?_
    rw [atLeast_holds_label document.documentId encodable.1,
      atMost_holds_label document.documentId encodable.2]
    rfl

end Depot.Clause
