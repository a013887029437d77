import Depot.Proofs.Asking
import Depot.Proofs.Embedding
import Mathlib.Data.Nat.Log

/-!
# Balanced trees of clauses

A wide composite is written as a balanced tree. Whatever texts are joined, as long as each closes
its own parentheses, they stand in the whole text in their order, each directly in parentheses of
its own, and none lies deeper than a tree with as many leaves has to be. The values stand in the
same order. If the texts state conditions, the whole text states what joins these conditions, and it
is true exactly when all of them are, or some of them.
-/

namespace Depot

namespace Fragment

/-- Texts stand one after the other in a text that leads from one depth to another. Each of them is
closed, stands directly in parentheses of its own, and lies at most at the greatest depth. -/
inductive Encloses (greatest : Nat) : Nat → Nat → List (List Char) → List Char → Prop
  | rest {start finish : Nat} {back : List Char} (leads : depth? start back = some finish) :
    Encloses greatest start finish [] back
  | part {start inside finish : Nat} {front text back : List Char} {texts : List (List Char)}
    (opens : depth? start (front ++ ['(']) = some inside) (shallow : inside ≤ greatest)
    (closed : depth? 0 text = some 0)
    (later : Encloses greatest inside finish texts (')' :: back)) :
    Encloses greatest start finish (text :: texts) (front ++ '(' :: (text ++ ')' :: back))

/-- Two texts after each other lead from one depth to another over the depth between them. -/
theorem depth?_append {start middle finish : Nat} {front back : List Char}
    (first : depth? start front = some middle) (second : depth? middle back = some finish) :
    depth? start (front ++ back) = some finish := by
  rw [depth?, List.foldlM_append]
  exact (congrArg (Option.bind · (depth? · back)) first).trans second

namespace Encloses

variable {greatest start middle finish : Nat} {texts more : List (List Char)}
  {whole front back : List Char}

/-- A greater depth may be allowed. -/
theorem mono (encloses : Encloses greatest start finish texts whole) {other : Nat}
    (within : greatest ≤ other) : Encloses other start finish texts whole := by
  induction encloses with
  | rest leads => exact .rest leads
  | part opens shallow closed later inductionHypothesis =>
    exact .part opens (shallow.trans within) closed inductionHypothesis

/-- Inside another parenthesis everything lies one deeper. -/
theorem deeper (encloses : Encloses greatest start finish texts whole) :
    Encloses (greatest + 1) (start + 1) (finish + 1) texts whole := by
  induction encloses with
  | rest leads => exact .rest (depth?_add leads 1)
  | part opens shallow closed later inductionHypothesis =>
    exact .part (depth?_add opens 1) (Nat.succ_le_succ shallow) closed inductionHypothesis

/-- Something may stand in front. -/
theorem after (leads : depth? start front = some middle)
    (encloses : Encloses greatest middle finish texts whole) :
    Encloses greatest start finish texts (front ++ whole) := by
  cases encloses with
  | rest others => exact .rest (depth?_append leads others)
  | part opens shallow closed later =>
    rw [← List.append_assoc]
    refine .part ?_ shallow closed later
    rw [List.append_assoc]
    exact depth?_append leads opens

/-- Texts stand one after the other in texts that stand one after the other. -/
theorem append (first : Encloses greatest start middle texts front)
    (second : Encloses greatest middle finish more back) :
    Encloses greatest start finish (texts ++ more) (front ++ back) := by
  induction first with
  | rest leads => exact second.after leads
  | part opens shallow closed later inductionHypothesis =>
    simp only [List.append_assoc, List.cons_append] at inductionHypothesis ⊢
    exact .part opens shallow closed (inductionHypothesis second)

/-- A closed text in parentheses is enclosed by them. -/
theorem single {text : List Char} (closed : depth? 0 text = some 0) :
    Encloses 1 0 0 [text] ('(' :: (text ++ [')'])) :=
  .part (show depth? 0 ([] ++ ['(']) = some 1 from rfl) le_rfl closed (.rest rfl)

/-- What is enclosed lies one deeper when the whole text stands in parentheses. -/
theorem grouped (encloses : Encloses greatest 0 0 texts whole) :
    Encloses (greatest + 1) 0 0 texts ('(' :: (whole ++ [')'])) := by
  have closing : Encloses (greatest + 1) 1 0 [] [')'] := .rest rfl
  have inside := encloses.deeper.append closing
  rw [List.append_nil] at inside
  exact inside.after (show depth? 0 ['('] = some 1 from rfl)

/-- Nothing is added by a connective between two texts. -/
theorem joined (connective : Connective) (first : Encloses greatest 0 0 texts front)
    (second : Encloses greatest 0 0 more back) :
    Encloses greatest 0 0 (texts ++ more) (front ++ connective.text.toList ++ back) := by
  have between : depth? 0 connective.text.toList = some 0 := by
    cases connective <;> decide +kernel
  rw [List.append_assoc]
  exact first.append (second.after between)

end Encloses
end Fragment

namespace Condition

variable {hole : Type}

/-- The truth value of a condition under a valuation of the tests that connectives join. -/
def value (valuation : Condition hole → Bool) : Condition hole → Bool
  | joined connective left right => connective.join (value valuation left) (value valuation right)
  | grouped inner => value valuation inner
  | test => valuation test

section

variable {connective : Connective} {parts : List (Condition hole)} {whole : Condition hole}

/-- Something is joined. -/
theorem Joins.ne_nil (joins : whole.Joins connective parts) : parts ≠ [] := by
  induction joins with
  | part condition => exact List.cons_ne_nil condition []
  | joined ofFront ofBack frontSome backSome => exact List.append_ne_nil_of_left_ne_nil frontSome _
  | grouped ofWhole some => exact some

/-- What joins some parts is as true as all of them together, or as one of them. -/
theorem Joins.value_eq (joins : whole.Joins connective parts) (valuation : Condition hole → Bool) :
    whole.value valuation = Clause.composite connective (parts.map (value valuation)) := by
  induction joins with
  | part condition => cases connective <;> simp [value, Clause.composite]
  | joined ofFront ofBack frontValue backValue =>
    rw [value, frontValue, backValue, List.map_append, Clause.composite_append]
    · simpa using ofFront.ne_nil
    · simpa using ofBack.ne_nil
  | grouped ofWhole wholeValue => rw [value, wholeValue]

end
end Condition

/-- What is handed over for a clause: a text and the values of its places. -/
structure Phrase where
  text : String
  parameters : List Parameter

/-- What is handed over for a clause. -/
def Clause.phrase (clause : Clause) : Phrase := ⟨clause.text, clause.parameters⟩

namespace Phrase

/-- The phrase in parentheses. -/
def grouped (part : Phrase) : Phrase := ⟨"(" ++ part.text ++ ")", part.parameters⟩

/-- Two phrases with a connective between them. -/
def joined (connective : Connective) (left right : Phrase) : Phrase :=
  ⟨left.text ++ connective.text ++ right.text, left.parameters ++ right.parameters⟩

/-- The symbols of a phrase in parentheses. -/
theorem toList_grouped (part : Phrase) :
    part.grouped.text.toList = '(' :: (part.text.toList ++ [')']) := by
  rw [grouped, String.toList_append, String.toList_append]
  rfl

/-- The symbols of two phrases with a connective between them. -/
theorem toList_joined (connective : Connective) (left right : Phrase) :
    (joined connective left right).text.toList =
      left.text.toList ++ connective.text.toList ++ right.text.toList := by
  rw [joined, String.toList_append, String.toList_append]

/-- Joins phrases, each in parentheses, halving a list of more than two. -/
def balanced (connective : Connective) (parts : List Phrase) : Phrase :=
  match parts with
  | [] => Clause.everything.phrase
  | [only] => only.grouped
  | [left, right] => joined connective left.grouped right.grouped
  | first :: second :: third :: rest =>
    let all := first :: second :: third :: rest
    let middle := all.length / 2
    joined connective (balanced connective (all.take middle)).grouped
      (balanced connective (all.drop middle)).grouped
termination_by parts.length
decreasing_by
  all_goals simp only [List.length_take, List.length_drop, List.length_cons]; omega

end Phrase

namespace Clause

/-- Every clause closes its parentheses. -/
theorem isClosed_text (clause : Clause) : isClosed clause.text = true := by
  have fragment := clause.condition.fragment fun _ => "?"
  rw [Condition.shape_self] at fragment
  exact fragment.isClosed_eq

/-- What is handed over for a balanced tree of clauses is the balanced tree of what is handed over
for each of them. -/
theorem phrase_balanced (connective : Connective) (clauses : List Clause) :
    (balanced connective clauses).phrase =
      Phrase.balanced connective (clauses.map phrase) := by
  induction clauses using balanced.induct with
  | case1 => rw [balanced, List.map_nil, Phrase.balanced]
  | case2 only =>
    rw [balanced, List.map_singleton, Phrase.balanced]
    rfl
  | case3 left right =>
    rw [balanced, List.map_cons, List.map_singleton, Phrase.balanced]
    rfl
  | case4 first second third rest all middle frontHypothesis =>
    rename_i backHypothesis
    rw [balanced, List.map_cons, List.map_cons, List.map_cons, Phrase.balanced]
    simp only [← List.map_cons, List.length_map, ← List.map_take, ← List.map_drop]
    rw [← frontHypothesis, ← backHypothesis]
    rfl

end Clause

namespace Phrase

/-- What holds of one phrase and of two, and of two halves together when it holds of each of them,
holds of all phrases that are joined as a balanced tree. -/
theorem balanced_induction {connective : Connective} {motive : List Phrase → Phrase → Prop}
    (one : ∀ only, motive [only] only.grouped)
    (two : ∀ left right, motive [left, right] (joined connective left.grouped right.grouped))
    (halves : ∀ fronts backs front back, fronts ≠ [] → fronts.length ≤ backs.length →
      backs.length ≤ fronts.length + 1 → 3 ≤ (fronts ++ backs).length → motive fronts front →
      motive backs back →
        motive (fronts ++ backs) (joined connective front.grouped back.grouped))
    {parts : List Phrase} (some : parts ≠ []) : motive parts (balanced connective parts) := by
  induction parts using balanced.induct with
  | case1 => exact absurd rfl some
  | case2 only =>
    rw [balanced]
    exact one only
  | case3 left right =>
    rw [balanced]
    exact two left right
  | case4 first second third rest all middle frontHypothesis =>
    rename_i backHypothesis
    have longEnough : 3 ≤ all.length := by simp [all]
    have halved : middle = all.length / 2 := rfl
    have frontSome : all.take middle ≠ [] := by
      rw [ne_eq, List.take_eq_nil_iff, not_or]
      exact ⟨by omega, some⟩
    have backSome : all.drop middle ≠ [] := by
      rw [ne_eq, List.drop_eq_nil_iff]
      omega
    have together := halves (all.take middle) (all.drop middle) _ _ frontSome
      (by rw [List.length_take, List.length_drop]; omega)
      (by rw [List.length_take, List.length_drop]; omega)
      (by rw [List.take_append_drop]; exact longEnough)
      (frontHypothesis frontSome) (backHypothesis backSome)
    rw [List.take_append_drop] at together
    rw [balanced]
    exact together

/-- The values of phrases that are joined stand in the order of the phrases. -/
theorem parameters_balanced (connective : Connective) {parts : List Phrase}
    (some : parts ≠ []) :
    (balanced connective parts).parameters = parts.flatMap Phrase.parameters := by
  refine balanced_induction (motive := fun parts whole =>
    whole.parameters = parts.flatMap Phrase.parameters) ?_ ?_ ?_ some
  · intro only
    simp [grouped]
  · intro left right
    simp [grouped, joined]
  · intro fronts backs front back _ _ _ _ ofFront ofBack
    rw [List.flatMap_append, ← ofFront, ← ofBack]
    rfl

/-- How deep the deepest of some phrases lies in a balanced tree of them. -/
def depthOf (count : Nat) : Nat := max 1 (Nat.clog 2 count)

/-- Two halves of a tree are less deep than the tree. -/
theorem depthOf_lt {front back : Nat} (ordered : front ≤ back) (halved : back ≤ front + 1)
    (longEnough : 3 ≤ front + back) :
    depthOf front + 1 ≤ depthOf (front + back) ∧ depthOf back + 1 ≤ depthOf (front + back) := by
  have whole : Nat.clog 2 (front + back) = Nat.clog 2 back + 1 := by
    rw [Nat.clog_of_two_le (by decide) (by omega)]
    have half : (front + back + 2 - 1) / 2 = back := by omega
    rw [half]
  have smaller : Nat.clog 2 front ≤ Nat.clog 2 back := Nat.clog_mono_right 2 ordered
  have some : 1 ≤ Nat.clog 2 back := Nat.clog_pos (by decide) (by omega)
  unfold depthOf
  omega

/-- The texts of phrases in a balanced tree of them stand in their order, each in parentheses of its
own, and none is deeper than the tree has to be. -/
theorem encloses_balanced (connective : Connective) {parts : List Phrase} (some : parts ≠ [])
    (closed : ∀ part ∈ parts, isClosed part.text = true) :
    Fragment.Encloses (depthOf parts.length) 0 0 (parts.map (·.text.toList))
      (balanced connective parts).text.toList := by
  refine balanced_induction (motive := fun parts whole =>
    (∀ part ∈ parts, isClosed part.text = true) →
      Fragment.Encloses (depthOf parts.length) 0 0 (parts.map (·.text.toList)) whole.text.toList)
    ?_ ?_ ?_ some closed
  · intro only each
    rw [toList_grouped]
    exact .single (beq_iff_eq.mp (each only (List.mem_singleton_self only)))
  · intro left right each
    rw [List.forall_mem_cons, List.forall_mem_singleton] at each
    rw [toList_joined, toList_grouped, toList_grouped]
    exact (Fragment.Encloses.single (beq_iff_eq.mp each.1)).joined connective
      (.single (beq_iff_eq.mp each.2))
  · intro fronts backs front back _ ordered halved longEnough ofFront ofBack each
    rw [List.forall_mem_append] at each
    rw [List.length_append] at longEnough
    have deepEnough := depthOf_lt ordered halved longEnough
    rw [toList_joined, toList_grouped, toList_grouped, List.map_append, List.length_append]
    exact ((ofFront each.1).grouped.mono deepEnough.1).joined connective
      ((ofBack each.2).grouped.mono deepEnough.2)

/-- The phrase states a condition: its text is read as the condition, and its values are those that
stand in the places of the condition. -/
structure States (part : Phrase) (condition : Condition Parameter) : Prop where
  reads : Condition.read? part.text = some condition.shape
  operands : condition.operands = part.parameters

/-- The tokens of a phrase in parentheses. -/
theorem scan_grouped (part : Phrase) : Token.scan [] part.grouped.text.toList =
    .opening :: (Token.scan [] part.text.toList ++ [.closing]) := by
  have ends : Token.endsWord [')'] = true := rfl
  rw [toList_grouped, Token.scan_opening, Token.scan_append [] _ ends]
  rfl

/-- The tokens of two phrases with a connective between them. -/
theorem scan_joined (connective : Connective) (left right : Phrase) :
    Token.scan [] (joined connective left right).text.toList =
      Token.scan [] left.text.toList ++
        .word connective.word :: Token.scan [] right.text.toList := by
  have ends (back : List Char) : Token.endsWord (connective.text.toList ++ back) = true := by
    cases connective <;> rfl
  rw [toList_joined, List.append_assoc, Token.scan_append [] _ (ends _)]
  cases connective <;> rfl

/-- Phrases in parentheses are operands. -/
theorem States.readsNext {part : Phrase} {condition : Condition Parameter}
    (states : part.States condition) :
    Reading.ReadsNext (Token.scan [] part.grouped.text.toList) condition.grouped.shape := by
  rw [scan_grouped]
  exact (Reading.readsAs_of_read? states.reads).grouped

/-- Phrases that state conditions state what joins these conditions. -/
theorem states_balanced (connective : Connective) {parts : List Phrase} (some : parts ≠ [])
    {conditions : List (Condition Parameter)}
    (each : List.Forall₂ States parts conditions) :
    ∃ condition : Condition Parameter, (balanced connective parts).States condition ∧
      condition.Joins connective conditions := by
  refine balanced_induction (motive := fun parts whole =>
    ∀ conditions, List.Forall₂ States parts conditions →
      ∃ condition : Condition Parameter, whole.States condition ∧
        condition.Joins connective conditions) ?_ ?_ ?_ some conditions each
  · rintro only _ (_ | ⟨states, _ | _⟩)
    refine ⟨.grouped _, ⟨?_, states.operands⟩, .part _⟩
    exact states.readsNext.readsAs.read?_eq
  · rintro left right _ (_ | ⟨ofLeft, _ | ⟨ofRight, _ | _⟩⟩)
    refine ⟨.joined connective (.grouped _) (.grouped _), ⟨?_, ?_⟩, .joined (.part _) (.part _)⟩
    · refine Reading.ReadsAs.read?_eq ?_
      rw [scan_joined]
      exact ofLeft.readsNext.joined ofRight.readsNext connective
    · exact congrArg₂ (· ++ ·) ofLeft.operands ofRight.operands
  · intro fronts backs front back _ _ _ _ ofFront ofBack all each
    have eachFront := List.forall₂_take fronts.length each
    have eachBack := List.forall₂_drop fronts.length each
    rw [List.take_left] at eachFront
    rw [List.drop_left] at eachBack
    obtain ⟨left, statesLeft, joinsLeft⟩ := ofFront _ eachFront
    obtain ⟨right, statesRight, joinsRight⟩ := ofBack _ eachBack
    have joins := joinsLeft.grouped.joined joinsRight.grouped
    rw [List.take_append_drop] at joins
    refine ⟨.joined connective (.grouped left) (.grouped right), ⟨?_, ?_⟩, joins⟩
    · refine Reading.ReadsAs.read?_eq ?_
      rw [scan_joined]
      exact statesLeft.readsNext.joined statesRight.readsNext connective
    · exact congrArg₂ (· ++ ·) statesLeft.operands statesRight.operands

/-- What a balanced tree of phrases promises. -/
structure Balances (connective : Connective) (parts : List Phrase) (whole : Phrase) : Prop where
  /-- The values stand beside the text in their order. -/
  parameters : whole.parameters = parts.flatMap Phrase.parameters
  /-- The texts stand in the text in their order, each directly in parentheses of its own, and none
  of them deeper than the logarithm of their number. -/
  encloses : Fragment.Encloses (max 1 (Nat.clog 2 parts.length)) 0 0 (parts.map (·.text.toList))
    whole.text.toList
  /-- When the phrases state conditions, the whole states a condition that is as true as all of them
  together, or as one of them, however the tests in them are valued. -/
  states : ∀ conditions : List (Condition Parameter), List.Forall₂ States parts conditions →
    ∃ condition : Condition Parameter, whole.States condition ∧
      ∀ valuation, condition.value valuation =
        Clause.composite connective (conditions.map (Condition.value valuation))

/-- Phrases whose parentheses are closed are balanced as promised. -/
theorem balances_balanced (connective : Connective) {parts : List Phrase} (some : parts ≠ [])
    (closed : ∀ part ∈ parts, isClosed part.text = true) :
    Balances connective parts (balanced connective parts) where
  parameters := parameters_balanced connective some
  encloses := encloses_balanced connective some closed
  states conditions each := by
    obtain ⟨condition, states, joins⟩ := states_balanced connective some each
    exact ⟨condition, states, joins.value_eq⟩

/-- Clauses that are joined as a balanced tree, and so all phrases that close their parentheses,
keep their values and their texts in order, each text in parentheses of its own and none deeper than
a tree has to be, and are together as true as the connective says. -/
theorem balanced_staysShallow (connective : Connective) :
    (∀ clauses : List Clause, clauses ≠ [] →
      (Clause.balanced connective clauses).phrase =
          balanced connective (clauses.map Clause.phrase) ∧
        Balances connective (clauses.map Clause.phrase)
          (Clause.balanced connective clauses).phrase) ∧
    ∀ parts : List Phrase, parts ≠ [] → (∀ part ∈ parts, isClosed part.text = true) →
      Balances connective parts (balanced connective parts) := by
  refine ⟨fun clauses some => ⟨Clause.phrase_balanced connective clauses, ?_⟩,
    fun parts some closed => balances_balanced connective some closed⟩
  rw [Clause.phrase_balanced]
  refine balances_balanced connective (by simpa using some) ?_
  rw [List.forall_mem_map]
  exact fun clause _ => clause.isClosed_text

/-- Three phrases, one of which is none of the tests that clauses are made of. -/
def threeTests : List Phrase := [
  ⟨"d.doc_id = ?", [.text "x"]⟩,
  ⟨"NOT (f.value LIKE ?)", [.text "%"]⟩,
  ⟨"1 = 0", []⟩]

/-- Three phrases that no query has are joined no deeper than three phrases have to be. -/
theorem balanced_staysShallow_threeTests :
    (balanced .disjunction threeTests).text =
        "((d.doc_id = ?)) OR ((NOT (f.value LIKE ?)) OR (1 = 0))" ∧
      threeTests ≠ [] ∧ (∀ part ∈ threeTests, isClosed part.text = true) ∧
      Balances .disjunction threeTests (balanced .disjunction threeTests) := by
  have some : threeTests ≠ [] := List.cons_ne_nil _ _
  have closed : ∀ part ∈ threeTests, isClosed part.text = true := by decide +kernel
  refine ⟨?_, some, closed, (balanced_staysShallow .disjunction).2 threeTests some closed⟩
  simp only [threeTests, balanced, List.length_cons, List.length_nil, List.take, List.drop]
  decide +kernel

end Phrase
end Depot
