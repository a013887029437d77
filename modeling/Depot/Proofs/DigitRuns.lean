import Depot.Proofs.ScalarTexts

/-!
# Refused integers

Reading a document moves on in its text, and an integer is refused only where the text has as many
digits in a row as are reported.
-/

namespace Depot.Json

/-- A text has a number of digits in a row that is too large for an integer. -/
def HasLongRun (text : List Symbol) (count : Nat) : Prop :=
  Text.digitLimit < count ∧ ∃ run : List Char, run.map .char <:+: text ∧ run.length = count ∧
    ∀ digit ∈ run, isDigit digit = true

/-- What a reader answers at a cursor: it leaves an end of the text that is there, and refuses an
integer only for digits in that text. -/
structure Stays {α : Type} (cursor : Cursor) (answer : Except JsonError (α × Cursor)) : Prop where
  leaves {value : α} {after : Cursor} (read : answer = .ok (value, after)) :
    after.rest <:+ cursor.rest
  refuses {count : Nat} (refused : answer = .error (.tooManyDigits count)) :
    HasLongRun cursor.rest count

section

variable {α β : Type} {cursor later : Cursor} {answer : Except JsonError (α × Cursor)}

/-- An answer without further reading stays. -/
theorem Stays.ok (within : later.rest <:+ cursor.rest) (value : α) :
    Stays cursor (.ok (value, later)) where
  leaves read := by
    cases read
    exact within
  refuses refused := by cases refused

/-- A malformed text is no refused integer. -/
theorem Stays.fail (cursor later : Cursor) (fault : JsonFault) :
    Stays cursor (later.fail fault : Except JsonError (α × Cursor)) where
  leaves read := by cases read
  refuses refused := by cases refused

/-- What stays at a later cursor stays at an earlier one. -/
theorem Stays.earlier (stays : Stays later answer) (within : later.rest <:+ cursor.rest) :
    Stays cursor answer where
  leaves read := (stays.leaves read).trans within
  refuses refused := by
    obtain ⟨long, run, inside, same, areDigits⟩ := stays.refuses refused
    exact ⟨long, run, inside.trans within.isInfix, same, areDigits⟩

/-- Reading on after an answer that stays, in a way that stays, stays. -/
theorem Stays.bind {next : α × Cursor → Except JsonError (β × Cursor)} (stays : Stays cursor answer)
    (goesOn : ∀ value after, after.rest <:+ cursor.rest → Stays cursor (next (value, after))) :
    Stays cursor (answer >>= next) := by
  cases answer with
  | error error =>
    constructor
    · intro value after read
      cases read
    · intro count refused
      cases refused
      exact stays.refuses rfl
  | ok found => exact goesOn found.1 found.2 (stays.leaves rfl)

/-- The cursor moves on in its text. -/
theorem rest_advance_suffix (cursor : Cursor) (count : Nat) :
    (cursor.advance count).rest <:+ cursor.rest := List.drop_suffix _ _

/-- Passing over blanks moves on. -/
theorem rest_skipBlanks_suffix (cursor : Cursor) : cursor.skipBlanks.rest <:+ cursor.rest :=
  rest_advance_suffix cursor _

/-! ## The readers -/

/-- A string is never refused for its digits. -/
theorem readSymbols_ne_tooManyDigits (start position : Nat) (text : List Symbol) (count : Nat) :
    readSymbols start position text ≠ .error (.tooManyDigits count) := by
  have bind {symbol : Symbol} {found : Except JsonError (List Symbol × Cursor)}
      (fine : found ≠ .error (.tooManyDigits count)) :
      (found >>= fun later => .ok (symbol :: later.1, later.2)) ≠
        (.error (.tooManyDigits count) : Except JsonError (List Symbol × Cursor)) := by
    cases found with
    | error error =>
      rintro ⟨⟩
      exact fine rfl
    | ok found => rintro ⟨⟩
  fun_induction readSymbols start position text with
  | case1 | case2 | case3 | case4 | case6 | case8 => rintro ⟨⟩
  | case5 _ _ _ _ _ inductionHypothesis => exact bind inductionHypothesis
  | case7 _ _ _ _ _ _ inductionHypothesis => exact bind inductionHypothesis
  | case9 _ _ _ _ _ _ _ _ inductionHypothesis => exact bind inductionHypothesis

/-- Reading a string stays. -/
theorem stays_readString (start : Nat) (cursor : Cursor) :
    Stays cursor (readString start cursor) := by
  rw [readString]
  have ofSymbols : Stays cursor (readSymbols start cursor.position cursor.rest) := by
    refine ⟨?_, fun refused => absurd refused (readSymbols_ne_tooManyDigits _ _ _ _)⟩
    intro symbols after read
    obtain ⟨inside, ends, -⟩ := text_of_readSymbols read
    exact ⟨inside ++ [.char '"'], by rw [ends]; simp⟩
  exact ofSymbols.bind fun symbols after within => .ok within _

/-- Reading a string after its quote stays. -/
theorem stays_quoted {rest : List Symbol} (here : cursor.rest = .char '"' :: rest) (start : Nat) :
    Stays cursor (readString start ⟨cursor.position + 1, rest⟩) :=
  (stays_readString start _).earlier (here ▸ List.suffix_cons _ _)

/-- Reading a number stays. -/
theorem stays_readNumber (cursor : Cursor) : Stays cursor (readNumber cursor) where
  leaves read := by
    obtain ⟨text, -, -, rfl⟩ := text_of_readNumber read
    exact rest_advance_suffix cursor _
  refuses refused := by
    obtain ⟨long, run, ⟨before, after, here⟩, same, areDigits⟩ :=
      of_readNumber_tooManyDigits refused
    obtain ⟨front, back, isRest, isFront, -⟩ := List.map_eq_append_iff.mp here.symm
    obtain ⟨left, middle, rfl, -, rfl⟩ := List.map_eq_append_iff.mp isFront
    refine ⟨long, _, ?_, same, areDigits⟩
    rw [map_char_map_toChar fun char member isMark => ?_, isRest]
    · exact ⟨left, back, rfl⟩
    · have isDigit := areDigits char member
      rw [isMark] at isDigit
      cases isDigit

/-- Reading a scalar stays. -/
theorem stays_readScalar (cursor : Cursor) : Stays cursor (readScalar cursor) := by
  rw [readScalar]
  split
  · rename_i rest here
    exact (stays_quoted here _).bind fun text after within => .ok within _
  · split
    · exact .ok (rest_advance_suffix _ _) _
    · exact stays_readNumber cursor

/-- Reading a value, items or entries stays, whatever number of steps is allowed. -/
theorem stays (fuel : Nat) :
    (∀ cursor, Stays cursor (readValue fuel cursor)) ∧
      (∀ cursor, Stays cursor (readItems fuel cursor)) ∧
      ∀ cursor, Stays cursor (readEntries fuel cursor) := by
  induction fuel with
  | zero =>
    exact ⟨fun cursor => .fail cursor cursor _, fun cursor => .fail cursor cursor _,
      fun cursor => .fail cursor cursor _⟩
  | succ fuel inductionHypothesis =>
    obtain ⟨ofValue, ofItems, ofEntries⟩ := inductionHypothesis
    refine ⟨fun cursor => ?_, fun cursor => ?_, fun cursor => ?_⟩
    · have inside : (cursor.advance 1).skipBlanks.rest <:+ cursor.rest :=
        (rest_skipBlanks_suffix _).trans (rest_advance_suffix _ _)
      rw [readValue]
      split
      · dsimp only
        split
        · exact .ok ((rest_advance_suffix _ _).trans inside) _
        · exact ((ofItems _).earlier inside).bind fun items after within => .ok within _
      · dsimp only
        split
        · exact .ok ((rest_advance_suffix _ _).trans inside) _
        · exact ((ofEntries _).earlier inside).bind fun items after within => .ok within _
      · exact stays_readScalar cursor
    · rw [readItems]
      refine (ofValue cursor).bind fun item after within => ?_
      have mark := (rest_skipBlanks_suffix after).trans within
      dsimp only
      split
      · exact .ok ((rest_advance_suffix _ _).trans mark) _
      · have next := (rest_skipBlanks_suffix _).trans ((rest_advance_suffix _ 1).trans mark)
        exact ((ofItems _).earlier next).bind fun items last within => .ok within _
      · exact .fail cursor _ _
    · rw [readEntries]
      split
      · rename_i rest here
        refine (stays_quoted here _).bind fun key after within => ?_
        have colon := (rest_skipBlanks_suffix after).trans within
        dsimp only
        split
        · have next := (rest_skipBlanks_suffix _).trans ((rest_advance_suffix _ 1).trans colon)
          refine ((ofValue _).earlier next).bind fun value last within => ?_
          have mark := (rest_skipBlanks_suffix last).trans within
          dsimp only
          split
          · exact .ok ((rest_advance_suffix _ _).trans mark) _
          · have next := (rest_skipBlanks_suffix _).trans ((rest_advance_suffix _ 1).trans mark)
            exact ((ofEntries _).earlier next).bind fun entries end_ within => .ok within _
          · exact .fail cursor _ _
        · exact .fail cursor _ _
      · exact .fail cursor cursor _

/-- A document is refused for too many digits only when it has as many digits in a row. -/
theorem hasLongRun_of_read {text : List Symbol} {count : Nat}
    (refused : readDocument text = .error (.tooManyDigits count)) : HasLongRun text count := by
  rw [readDocument.eq_def] at refused
  split at refused
  · cases refused
  · let cursor := (Cursor.mk 0 text).skipBlanks
    have within : cursor.rest <:+ text := rest_skipBlanks_suffix (Cursor.mk 0 text)
    change (readValue (2 * text.length + 2) cursor >>= _) = _ at refused
    have ofValue := (stays (2 * text.length + 2)).1 cursor
    cases taken : readValue (2 * text.length + 2) cursor with
    | error error =>
      rw [taken] at refused
      cases refused
      obtain ⟨long, run, inside, same, areDigits⟩ := ofValue.refuses taken
      exact ⟨long, run, inside.trans within.isInfix, same, areDigits⟩
    | ok found =>
      rw [taken] at refused
      change (if found.2.skipBlanks.rest.isEmpty then _ else _) = _ at refused
      split at refused <;> cases refused

end
end Depot.Json
