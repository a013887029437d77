import Depot.Proofs.Reading

/-!
# Reading texts in parentheses

What is read of a text is read of it in parentheses as well, whatever stands around them: the levels
outside of the parentheses stay as they are, and the level inside does not depend on what the
parentheses belong to. So a text in parentheses is an operand, whatever it states by itself.
-/

namespace Depot

namespace Reading

/-- The level with another parenthesis to which it belongs. -/
def Level.within (level : Level) (frame : Frame) : Level := { level with frame := frame }

namespace Level

/-- The level belongs to the other parenthesis. -/
@[simp] theorem frame_within (level : Level) (frame : Frame) : (level.within frame).frame = frame :=
  rfl

/-- The same has been read of the next operand. -/
@[simp] theorem draft_within (level : Level) (frame : Frame) :
    (level.within frame).draft = level.draft := rfl

/-- Connectives are taken up in the same way in every parenthesis. -/
theorem join?_within {level next : Level} {connective : Connective}
    (joined : level.join? connective = some next) (frame : Frame) :
    next.frame = level.frame ∧
      (level.within frame).join? connective = some (next.within frame) := by
  cases connective with
  | conjunction =>
    obtain ⟨operand, isOperand, ⟨⟩⟩ := Option.bind_eq_some_iff.mp joined
    exact ⟨rfl, congrArg (Option.bind · _) isOperand⟩
  | disjunction =>
    obtain ⟨condition, isCondition, ⟨⟩⟩ := Option.bind_eq_some_iff.mp joined
    exact ⟨rfl, congrArg (Option.bind · _) isCondition⟩

/-- Words are taken up in the same way in every parenthesis but that of the query of an existence
test. -/
theorem word?_within {level next : Level} {frame : Frame} {word : String}
    (taken : level.word? word = some next) (plain : level.frame ≠ .query)
    (notQuery : frame ≠ .query) :
    next.frame = level.frame ∧ (level.within frame).word? word = some (next.within frame) := by
  rw [word?] at taken ⊢
  rw [draft_within, frame_within]
  cases isWord : Connective.ofWord? word with
  | some connective =>
    simp only [isWord, plain, if_false] at taken
    simp only [notQuery, if_false]
    exact join?_within taken frame
  | none =>
    cases drafted : level.draft with
    | whole condition =>
      simp only [isWord, drafted] at taken
      cases taken
    | words read =>
      simp only [isWord, drafted, plain, false_and, if_false] at taken
      cases taken
      refine ⟨rfl, ?_⟩
      simp only [notQuery, false_and, if_false]
      rfl

end Level

/-- What happens at the innermost levels of a text happens in the same way when the text stands in a
parenthesis. -/
theorem step?_within {upper next : List Level} {bottom : Level} {token : Token}
    (done : step? (upper ++ [bottom]) token = some next) (plain : bottom.frame ≠ .query)
    {frame : Frame} (notQuery : frame ≠ .query) (outer : List Level) :
    ∃ above below, next = above ++ [below] ∧ below.frame = bottom.frame ∧
      step? (upper ++ bottom.within frame :: outer) token =
        some (above ++ below.within frame :: outer) := by
  cases token with
  | word letters =>
    cases upper with
    | nil =>
      obtain ⟨after, taken, ⟨⟩⟩ := Option.bind_eq_some_iff.mp done
      obtain ⟨sameFrame, within⟩ := Level.word?_within taken plain notQuery
      exact ⟨[], after, rfl, sameFrame, congrArg (Option.bind · _) within⟩
    | cons level rest =>
      obtain ⟨after, taken, ⟨⟩⟩ := Option.bind_eq_some_iff.mp done
      exact ⟨after :: rest, bottom, rfl, rfl, congrArg (Option.bind · _) taken⟩
  | opening =>
    cases upper with
    | nil =>
      obtain ⟨opened, isFrame, ⟨⟩⟩ := Option.bind_eq_some_iff.mp done
      exact ⟨[.start opened], bottom, rfl, rfl, congrArg (Option.bind · _) isFrame⟩
    | cons level rest =>
      obtain ⟨opened, isFrame, ⟨⟩⟩ := Option.bind_eq_some_iff.mp done
      exact ⟨.start opened :: level :: rest, bottom, rfl, rfl, congrArg (Option.bind · _) isFrame⟩
  | closing =>
    match upper with
    | [] => cases done
    | [level] =>
      obtain ⟨closed, isClosed, ⟨⟩⟩ := Option.bind_eq_some_iff.mp done
      exact ⟨[], { bottom with draft := .whole closed }, rfl, rfl,
        congrArg (Option.bind · _) isClosed⟩
    | level :: before :: rest =>
      obtain ⟨closed, isClosed, ⟨⟩⟩ := Option.bind_eq_some_iff.mp done
      exact ⟨{ before with draft := .whole closed } :: rest, bottom, rfl, rfl,
        congrArg (Option.bind · _) isClosed⟩

/-- A text is read in the same way when it stands in a parenthesis. -/
theorem foldlM_within {tokens : List Token} {upper final : List Level} {bottom : Level}
    (done : tokens.foldlM step? (upper ++ [bottom]) = some final) (plain : bottom.frame ≠ .query)
    {frame : Frame} (notQuery : frame ≠ .query) (outer : List Level) :
    ∃ above below, final = above ++ [below] ∧
      tokens.foldlM step? (upper ++ bottom.within frame :: outer) =
        some (above ++ below.within frame :: outer) := by
  induction tokens generalizing upper bottom with
  | nil =>
    cases done
    exact ⟨upper, bottom, rfl, rfl⟩
  | cons token rest inductionHypothesis =>
    rw [List.foldlM_cons] at done
    obtain ⟨next, stepped, later⟩ := Option.bind_eq_some_iff.mp done
    obtain ⟨above, below, rfl, sameFrame, within⟩ := step?_within stepped plain notQuery outer
    rw [List.foldlM_cons, within]
    exact inductionHypothesis later (sameFrame ▸ plain)

/-- Tokens are read as a condition in a new level, whatever parenthesis it belongs to. -/
def ReadsAs (tokens : List Token) (condition : Condition Unit) : Prop :=
  ∀ frame ≠ Frame.query, ∀ outer : List Level, ∃ level : Level, level.frame = frame ∧
    level.condition? = some condition ∧
    tokens.foldlM step? (.start frame :: outer) = some (level :: outer)

/-- Tokens are read as the next operand of a level. -/
def ReadsNext (tokens : List Token) (condition : Condition Unit) : Prop :=
  ∀ frame ≠ Frame.query, ∀ (alternatives conjunction : Option (Condition Unit))
    (outer : List Level),
    tokens.foldlM step? (⟨frame, alternatives, conjunction, .words []⟩ :: outer) =
      some (⟨frame, alternatives, conjunction, .whole condition⟩ :: outer)

/-- What is read of a whole text is read of it in parentheses as well. -/
theorem readsAs_of_read? {text : String} {condition : Condition Unit}
    (read : Condition.read? text = some condition) :
    ReadsAs (Token.scan [] text.toList) condition := by
  intro frame notQuery outer
  rw [Condition.read?] at read
  obtain ⟨final, done, ends⟩ := Option.bind_eq_some_iff.mp read
  have alone : (Token.scan [] text.toList).foldlM step?
      ([] ++ [.start .outermost]) = some final := done
  obtain ⟨above, below, rfl, within⟩ := foldlM_within alone (by decide) notQuery outer
  cases above with
  | nil => exact ⟨below.within frame, rfl, ends, within⟩
  | cons level rest => cases rest <;> cases ends

/-- Tokens in parentheses are an operand. -/
theorem ReadsAs.grouped {tokens : List Token} {condition : Condition Unit}
    (reads : ReadsAs tokens condition) :
    ReadsNext (.opening :: (tokens ++ [.closing])) (.grouped condition) := by
  intro frame notQuery alternatives conjunction outer
  let level : Level := ⟨frame, alternatives, conjunction, .words []⟩
  obtain ⟨within, isGroup, isCondition, read⟩ := reads .group nofun (level :: outer)
  have closes : within.close? = some (.grouped condition) := by
    rw [Level.close?, isGroup, isCondition]
    rfl
  exact foldlM_parentheses level rfl read closes

/-- An operand fills a new level. -/
theorem ReadsNext.readsAs {tokens : List Token} {condition : Condition Unit}
    (reads : ReadsNext tokens condition) : ReadsAs tokens condition :=
  fun frame notQuery outer => ⟨_, rfl, rfl, reads frame notQuery none none outer⟩

/-- Two operands with a connective between them fill a new level. -/
theorem ReadsNext.joined {front back : List Token} {left right : Condition Unit}
    (ofLeft : ReadsNext front left) (ofRight : ReadsNext back right) (connective : Connective) :
    ReadsAs (front ++ .word connective.word :: back) (.joined connective left right) := by
  intro frame notQuery outer
  have read := ofLeft frame notQuery none none outer
  cases connective with
  | conjunction =>
    refine ⟨⟨frame, none, some left, .whole right⟩, rfl, rfl, ?_⟩
    have joins : step? (⟨frame, none, none, .whole left⟩ :: outer)
        (.word Connective.conjunction.word) =
          some (⟨frame, none, some left, .words []⟩ :: outer) :=
      step?_connective notQuery (Level.join?_conjunction rfl rfl) outer
    rw [List.foldlM_append, Level.start, read, Option.bind_eq_bind, Option.bind_some,
      List.foldlM_cons, joins]
    exact ofRight frame notQuery none (some left) outer
  | disjunction =>
    refine ⟨⟨frame, some left, none, .whole right⟩, rfl, rfl, ?_⟩
    have joins : step? (⟨frame, none, none, .whole left⟩ :: outer)
        (.word Connective.disjunction.word) =
          some (⟨frame, some left, none, .words []⟩ :: outer) :=
      step?_connective notQuery (Level.join?_disjunction rfl) outer
    rw [List.foldlM_append, Level.start, read, Option.bind_eq_bind, Option.bind_some,
      List.foldlM_cons, joins]
    exact ofRight frame notQuery (some left) none outer

/-- Tokens that are read as a condition in a level of their own state the condition. -/
theorem ReadsAs.read?_eq {text : String} {condition : Condition Unit}
    (reads : ReadsAs (Token.scan [] text.toList) condition) :
    Condition.read? text = some condition := by
  obtain ⟨level, -, isCondition, done⟩ := reads .outermost nofun []
  rw [Condition.read?, done]
  exact isCondition

end Reading
end Depot
