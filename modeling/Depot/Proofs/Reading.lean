import Depot.Proofs.Fragments

/-!
# Reading conditions

A written condition is read back as its language is read: words stand between spaces, parentheses
and commas, AND binds its neighbours more tightly than OR, both join from the left, and
parentheses come before both. The reader goes through the tokens once and keeps one level for each
parenthesis that is open. Legible conditions, which have one connective at each level and join
from the left, are read back from their texts as they are; where both connectives stand at one
level, another condition may be read.
-/

namespace Depot

/-- The word of a connective. -/
def Connective.word : Connective → String
  | conjunction => "AND"
  | disjunction => "OR"

/-- The connective that a word stands for. -/
def Connective.ofWord? (word : String) : Option Connective :=
  [conjunction, disjunction].find? fun connective => connective.word == word

/-- The word of a connective stands for it. -/
@[simp] theorem Connective.ofWord?_word (connective : Connective) :
    ofWord? connective.word = some connective := by
  cases connective <;> rfl

/-- The column that a word names. -/
def Column.ofWord? (word : String) : Option Column :=
  [documentId, fieldName, fieldKind, fieldValue].find? fun column => column.text == word

/-- The comparison that a word stands for. -/
def Comparison.ofWord? (word : String) : Option Comparison :=
  [equal, atLeast, atMost].find? fun comparison => comparison.operator == word

/-- What the symbols of a text make up: parentheses, and words, of which the comma is one. -/
inductive Token where
  | opening
  | closing
  | word (letters : String)
  deriving DecidableEq

namespace Token

/-- The tokens of a symbol that ends a word: a space is none. -/
def ofDelimiter? : Char → Option (List Token)
  | ' ' => some []
  | '(' => some [opening]
  | ')' => some [closing]
  | ',' => some [word ","]
  | _ => none

/-- The word of some letters, if there are any. -/
def ofLetters : List Char → List Token
  | [] => []
  | letters => [word (String.ofList letters)]

/-- The tokens of a text, where the letters before it belong to its first word. -/
def scan (letters : List Char) : List Char → List Token
  | [] => ofLetters letters
  | symbol :: rest =>
    match ofDelimiter? symbol with
    | some tokens => ofLetters letters ++ tokens ++ scan [] rest
    | none => scan (letters ++ [symbol]) rest

/-- Whether a word that stands before a text ends there. -/
def endsWord : List Char → Bool
  | [] => true
  | symbol :: _ => (ofDelimiter? symbol).isSome

/-- Where a word ends the text can be cut. -/
theorem scan_append (letters front : List Char) {back : List Char}
    (ends : endsWord back = true) :
    scan letters (front ++ back) = scan letters front ++ scan [] back := by
  induction front generalizing letters with
  | nil =>
    cases back with
    | nil => exact (List.append_nil _).symm
    | cons symbol rest =>
      obtain ⟨tokens, delimiter⟩ := Option.isSome_iff_exists.mp ends
      rw [List.nil_append, scan, scan, scan, delimiter]
      simp [ofLetters]
  | cons symbol rest inductionHypothesis =>
    rw [List.cons_append, scan, scan]
    cases ofDelimiter? symbol with
    | none => exact inductionHypothesis _
    | some tokens =>
      simp only [inductionHypothesis, List.append_assoc]

/-- The token of an opening parenthesis. -/
theorem scan_opening (rest : List Char) : scan [] ('(' :: rest) = opening :: scan [] rest := rfl

/-- The token of a closing parenthesis. -/
theorem scan_closing (rest : List Char) : scan [] ([')'] ++ rest) = closing :: scan [] rest := rfl

end Token

namespace Condition

/-- The words of a list of places. -/
def placeWords : List Unit → List String
  | [] => []
  | [_] => ["?"]
  | _ :: next :: rest => "?" :: "," :: placeWords (next :: rest)

/-- The words of the query that an existence test asks, up to its condition. -/
def queryWords : List String := ["SELECT", "1", "FROM", "document_fields", "f", "WHERE"]

/-- The tokens of a condition. -/
def tokens : Condition Unit → List Token
  | constant value => [.word "1", .word "=", .word (if value then "1" else "0")]
  | owned => [.word "f.document_id", .word "=", .word "d.id"]
  | compare column comparison _ => [.word column.text, .word comparison.operator, .word "?"]
  | among column operands =>
    .word column.text :: .word "IN" :: .opening ::
      ((placeWords operands).map Token.word ++ [.closing])
  | joined connective left right => tokens left ++ .word connective.word :: tokens right
  | grouped inner => .opening :: (tokens inner ++ [.closing])
  | fieldExists inner =>
    .word "EXISTS" :: .opening :: (queryWords.map Token.word ++ tokens inner ++ [.closing])

/-- The tokens of a choice: words, and a list in parentheses. -/
theorem tokens_among (column : Column) (places : List Unit) :
    (among column places).tokens = [column.text, "IN"].map Token.word ++
      (.opening :: ((placeWords places).map Token.word ++ [.closing])) := rfl

/-- The tokens of an existence test: a word, and a query in parentheses. -/
theorem tokens_fieldExists (inner : Condition Unit) :
    (fieldExists inner).tokens = ["EXISTS"].map Token.word ++
      (.opening :: (queryWords.map Token.word ++ inner.tokens ++ [.closing])) := rfl

/-- The written form of a condition has marks in its places. -/
theorem text_eq_written (condition : Condition Unit) :
    condition.text = condition.written fun _ => "?" := by
  rw [← text_shape, shape_self]

open Token

/-- A list of places is made up of its words. -/
theorem scan_places (places : List Unit) :
    scan [] (", ".intercalate (places.map fun _ => "?")).toList =
      (placeWords places).map Token.word := by
  have mark : "?".toList = ['?'] := rfl
  simp only [String.toList_intercalate, List.map_map, Function.comp_def, mark]
  induction places with
  | nil => rfl
  | cons first rest inductionHypothesis =>
    cases rest with
    | nil => rfl
    | cons second others =>
      simp only [List.map_cons, List.intercalate_cons_cons] at inductionHypothesis ⊢
      rw [placeWords, List.map_cons, List.map_cons, ← inductionHypothesis]
      rfl

/-- The text of a condition is made up of its tokens. -/
theorem scan_text (condition : Condition Unit) {rest : List Char} (ends : endsWord rest = true) :
    scan [] (condition.text.toList ++ rest) = condition.tokens ++ scan [] rest := by
  rw [text_eq_written]
  induction condition generalizing rest with
  | constant value =>
    rw [scan_append [] _ ends]
    cases value <;> rfl
  | owned =>
    rw [scan_append [] _ ends]
    rfl
  | compare column comparison operand =>
    have plain : scan [] (column.text ++ " " ++ comparison.operator ++ " " ++ "?").toList =
        [.word column.text, .word comparison.operator, .word "?"] := by
      cases column <;> cases comparison <;> decide +kernel
    rw [scan_append [] _ ends]
    exact congrArg (· ++ scan [] rest) plain
  | among column operands =>
    have front : scan [] (column.text ++ " IN ").toList = [.word column.text, .word "IN"] := by
      cases column <;> decide +kernel
    rw [toList_among, List.append_assoc, List.cons_append, scan_append [] _ rfl, front,
      scan_opening, List.append_assoc, scan_append [] _ rfl, scan_places, scan_closing, tokens]
    simp only [List.cons_append, List.nil_append, List.append_assoc]
  | joined connective left right ofLeft ofRight =>
    have between (back : List Char) : scan [] (connective.text.toList ++ back) =
        .word connective.word :: scan [] back := by
      cases connective <;> rfl
    have spaced (back : List Char) : endsWord (connective.text.toList ++ back) = true := by
      cases connective <;> rfl
    rw [toList_joined, List.append_assoc, List.append_assoc, ofLeft (spaced _), between,
      ofRight ends, tokens, List.append_assoc, List.cons_append]
  | grouped inner ofInner =>
    rw [toList_grouped, List.cons_append, scan_opening, List.append_assoc, ofInner rfl,
      scan_closing, tokens, List.cons_append, List.append_assoc]
    rfl
  | fieldExists inner ofInner =>
    have front (back : List Char) : scan [] ("EXISTS ".toList ++ back) =
        .word "EXISTS" :: scan [] back := rfl
    have query (back : List Char) :
        scan [] ("SELECT 1 FROM document_fields f WHERE ".toList ++ back) =
          queryWords.map Token.word ++ scan [] back := rfl
    rw [toList_fieldExists, List.append_assoc, front, List.cons_append, scan_opening,
      List.append_assoc, List.append_assoc, query, ofInner rfl, scan_closing, tokens]
    simp only [List.cons_append, List.nil_append, List.append_assoc]

end Condition

namespace Reading

/-- What an open parenthesis belongs to. -/
inductive Frame where
  /-- No parenthesis: the whole text. -/
  | outermost
  | group
  /-- The query of an existence test, before its condition. -/
  | query
  /-- The query of an existence test, in its condition. -/
  | existence
  | choice (column : Column)
  deriving DecidableEq

/-- What has been read of an operand: words, or a condition that ended with a parenthesis. -/
inductive Draft where
  | words (read : List String)
  | whole (condition : Condition Unit)

/-- A parenthesis that is open: the alternatives that OR has joined in it, the last of them as far
as AND has joined it, and the operand that is being read. -/
structure Level where
  frame : Frame
  alternatives : Option (Condition Unit)
  conjunction : Option (Condition Unit)
  draft : Draft

/-- A condition after those that have been joined before it. -/
def joinedTo (connective : Connective) (before : Option (Condition Unit))
    (condition : Condition Unit) : Condition Unit :=
  match before with
  | none => condition
  | some left => .joined connective left condition

/-- The places of a list with commas between them. -/
def places? : List String → Option (List Unit)
  | ["?"] => some [()]
  | "?" :: "," :: rest => do some (() :: (← places? rest))
  | _ => none

namespace Draft

/-- The operand that has been read. -/
def condition? : Draft → Option (Condition Unit)
  | whole condition => some condition
  | words ["1", "=", "1"] => some (.constant true)
  | words ["1", "=", "0"] => some (.constant false)
  | words ["f.document_id", "=", "d.id"] => some .owned
  | words [column, comparison, "?"] => do
    some (.compare (← Column.ofWord? column) (← Comparison.ofWord? comparison) ())
  | words _ => none

/-- What a parenthesis belongs to that is opened now. -/
def frame? : Draft → Option Frame
  | words [] => some .group
  | words ["EXISTS"] => some .query
  | words [column, "IN"] => do some (.choice (← Column.ofWord? column))
  | _ => none

end Draft

namespace Level

/-- The level of a parenthesis that has just been opened. -/
def start (frame : Frame) : Level := ⟨frame, none, none, .words []⟩

/-- The condition that has been read: AND comes before OR. -/
def condition? (level : Level) : Option (Condition Unit) := do
  let operand ← level.draft.condition?
  some (joinedTo .disjunction level.alternatives (joinedTo .conjunction level.conjunction operand))

/-- Takes up a connective, which ends an operand, and with OR the alternative as well. -/
def join? (level : Level) : Connective → Option Level
  | .conjunction => do
    let operand ← level.draft.condition?
    some { level with
      conjunction := some (joinedTo .conjunction level.conjunction operand), draft := .words [] }
  | .disjunction => do
    let condition ← level.condition?
    some { level with
      alternatives := some condition, conjunction := none, draft := .words [] }

/-- Takes up a word. -/
def word? (level : Level) (word : String) : Option Level :=
  match Connective.ofWord? word, level.draft with
  | some connective, _ => if level.frame = .query then none else level.join? connective
  | none, .whole _ => none
  | none, .words read =>
    if level.frame = .query ∧ read ++ [word] = Condition.queryWords then some (start .existence)
    else some { level with draft := .words (read ++ [word]) }

/-- What a parenthesis that is closed now stands for, with what it belongs to. -/
def close? (level : Level) : Option (Condition Unit) :=
  match level.frame with
  | .group => level.condition?.map .grouped
  | .existence => level.condition?.map .fieldExists
  | .choice column =>
    match level with
    | ⟨_, none, none, .words read⟩ => (places? read).map (.among column)
    | _ => none
  | _ => none

end Level

/-- Takes up a token; the innermost open parenthesis comes first. -/
def step? : List Level → Token → Option (List Level)
  | level :: outer, .word letters => do some ((← level.word? letters) :: outer)
  | level :: outer, .opening => do some (.start (← level.draft.frame?) :: level :: outer)
  | level :: before :: outer, .closing => do
    some ({ before with draft := .whole (← level.close?) } :: outer)
  | _, _ => none

/-- Takes note of the connective at the innermost level; nothing if there was another one. -/
def mark? : List (Option Connective) → Token → Option (List (Option Connective))
  | seen :: outer, .word letters =>
    match Connective.ofWord? letters with
    | none => some (seen :: outer)
    | some connective =>
      if seen.all fun other => other == connective then some (some connective :: outer) else none
  | levels, .opening => some (none :: levels)
  | _ :: outer, .closing => some outer
  | [], _ => none

end Reading

/-- Whether a text has one connective at most at each level of its parentheses. -/
def Condition.isUnmixed (text : String) : Bool :=
  ((Token.scan [] text.toList).foldlM Reading.mark? [none]).isSome

/-- The condition that a text states, if it states one. -/
def Condition.read? (text : String) : Option (Condition Unit) := do
  match ← (Token.scan [] text.toList).foldlM Reading.step? [.start .outermost] with
  | [level] => level.condition?
  | _ => none

namespace Condition

variable {hole : Type}

/-- The connective that joins a condition at its own level; an operand has none. -/
def connective? : Condition hole → Option Connective
  | joined connective _ _ => some connective
  | _ => none

/-- Whether a condition has one connective at each level that joins operands from the left, and no
list without places. -/
def isLegible : Condition hole → Bool
  | constant _ => true
  | owned => true
  | compare _ _ _ => true
  | among _ operands => !operands.isEmpty
  | joined connective left right =>
    left.isLegible && left.connective?.all (· == connective) &&
      right.isLegible && right.connective?.isNone
  | grouped inner => inner.isLegible
  | fieldExists inner => inner.isLegible

end Condition

namespace Reading

open Condition

/-- Words other than connectives are taken up one after the other. -/
theorem foldlM_words {frame : Frame} (notQuery : frame ≠ .query) (words : List String)
    (plain : ∀ word ∈ words, Connective.ofWord? word = none)
    (alternatives conjunction : Option (Condition Unit)) (outer : List Level)
    (read : List String) :
    (words.map Token.word).foldlM step? (⟨frame, alternatives, conjunction, .words read⟩ :: outer) =
      some (⟨frame, alternatives, conjunction, .words (read ++ words)⟩ :: outer) := by
  induction words generalizing read with
  | nil => rw [List.append_nil]; rfl
  | cons word rest inductionHypothesis =>
    rw [List.forall_mem_cons] at plain
    have taken : (Level.mk frame alternatives conjunction (.words read)).word? word =
        some ⟨frame, alternatives, conjunction, .words (read ++ [word])⟩ := by
      rw [Level.word?, plain.1]
      exact if_neg fun query => notQuery query.1
    rw [List.map_cons, List.foldlM_cons, step?, taken]
    rw [← List.singleton_append (l := rest), ← List.append_assoc]
    exact inductionHypothesis plain.2 _

/-- The condition is read in a level in which no operand has been begun, as the next operand. -/
def ReadsOperand (condition : Condition Unit) : Prop :=
  ∀ frame ≠ Frame.query, ∀ (alternatives conjunction : Option (Condition Unit))
    (outer : List Level), ∃ draft : Draft, draft.condition? = some condition ∧
      condition.tokens.foldlM step? (⟨frame, alternatives, conjunction, .words []⟩ :: outer) =
        some (⟨frame, alternatives, conjunction, draft⟩ :: outer)

/-- The condition is read in a new level; unless OR has joined it there are no alternatives. -/
def ReadsLevel (condition : Condition Unit) : Prop :=
  ∀ frame ≠ Frame.query, ∀ outer : List Level, ∃ level : Level, level.frame = frame ∧
    level.condition? = some condition ∧
    (condition.connective? ≠ some .disjunction → level.alternatives = none) ∧
    condition.tokens.foldlM step? (.start frame :: outer) = some (level :: outer)

/-- An operand fills a new level. -/
theorem ReadsOperand.level {condition : Condition Unit} (reads : ReadsOperand condition) :
    ReadsLevel condition := by
  intro frame notQuery outer
  obtain ⟨draft, isCondition, done⟩ := reads frame notQuery none none outer
  refine ⟨⟨frame, none, none, draft⟩, rfl, ?_, fun _ => rfl, done⟩
  rw [Level.condition?, isCondition]
  rfl

/-- An operand is read in both ways. -/
theorem ReadsOperand.both {condition : Condition Unit} (reads : ReadsOperand condition) :
    (condition.connective? = none → ReadsOperand condition) ∧ ReadsLevel condition :=
  ⟨fun _ => reads, reads.level⟩

/-- Words that state a condition are an operand. -/
theorem readsOperand_of_words {condition : Condition Unit} (words : List String)
    (isWords : condition.tokens = words.map Token.word)
    (plain : ∀ word ∈ words, Connective.ofWord? word = none)
    (stated : (Draft.words words).condition? = some condition) : ReadsOperand condition := by
  intro frame notQuery alternatives conjunction outer
  refine ⟨.words words, stated, ?_⟩
  rw [isWords]
  exact foldlM_words notQuery words plain alternatives conjunction outer []

/-- No word in front of a list of places is a connective. -/
theorem ofWord?_choice (column : Column) :
    ∀ word ∈ [column.text, "IN"], Connective.ofWord? word = none := by
  cases column <;> decide +kernel

/-- No word of a list of places is a connective. -/
theorem ofWord?_of_mem_placeWords (places : List Unit) :
    ∀ word ∈ placeWords places, Connective.ofWord? word = none := by
  induction places with
  | nil => nofun
  | cons first rest inductionHypothesis =>
    cases rest with
    | nil =>
      intro word member
      rw [List.mem_singleton.mp member]
      rfl
    | cons second others =>
      rw [placeWords, List.forall_mem_cons, List.forall_mem_cons]
      exact ⟨rfl, rfl, inductionHypothesis⟩

/-- A list of places is read back, unless it has none. -/
theorem places?_placeWords (first : Unit) (rest : List Unit) :
    places? (placeWords (first :: rest)) = some (first :: rest) := by
  induction rest generalizing first with
  | nil => rfl
  | cons second others inductionHypothesis =>
    rw [placeWords, places?, inductionHypothesis]
    rfl

/-- What is opened, read and closed becomes the operand of the level in which it was opened. -/
theorem foldlM_parentheses (level : Level) {within : Level} {frame : Frame} {inner : List Token}
    {condition : Condition Unit} {outer : List Level} (opens : level.draft.frame? = some frame)
    (read : inner.foldlM step? (.start frame :: level :: outer) = some (within :: level :: outer))
    (closes : within.close? = some condition) :
    (Token.opening :: (inner ++ [.closing])).foldlM step? (level :: outer) =
      some ({ level with draft := .whole condition } :: outer) := by
  have opened : step? (level :: outer) .opening = some (.start frame :: level :: outer) := by
    rw [step?, opens]
    rfl
  have closed : step? (within :: level :: outer) .closing =
      some ({ level with draft := .whole condition } :: outer) := by
    rw [step?, closes]
    rfl
  rw [List.foldlM_cons, opened, Option.bind_eq_bind, Option.bind_some, List.foldlM_append, read]
  exact congrArg (Option.bind · some) closed

/-- A choice among places is an operand. -/
theorem readsOperand_among (column : Column) (first : Unit) (rest : List Unit) :
    ReadsOperand (.among column (first :: rest)) := by
  intro frame notQuery alternatives conjunction outer
  have front := foldlM_words notQuery _ (ofWord?_choice column) alternatives conjunction outer []
  have opens : (Draft.words [column.text, "IN"]).frame? = some (.choice column) := by
    cases column <;> rfl
  let level : Level := ⟨frame, alternatives, conjunction, .words [column.text, "IN"]⟩
  have notQueryInside : Frame.choice column ≠ .query := nofun
  have listed := foldlM_words notQueryInside _ (ofWord?_of_mem_placeWords (first :: rest)) none none
    (level :: outer) []
  have closes : (Level.mk (.choice column) none none (.words (placeWords (first :: rest)))).close? =
      some (.among column (first :: rest)) := by
    rw [Level.close?]
    simp only [places?_placeWords, Option.map_some]
  refine ⟨.whole (.among column (first :: rest)), rfl, ?_⟩
  rw [tokens_among, List.foldlM_append, front]
  exact foldlM_parentheses level opens listed closes

/-- A condition in parentheses is an operand. -/
theorem ReadsLevel.grouped {inner : Condition Unit} (reads : ReadsLevel inner) :
    ReadsOperand (.grouped inner) := by
  intro frame notQuery alternatives conjunction outer
  let level : Level := ⟨frame, alternatives, conjunction, .words []⟩
  obtain ⟨within, isGroup, isCondition, -, read⟩ := reads .group nofun (level :: outer)
  have closes : within.close? = some (.grouped inner) := by
    rw [Level.close?, isGroup, isCondition]
    rfl
  exact ⟨.whole (.grouped inner), rfl, foldlM_parentheses level rfl read closes⟩

/-- An existence test is an operand. -/
theorem ReadsLevel.fieldExists {inner : Condition Unit} (reads : ReadsLevel inner) :
    ReadsOperand (.fieldExists inner) := by
  intro frame notQuery alternatives conjunction outer
  have front := foldlM_words notQuery ["EXISTS"] (by decide +kernel) alternatives conjunction
    outer []
  let level : Level := ⟨frame, alternatives, conjunction, .words ["EXISTS"]⟩
  obtain ⟨within, isExistence, isCondition, -, read⟩ := reads .existence nofun (level :: outer)
  have query : (queryWords.map Token.word).foldlM step? (.start .query :: level :: outer) =
      some (.start .existence :: level :: outer) := rfl
  have closes : within.close? = some (.fieldExists inner) := by
    rw [Level.close?, isExistence, isCondition]
    rfl
  refine ⟨.whole (.fieldExists inner), rfl, ?_⟩
  rw [tokens_fieldExists, List.foldlM_append, front]
  refine foldlM_parentheses level rfl ?_ closes
  rw [List.foldlM_append, query]
  exact read

/-- After AND the conjunction goes on, if there are no alternatives before it. -/
theorem Level.join?_conjunction {level : Level} {left : Condition Unit}
    (isLeft : level.condition? = some left) (single : level.alternatives = none) :
    level.join? .conjunction = some ⟨level.frame, none, some left, .words []⟩ := by
  rw [condition?, single] at isLeft
  rw [join?]
  cases drafted : level.draft.condition? with
  | none => rw [drafted] at isLeft; cases isLeft
  | some operand =>
    rw [drafted] at isLeft
    cases isLeft
    change some (Level.mk level.frame level.alternatives _ _) = _
    rw [single]
    rfl

/-- After OR a new alternative begins. -/
theorem Level.join?_disjunction {level : Level} {left : Condition Unit}
    (isLeft : level.condition? = some left) :
    level.join? .disjunction = some ⟨level.frame, some left, none, .words []⟩ := by
  rw [join?, isLeft]
  rfl

/-- A connective is taken up by joining. -/
theorem step?_connective {level joined : Level} {connective : Connective}
    (notQuery : level.frame ≠ .query) (joins : level.join? connective = some joined)
    (outer : List Level) :
    step? (level :: outer) (.word connective.word) = some (joined :: outer) := by
  rw [step?, Level.word?, Connective.ofWord?_word]
  simp only [if_neg notQuery, joins]
  rfl

/-- What a connective joins from the left is read in a new level. -/
theorem ReadsLevel.joined {connective : Connective} {left right : Condition Unit}
    (ofLeft : ReadsLevel left)
    (continues : left.connective?.all (· == connective) = true) (ofRight : ReadsOperand right) :
    ReadsLevel (.joined connective left right) := by
  intro frame notQuery outer
  obtain ⟨before, rfl, isLeft, single, readLeft⟩ := ofLeft frame notQuery outer
  have read (alternatives conjunction : Option (Condition Unit))
      (joins : before.join? connective =
        some ⟨before.frame, alternatives, conjunction, .words []⟩) :
      ∃ draft : Draft, draft.condition? = some right ∧
        (Condition.joined connective left right).tokens.foldlM step?
            (.start before.frame :: outer) =
          some (⟨before.frame, alternatives, conjunction, draft⟩ :: outer) := by
    obtain ⟨draft, isRight, readRight⟩ :=
      ofRight before.frame notQuery alternatives conjunction outer
    refine ⟨draft, isRight, ?_⟩
    rw [tokens, List.foldlM_append, readLeft, Option.bind_eq_bind, Option.bind_some,
      List.foldlM_cons, step?_connective notQuery joins]
    exact readRight
  cases connective with
  | conjunction =>
    -- With alternatives on the left AND would go on with the last of them only.
    have noOr : left.connective? ≠ some .disjunction := by
      intro isOr
      rw [isOr] at continues
      cases continues
    obtain ⟨draft, isRight, done⟩ :=
      read none (some left) (Level.join?_conjunction isLeft (single noOr))
    refine ⟨⟨before.frame, none, some left, draft⟩, rfl, ?_, fun _ => rfl, done⟩
    rw [Level.condition?, isRight]
    rfl
  | disjunction =>
    obtain ⟨draft, isRight, done⟩ := read (some left) none (Level.join?_disjunction isLeft)
    refine ⟨⟨before.frame, some left, none, draft⟩, rfl, ?_, fun noOr => absurd rfl noOr, done⟩
    rw [Level.condition?, isRight]
    rfl

/-- Legible conditions are read in a new level, and as operands if they are operands. -/
theorem reads_of_isLegible {condition : Condition Unit} (legible : condition.isLegible = true) :
    (condition.connective? = none → ReadsOperand condition) ∧ ReadsLevel condition := by
  -- Both at once: a connective reads its left side in a new level and its right side as an operand.
  induction condition with
  | constant value =>
    exact (readsOperand_of_words ["1", "=", if value then "1" else "0"] rfl
      (by cases value <;> decide +kernel) (by cases value <;> rfl)).both
  | owned =>
    exact (readsOperand_of_words ["f.document_id", "=", "d.id"] rfl (by decide +kernel) rfl).both
  | compare column comparison place =>
    exact (readsOperand_of_words [column.text, comparison.operator, "?"] rfl
      (by cases column <;> cases comparison <;> decide +kernel)
      (by cases column <;> cases comparison <;> rfl)).both
  | among column places =>
    cases places with
    | nil => cases legible
    | cons first rest => exact (readsOperand_among column first rest).both
  | joined connective left right ofLeft ofRight =>
    simp only [isLegible, Bool.and_eq_true, Option.isNone_iff_eq_none] at legible
    obtain ⟨⟨⟨leftLegible, continues⟩, rightLegible⟩, isOperand⟩ := legible
    exact ⟨nofun, (ofLeft leftLegible).2.joined continues ((ofRight rightLegible).1 isOperand)⟩
  | grouped inner ofInner => exact (ofInner legible).2.grouped.both
  | fieldExists inner ofInner => exact (ofInner legible).2.fieldExists.both

/-- Words other than connectives leave no mark. -/
theorem foldlM_mark?_words (words : List String)
    (plain : ∀ word ∈ words, Connective.ofWord? word = none) (seen : Option Connective)
    (outer : List (Option Connective)) :
    (words.map Token.word).foldlM mark? (seen :: outer) = some (seen :: outer) := by
  induction words with
  | nil => rfl
  | cons word rest inductionHypothesis =>
    rw [List.forall_mem_cons] at plain
    rw [List.map_cons, List.foldlM_cons, mark?, plain.1]
    exact inductionHypothesis plain.2

/-- What is in parentheses leaves no mark outside of them. -/
theorem foldlM_mark?_parentheses {inner : List Token} {last : Option Connective}
    {levels : List (Option Connective)}
    (marked : inner.foldlM mark? (none :: levels) = some (last :: levels)) :
    (Token.opening :: (inner ++ [.closing])).foldlM mark? levels = some levels := by
  have opened : mark? levels .opening = some (none :: levels) := by cases levels <;> rfl
  rw [List.foldlM_cons, opened, Option.bind_eq_bind, Option.bind_some, List.foldlM_append, marked]
  rfl

/-- The condition leaves no mark at the level at which it stands. -/
def MarksNothing (condition : Condition Unit) : Prop :=
  ∀ (seen : Option Connective) (outer : List (Option Connective)),
    condition.tokens.foldlM mark? (seen :: outer) = some (seen :: outer)

/-- At a new level the condition shows the connective that joins it. -/
def MarksLevel (condition : Condition Unit) : Prop :=
  ∀ outer : List (Option Connective),
    condition.tokens.foldlM mark? (none :: outer) = some (condition.connective? :: outer)

/-- What is in parentheses leaves no mark. -/
theorem MarksLevel.grouped {inner : Condition Unit} (marks : MarksLevel inner) :
    MarksNothing (.grouped inner) :=
  fun _ _ => foldlM_mark?_parentheses (marks _)

/-- An existence test leaves no mark. -/
theorem MarksLevel.fieldExists {inner : Condition Unit} (marks : MarksLevel inner) :
    MarksNothing (.fieldExists inner) := by
  intro seen outer
  have query := foldlM_mark?_words queryWords (by decide +kernel) none (seen :: outer)
  have marked : (queryWords.map Token.word ++ inner.tokens).foldlM mark? (none :: seen :: outer) =
      some (inner.connective? :: seen :: outer) := by
    rw [List.foldlM_append, query]
    exact marks (seen :: outer)
  rw [tokens_fieldExists, List.foldlM_append, foldlM_mark?_words ["EXISTS"] (by decide +kernel)]
  exact foldlM_mark?_parentheses marked

/-- A choice leaves no mark. -/
theorem marksNothing_among (column : Column) (places : List Unit) :
    MarksNothing (.among column places) := by
  intro seen outer
  have front := foldlM_mark?_words _ (ofWord?_choice column) seen outer
  have listed :=
    foldlM_mark?_words _ (ofWord?_of_mem_placeWords places) none (seen :: outer)
  rw [tokens_among, List.foldlM_append, front]
  exact foldlM_mark?_parentheses listed

/-- Legible conditions show their own connective at their own level, and operands show none. -/
theorem marks_of_isLegible {condition : Condition Unit} (legible : condition.isLegible = true) :
    (condition.connective? = none → MarksNothing condition) ∧ MarksLevel condition := by
  have operand {condition : Condition Unit} (isOperand : condition.connective? = none)
      (marks : MarksNothing condition) :
      (condition.connective? = none → MarksNothing condition) ∧ MarksLevel condition := by
    refine ⟨fun _ => marks, fun outer => ?_⟩
    rw [isOperand]
    exact marks none outer
  induction condition with
  | constant value =>
    exact operand rfl (foldlM_mark?_words ["1", "=", if value then "1" else "0"]
      (by cases value <;> decide +kernel))
  | owned =>
    exact operand rfl (foldlM_mark?_words ["f.document_id", "=", "d.id"] (by decide +kernel))
  | compare column comparison place =>
    exact operand rfl (foldlM_mark?_words [column.text, comparison.operator, "?"]
      (by cases column <;> cases comparison <;> decide +kernel))
  | among column places => exact operand rfl (marksNothing_among column places)
  | joined connective left right ofLeft ofRight =>
    simp only [isLegible, Bool.and_eq_true, Option.isNone_iff_eq_none] at legible
    obtain ⟨⟨⟨leftLegible, continues⟩, rightLegible⟩, isOperand⟩ := legible
    refine ⟨nofun, fun outer => ?_⟩
    rw [tokens, List.foldlM_append, (ofLeft leftLegible).2 outer, Option.bind_eq_bind,
      Option.bind_some, List.foldlM_cons, mark?, Connective.ofWord?_word]
    simp only [continues]
    exact (ofRight rightLegible).1 isOperand _ _
  | grouped inner ofInner => exact operand rfl (ofInner legible).2.grouped
  | fieldExists inner ofInner => exact operand rfl (ofInner legible).2.fieldExists

end Reading

namespace Condition

/-- A whole text is made up of the tokens of its condition. -/
theorem scan_toList_text (condition : Condition Unit) :
    Token.scan [] condition.text.toList = condition.tokens := by
  have whole := condition.scan_text (show Token.endsWord [] = true from rfl)
  rw [List.append_nil] at whole
  exact whole.trans (List.append_nil _)

/-- The text of a legible condition has one connective at most at each level. -/
theorem isUnmixed_text {condition : Condition Unit} (legible : condition.isLegible = true) :
    isUnmixed condition.text = true := by
  rw [isUnmixed, scan_toList_text, (Reading.marks_of_isLegible legible).2 []]
  rfl

/-- A legible condition is read back from its text. -/
theorem read?_text {condition : Condition Unit} (legible : condition.isLegible = true) :
    read? condition.text = some condition := by
  obtain ⟨level, -, isCondition, -, read⟩ :=
    (Reading.reads_of_isLegible legible).2 .outermost nofun []
  rw [read?, scan_toList_text, read]
  exact isCondition

end Condition

end Depot
