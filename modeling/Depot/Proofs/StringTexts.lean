import Depot.Json.Reader

/-!
# JSON texts of strings

Between its quotes the JSON text of a string has symbols that stand for themselves, escapes of a
letter and escapes of a code unit. The escapes of the two units of a pair stand for one character
where they meet. The reader takes exactly such texts.
-/

namespace Depot.Json

/-- The escape of a code unit with its four digits. -/
def unitText (first second third fourth : Symbol) : List Symbol :=
  [.char '\\', .char 'u', first, second, third, fourth]

/-- A text starts with the escape of the second unit of a pair. -/
def StartsLowUnit (text : List Symbol) : Prop :=
  ∃ first second third fourth unit rest, text = unitText first second third fourth ++ rest ∧
    codeUnit? first second third fourth = some unit ∧ Utf16.isLowSurrogate unit = true

/-- The symbols between the quotes of a string, and those that they stand for. -/
inductive SymbolsText : List Symbol → List Symbol → Prop
  | nil : SymbolsText [] []
  /-- Any symbol but the quote, the backslash and control characters. -/
  | plain {symbol : Symbol} {rest symbols : List Symbol} (notControl : 32 ≤ symbol.code)
    (notQuote : symbol ≠ .char '"') (notBackslash : symbol ≠ .char '\\')
    (later : SymbolsText rest symbols) : SymbolsText (symbol :: rest) (symbol :: symbols)
  /-- A backslash and a letter. -/
  | escape {letter : Symbol} {char : Char} {rest symbols : List Symbol}
    (named : escaped? letter = some char) (later : SymbolsText rest symbols) :
    SymbolsText (.char '\\' :: letter :: rest) (.char char :: symbols)
  /-- A code unit in hexadecimal that is not the first one of a pair. -/
  | unit {first second third fourth : Symbol} {unit : Nat} {rest symbols : List Symbol}
    (digits : codeUnit? first second third fourth = some unit)
    (alone : Utf16.isHighSurrogate unit = true → ¬ StartsLowUnit rest)
    (later : SymbolsText rest symbols) :
    SymbolsText (unitText first second third fourth ++ rest) (.ofCode unit :: symbols)
  /-- The two code units of a pair in hexadecimal. -/
  | pair {first second third fourth fifth sixth seventh eighth : Symbol} {high low : Nat}
    {rest symbols : List Symbol} (highDigits : codeUnit? first second third fourth = some high)
    (lowDigits : codeUnit? fifth sixth seventh eighth = some low)
    (isHigh : Utf16.isHighSurrogate high = true) (isLow : Utf16.isLowSurrogate low = true)
    (later : SymbolsText rest symbols) :
    SymbolsText
      (unitText first second third fourth ++ (unitText fifth sixth seventh eighth ++ rest))
      (.char (Utf16.ofSurrogates high low) :: symbols)

section

variable {first second third fourth : Symbol} {unit low : Nat} {body rest symbols : List Symbol}

/-! ## Escapes of code units -/

/-- An escape of a unit that does not end a text is found. -/
theorem followingEscape?_unitText (digits : codeUnit? first second third fourth = some unit)
    (nonempty : rest ≠ []) :
    followingEscape? (unitText first second third fourth ++ rest) = some (some unit) := by
  obtain ⟨next, others, rfl⟩ := List.exists_cons_of_ne_nil nonempty
  exact congrArg some digits

/-- What is found as an escape of a unit is one, and does not end the text. -/
theorem of_followingEscape? {found : Option Nat} (follows : followingEscape? body = some found) :
    ∃ first second third fourth rest, body = unitText first second third fourth ++ rest ∧
      rest ≠ [] ∧ codeUnit? first second third fourth = found := by
  rw [followingEscape?.eq_def] at follows
  split at follows
  · rename_i first second third fourth last rest
    exact ⟨first, second, third, fourth, last :: rest, rfl, List.cons_ne_nil _ _,
      Option.some.inj follows⟩
  · cases follows

/-- A letter that may be escaped starts no escape of a unit. -/
theorem ne_of_escaped? {letter : Symbol} {char : Char} (named : escaped? letter = some char) :
    letter ≠ .char 'u' := by
  rintro rfl
  cases named

/-- What looks like an escape of a unit in the text of a string is one. -/
theorem SymbolsText.following (written : SymbolsText body symbols) (tail : List Symbol)
    {found : Option Nat} (follows : followingEscape? (body ++ .char '"' :: tail) = some found) :
    ∃ first second third fourth unit rest, body = unitText first second third fourth ++ rest ∧
      codeUnit? first second third fourth = some unit ∧ found = some unit := by
  obtain ⟨a, b, c, d, others, starts, -, digits⟩ := of_followingEscape? follows
  cases written with
  | nil => cases starts
  | plain notControl notQuote notBackslash later =>
    exact absurd (List.cons.inj starts).1 notBackslash
  | escape named later =>
    exact absurd (List.cons.inj (List.cons.inj starts).2).1 (ne_of_escaped? named)
  | unit unitDigits alone later =>
    refine ⟨_, _, _, _, _, _, rfl, unitDigits, ?_⟩
    rw [List.append_assoc, followingEscape?_unitText unitDigits (by simp)] at follows
    exact (Option.some.inj follows).symm
  | pair highDigits lowDigits isHigh isLow later =>
    refine ⟨_, _, _, _, _, _, rfl, highDigits, ?_⟩
    rw [List.append_assoc, followingEscape?_unitText highDigits (by simp)] at follows
    exact (Option.some.inj follows).symm

/-- The escape of a unit that is not the first one of a pair stands for the symbol of the unit. -/
theorem unicodeEscape_alone (digits : codeUnit? first second third fourth = some unit)
    (alone : Utf16.isHighSurrogate unit = true → ¬ StartsLowUnit rest)
    (later : SymbolsText rest symbols) (tail : List Symbol) :
    unicodeEscape (first :: second :: third :: fourth :: (rest ++ .char '"' :: tail)) =
      .ok (.ofCode unit, 4) := by
  obtain ⟨next, others, nonempty⟩ : ∃ next others, rest ++ .char '"' :: tail = next :: others :=
    List.exists_cons_of_ne_nil (by simp)
  have following {found : Option Nat}
      (follows : followingEscape? (rest ++ .char '"' :: tail) = some found) :=
    later.following tail follows
  rw [nonempty] at following ⊢
  rw [unicodeEscape, digits]
  dsimp only
  split
  · rename_i high
    split
    · rename_i follows
      obtain ⟨_, _, _, _, _, _, -, -, ⟨⟩⟩ := following follows
    · rename_i low follows
      obtain ⟨a, b, c, d, unit, others, starts, lowDigits, ⟨⟩⟩ := following follows
      split
      · rename_i isLow
        exact absurd ⟨a, b, c, d, low, others, starts, lowDigits, isLow⟩ (alone high)
      · rfl
    · rfl
  · rfl

/-- The escapes of the units of a pair stand for the character of the pair. -/
theorem unicodeEscape_pair {fifth sixth seventh eighth : Symbol} {high : Nat}
    (highDigits : codeUnit? first second third fourth = some high)
    (lowDigits : codeUnit? fifth sixth seventh eighth = some low)
    (isHigh : Utf16.isHighSurrogate high = true) (isLow : Utf16.isLowSurrogate low = true)
    (nonempty : rest ≠ []) :
    unicodeEscape
        (first :: second :: third :: fourth :: (unitText fifth sixth seventh eighth ++ rest)) =
      .ok (.char (Utf16.ofSurrogates high low), 10) := by
  have follows := followingEscape?_unitText lowDigits nonempty
  rw [unitText, List.cons_append] at follows ⊢
  rw [unicodeEscape, highDigits]
  dsimp only
  rw [if_pos isHigh, follows]
  exact if_pos isLow

/-! ## Reading symbols -/

/-- A symbol that stands for itself is read as such. -/
theorem readSymbols_plain {symbol : Symbol} (notControl : 32 ≤ symbol.code)
    (notQuote : symbol ≠ .char '"') (notBackslash : symbol ≠ .char '\\') (start position : Nat)
    (rest : List Symbol) :
    readSymbols start position (symbol :: rest) =
      (readSymbols start (position + 1) rest).map fun found => (symbol :: found.1, found.2) := by
  rw [readSymbols]
  · rw [if_neg (Nat.not_lt.mpr notControl)]
    cases readSymbols start (position + 1) rest <;> rfl
  · exact notQuote
  · exact fun same => absurd same notBackslash
  · exact fun _ same => absurd same notBackslash
  · exact fun _ _ same => absurd same notBackslash

/-- An escaped letter is read as the character that it stands for. -/
theorem readSymbols_escape {letter : Symbol} {char : Char} (named : escaped? letter = some char)
    (start position : Nat) (rest : List Symbol) :
    readSymbols start position (.char '\\' :: letter :: rest) =
      (readSymbols start (position + 2) rest).map
        fun found => (.char char :: found.1, found.2) := by
  rw [readSymbols]
  · rw [named]
    cases readSymbols start (position + 2) rest <;> rfl
  · exact ne_of_escaped? named

/-- An escape of code units is read as the symbol that it stands for. -/
theorem readSymbols_unit {symbol : Symbol} {length : Nat}
    (escape : unicodeEscape rest = .ok (symbol, length)) (start position : Nat) :
    readSymbols start position (.char '\\' :: .char 'u' :: rest) =
      (readSymbols start (position + 2 + length) (rest.drop length)).map
        fun found => (symbol :: found.1, found.2) := by
  rw [readSymbols]
  rw [escape]
  dsimp only
  cases readSymbols start (position + 2 + length) (rest.drop length) <;> rfl

/-- The reader takes the text of a string up to its closing quote. -/
theorem readSymbols_of_text (written : SymbolsText body symbols) (start position : Nat)
    (tail : List Symbol) :
    ∃ after, after.rest = tail ∧
      readSymbols start position (body ++ .char '"' :: tail) = .ok (symbols, after) := by
  induction written generalizing position with
  | nil => exact ⟨⟨position + 1, tail⟩, rfl, by rw [List.nil_append, readSymbols]⟩
  | plain notControl notQuote notBackslash later inductionHypothesis =>
    obtain ⟨after, ends, read⟩ := inductionHypothesis (position + 1)
    refine ⟨after, ends, ?_⟩
    rw [List.cons_append, readSymbols_plain notControl notQuote notBackslash, read]
    rfl
  | escape named later inductionHypothesis =>
    obtain ⟨after, ends, read⟩ := inductionHypothesis (position + 2)
    refine ⟨after, ends, ?_⟩
    rw [List.cons_append, List.cons_append, readSymbols_escape named, read]
    rfl
  | unit digits alone later inductionHypothesis =>
    obtain ⟨after, ends, read⟩ := inductionHypothesis (position + 6)
    refine ⟨after, ends, ?_⟩
    simp only [unitText, List.cons_append, List.nil_append]
    rw [readSymbols_unit (unicodeEscape_alone digits alone later tail)]
    simp only [List.drop_succ_cons, List.drop_zero]
    rw [read]
    rfl
  | @pair _ _ _ _ _ _ _ _ _ _ rest _ highDigits lowDigits isHigh isLow later inductionHypothesis =>
    obtain ⟨after, ends, read⟩ := inductionHypothesis (position + 12)
    refine ⟨after, ends, ?_⟩
    have nonempty : rest ++ .char '"' :: tail ≠ [] := by simp
    have escape := unicodeEscape_pair highDigits lowDigits isHigh isLow nonempty
    simp only [unitText, List.cons_append, List.nil_append] at escape ⊢
    rw [readSymbols_unit escape]
    simp only [List.drop_succ_cons, List.drop_zero]
    rw [read]
    rfl

/-- An escape of a unit that is accepted has four digits, and stands for the symbol of the unit or,
with the escape that follows it, for the character of a pair. -/
theorem of_unicodeEscape {symbol : Symbol} {length : Nat}
    (escape : unicodeEscape body = .ok (symbol, length)) :
    ∃ first second third fourth unit rest,
      body = first :: second :: third :: fourth :: rest ∧ rest ≠ [] ∧
      codeUnit? first second third fourth = some unit ∧
      (length = 4 ∧ symbol = .ofCode unit ∧
          (Utf16.isHighSurrogate unit = true → ∀ low, followingEscape? rest = some (some low) →
            Utf16.isLowSurrogate low = false) ∨
        length = 10 ∧ ∃ fifth sixth seventh eighth low further,
          rest = unitText fifth sixth seventh eighth ++ further ∧
          codeUnit? fifth sixth seventh eighth = some low ∧ Utf16.isHighSurrogate unit = true ∧
          Utf16.isLowSurrogate low = true ∧ symbol = .char (Utf16.ofSurrogates unit low)) := by
  rw [unicodeEscape.eq_def] at escape
  split at escape
  · rename_i first second third fourth next rest
    split at escape
    · cases escape
    · rename_i unit digits
      refine ⟨first, second, third, fourth, unit, next :: rest, rfl, List.cons_ne_nil _ _, digits,
        ?_⟩
      split at escape
      · rename_i high
        split at escape
        · cases escape
        · rename_i low follows
          split at escape
          · rename_i isLow
            cases escape
            obtain ⟨e, f, g, h, further, starts, -, lowDigits⟩ := of_followingEscape? follows
            exact .inr ⟨rfl, e, f, g, h, low, further, starts, lowDigits, high, isLow, rfl⟩
          · rename_i notLow
            cases escape
            refine .inl ⟨rfl, rfl, fun _ other found => ?_⟩
            rw [follows] at found
            cases found
            exact Bool.eq_false_iff.mpr notLow
        · rename_i noEscape
          cases escape
          exact .inl ⟨rfl, rfl, fun _ low found => by rw [noEscape] at found; cases found⟩
      · rename_i notHigh
        cases escape
        exact .inl ⟨rfl, rfl, fun high => absurd high notHigh⟩
  · cases escape

/-- What is read in front of further symbols. -/
theorem of_bind_cons {found : Except JsonError (List Symbol × Cursor)} {symbol : Symbol}
    {after : Cursor}
    (read : (do let (later, cursor) ← found; .ok (symbol :: later, cursor)) =
      .ok (symbols, after)) :
    ∃ later, found = .ok (later, after) ∧ symbol :: later = symbols := by
  cases found with
  | error error => cases read
  | ok pair =>
    cases read
    exact ⟨pair.1, rfl, rfl⟩

/-- Whatever the reader takes is the text of a string. -/
theorem text_of_readSymbols {start position : Nat} {after : Cursor}
    (read : readSymbols start position body = .ok (symbols, after)) :
    ∃ inside, body = inside ++ .char '"' :: after.rest ∧ SymbolsText inside symbols := by
  fun_induction readSymbols start position body generalizing symbols after with
  | case1 | case3 | case4 | case6 | case8 => cases read
  | case2 position rest =>
    cases read
    exact ⟨[], rfl, .nil⟩
  | case5 position rest symbol length escape inductionHypothesis =>
    obtain ⟨later, further, rfl⟩ := of_bind_cons read
    obtain ⟨inside, ends, written⟩ := inductionHypothesis further
    obtain ⟨first, second, third, fourth, unit, others, rfl, -, digits,
      ⟨rfl, rfl, alone⟩ | ⟨rfl, e, f, g, h, low, more, rfl, lowDigits, high, isLow, rfl⟩⟩ :=
      of_unicodeEscape escape
    · change others = _ at ends
      subst ends
      refine ⟨_, rfl, .unit digits (fun high => ?_) written⟩
      rintro ⟨a, b, c, d, low, rest, rfl, lowDigits, isLow⟩
      rw [alone high low (by rw [List.append_assoc, followingEscape?_unitText lowDigits (by simp)])]
        at isLow
      cases isLow
    · change more = _ at ends
      subst ends
      exact ⟨_, rfl, .pair digits lowDigits high isLow written⟩
  | case7 position letter rest notUnit char named inductionHypothesis =>
    obtain ⟨later, further, rfl⟩ := of_bind_cons read
    obtain ⟨inside, rfl, written⟩ := inductionHypothesis further
    exact ⟨.char '\\' :: letter :: inside, rfl, .escape named written⟩
  | case9 position symbol rest notQuote notLast notUnit notEscape notControl inductionHypothesis =>
    obtain ⟨later, further, rfl⟩ := of_bind_cons read
    obtain ⟨inside, rfl, written⟩ := inductionHypothesis further
    have notBackslash : symbol ≠ .char '\\' := by
      intro same
      obtain ⟨next, others, nonempty⟩ :
          ∃ next others, inside ++ .char '"' :: after.rest = next :: others :=
        List.exists_cons_of_ne_nil (by simp)
      exact notEscape next others same nonempty
    exact ⟨symbol :: inside, rfl,
      .plain (Nat.not_lt.mp notControl) notQuote notBackslash written⟩

end
end Depot.Json
