import Depot.Command.Run

/-!
# What a console shows

A text is plain when nothing in it can be taken for a tag, for the name of a sign or for a control
character. A console that reads markup shows plain texts as they are, and drops the tags that colour
a plain line. Of failures with plain messages it shows all that there is to show.
-/

namespace Depot

namespace Console

/-- Whether a character may follow the bracket of a tag. -/
def startsTag (char : Char) : Bool := char.isLower || char == '#' || char == '/' || char == '@'

/-- Whether a colon comes before the next blank. -/
def reachesColon : List Char → Bool
  | [] => false
  | char :: rest => char == ':' || (char != ' ' && reachesColon rest)

/-- Whether a character stands for itself before other characters: it begins no tag, as a colon
begins no name of a sign, as a backslash escapes no bracket, and is no control character. -/
def isPlainBefore (rest : List Char) (char : Char) : Bool :=
  32 ≤ char.toNat && !(char == '[' && rest.head?.any startsTag) &&
    !(char == ':' && reachesColon rest) && !(char == '\\' && rest.head?.all (· == '['))

/-- Whether all characters of a text stand for themselves. -/
def arePlain : List Char → Bool
  | [] => true
  | char :: rest => isPlainBefore rest char && arePlain rest

/-- Whether a text is plain. -/
def isPlain (text : String) : Bool := arePlain text.toList

/-- The tags that colour a line. -/
def colours : List (String × String) := [("[red]", "[/red]"), ("[yellow]", "[/yellow]")]

end Console

/-- Whether an output holds only plain texts. -/
def Output.isPlain : Output → Bool
  | line text => Console.isPlain text
  | table headers rows => (headers :: rows).all fun row => row.all Console.isPlain

/-- A console reads markup: it shows plain outputs as they are, and of a plain line between two tags
that colour it what stands between them. -/
structure Console.ReadsMarkup (console : Console) : Prop where
  plain : ∀ output : Output, output.isPlain = true → console.print output = .ok output
  coloured : ∀ colour ∈ colours, ∀ text, isPlain text = true →
    console.print (.line (colour.1 ++ text ++ colour.2)) = .ok (.line text)

namespace Console

/-- Whether a character stands for itself wherever it stands. -/
def isOrdinary (char : Char) : Bool :=
  32 ≤ char.toNat && char != '[' && char != ':' && char != '\\'

/-- A text of ordinary characters is plain. -/
theorem isPlain_of_all {text : String} (ordinary : text.toList.all isOrdinary = true) :
    isPlain text = true := by
  rw [isPlain]
  generalize text.toList = chars at ordinary ⊢
  induction chars with
  | nil => rfl
  | cons char rest inductionHypothesis =>
    rw [List.all_cons, Bool.and_eq_true] at ordinary
    obtain ⟨first, later⟩ := ordinary
    simp only [isOrdinary, Bool.and_eq_true, bne_iff_ne, ne_eq] at first
    rw [arePlain, inductionHypothesis later]
    simp [isPlainBefore, first]

/-- Digits are ordinary. -/
theorem isOrdinary_of_isDigit {char : Char} (isDigit : char.isDigit = true) :
    isOrdinary char = true := by
  have visible : 32 ≤ char.toNat := by
    simp only [Char.isDigit, Bool.and_eq_true, decide_eq_true_iff, ge_iff_le,
      UInt32.le_iff_toNat_le] at isDigit
    exact Nat.le_trans (by decide) isDigit.1
  simp only [isOrdinary, Bool.and_eq_true, bne_iff_ne, ne_eq, decide_eq_true_iff]
  refine ⟨⟨⟨visible, ?_⟩, ?_⟩, ?_⟩ <;>
    exact fun same => absurd (same ▸ isDigit) (by decide)

/-- A number is written with ordinary characters. -/
theorem all_isOrdinary_toString (number : Int) :
    (toString number).toList.all isOrdinary = true := by
  have digits (natural : Nat) : natural.repr.toList.all isOrdinary = true := by
    rw [Nat.repr_eq_ofList_toDigits, String.toList_ofList, List.all_eq_true]
    exact fun char member =>
      isOrdinary_of_isDigit (Nat.isDigit_of_mem_toDigits (by decide) (by decide) member)
  cases number with
  | ofNat natural => exact digits natural
  | negSucc natural =>
    change ("-" ++ natural.succ.repr).toList.all isOrdinary = true
    rw [String.toList_append, List.all_append, digits]
    rfl

end Console

/-! ## The console that knows the tags of commands -/

namespace Console

/-- No tag of commands begins with a bracket that no tag can begin with. -/
theorem find?_tags_eq_none {char : Char} {rest : List Char}
    (noTag : (char == '[' && rest.head?.any startsTag) = false) :
    tags.find? (fun tag => tag.isPrefixOf (char :: rest)) = none := by
  rw [List.find?_eq_none]
  intro tag member isBefore
  obtain ⟨next, others, rfl, starts⟩ : ∃ next others, tag = '[' :: next :: others ∧
      startsTag next = true := by
    revert tag
    simp only [tags, List.map_cons, List.map_nil, List.forall_mem_cons]
    refine ⟨fun _ => ⟨_, _, rfl, rfl⟩, fun _ => ⟨_, _, rfl, rfl⟩, fun _ => ⟨_, _, rfl, rfl⟩,
      fun _ => ⟨_, _, rfl, rfl⟩, fun _ => ⟨_, _, rfl, rfl⟩, fun _ => ⟨_, _, rfl, rfl⟩, nofun⟩
  obtain ⟨remaining, equal⟩ := List.isPrefixOf_iff_prefix.mp isBefore
  cases equal
  simp [starts] at noTag

/-- Plain characters stay what they are without tags, unless what follows makes a tag of them. -/
theorem withoutTags_append {text rest : List Char} (plain : arePlain text = true)
    (next : rest.head?.any startsTag = false) :
    withoutTags (text ++ rest) = text ++ withoutTags rest := by
  induction text with
  | nil => rfl
  | cons char others inductionHypothesis =>
    rw [arePlain, Bool.and_eq_true] at plain
    have noTag : (char == '[' && (others ++ rest).head?.any startsTag) = false := by
      cases others with
      | nil => rw [List.nil_append, next, Bool.and_false]
      | cons =>
        have before := plain.1
        simp only [isPlainBefore, Bool.and_eq_true, Bool.not_eq_true'] at before
        exact before.1.1.2
    rw [List.cons_append, withoutTags, find?_tags_eq_none noTag]
    simp only
    rw [inductionHypothesis plain.2, List.cons_append]

/-- Plain texts have no tags to drop. -/
theorem withoutTags_of_arePlain {text : List Char} (plain : arePlain text = true) :
    withoutTags text = text := by
  have dropped := @withoutTags_append text [] plain rfl
  rw [List.append_nil, withoutTags, List.append_nil] at dropped
  exact dropped

/-- The tags of commands are dropped. -/
theorem withoutTags_tag_append {tag : List Char} (member : tag ∈ tags) (rest : List Char) :
    withoutTags (tag ++ rest) = withoutTags rest := by
  have found : tags.find? (fun other => other.isPrefixOf (tag ++ rest)) = some tag := by
    revert tag
    simp only [tags, List.map_cons, List.map_nil, List.forall_mem_cons]
    exact ⟨rfl, rfl, rfl, rfl, rfl, rfl, nofun⟩
  cases tag with
  | nil => exact absurd member (by decide)
  | cons char others =>
    rw [List.cons_append] at found ⊢
    rw [withoutTags, found]
    simp

/-- The console that knows the tags of commands reads markup. -/
theorem readsMarkup_plain : plain.ReadsMarkup where
  plain output isPlain := by
    cases output with
    | line text =>
      change Except.ok (Output.line (String.ofList (withoutTags text.toList))) = .ok (.line text)
      rw [withoutTags_of_arePlain isPlain, String.ofList_toList]
    | table headers rows => rfl
  coloured colour member text isPlain := by
    change Except.ok
      (Output.line (String.ofList (withoutTags (colour.1 ++ text ++ colour.2).toList)))
      = .ok (.line text)
    rw [String.toList_append, String.toList_append, List.append_assoc]
    suffices withoutTags (colour.1.toList ++ (text.toList ++ colour.2.toList)) = text.toList by
      rw [this, String.ofList_toList]
    have areTags : colour.1.toList ∈ tags ∧ colour.2.toList ∈ tags ∧
        colour.2.toList.head?.any startsTag = false := by
      revert colour
      simp only [colours, List.forall_mem_cons]
      exact ⟨by decide, by decide, nofun⟩
    obtain ⟨opening, closing, noTag⟩ := areTags
    have closed := withoutTags_tag_append closing []
    rw [List.append_nil, withoutTags] at closed
    rw [withoutTags_tag_append opening, withoutTags_append isPlain noTag, closed, List.append_nil]

end Console

/-! ## Failures -/

namespace Report

/-- What there is to show of a failure that came up at work: its title and its message, if it has a
title. -/
def ofFailure (failure : Failure) : Report :=
  match failure.title? with
  | some title => ⟨[.line (title ++ ": " ++ failure.message)], [], none, .exit 1⟩
  | none => crashed failure

/-- A console that reads markup shows a failure with a plain message. -/
theorem failed_eq_ofFailure {console : Console} (reads : console.ReadsMarkup) {failure : Failure}
    (plain : ∀ title, failure.title? = some title →
      Console.isPlain (title ++ ": " ++ failure.message) = true) :
    failed console failure = ofFailure failure := by
  rw [failed, ofFailure]
  cases isTitle : failure.title? with
  | none => rfl
  | some title =>
    have coloured := reads.coloured ("[red]", "[/red]") List.mem_cons_self _ (plain title isTitle)
    simp only [← String.append_assoc] at coloured
    simp only [ofLine, printing, failureLine, coloured]
    rfl

end Report

end Depot
