import Depot.Blob.Store
import Mathlib.Data.String.Basic
import Mathlib.Tactic.Common

/-!
# Digests as names

A digest in hexadecimal is a name that a folder can hold: it is short, is not two dots, holds no
null character, and is no temporary name. The same is true of the two leading digits that name its
folder.
-/

namespace Depot

/-- A name that leads from a folder to an entry of it. -/
structure FileTree.IsPlain (name : String) : Prop where
  notUp : name ≠ ".."
  short : name.utf8ByteSize ≤ FileTree.nameLimit

/-- Characters of one byte take as many bytes as there are. -/
theorem utf8Len_of_ascii {characters : List Char}
    (ascii : ∀ character ∈ characters, character.val ≤ 127) :
    String.utf8Len characters = characters.length := by
  induction characters with
  | nil => rfl
  | cons character rest inductionHypothesis =>
    rw [List.forall_mem_cons] at ascii
    rw [String.utf8Len_cons, inductionHypothesis ascii.2,
      Char.utf8Size_eq_one_iff.mpr ascii.1, List.length_cons]

/-- A string of such characters takes as many bytes as it has characters. -/
theorem utf8ByteSize_of_ascii {name : String}
    (ascii : ∀ character ∈ name.toList, character.val ≤ 127) :
    name.utf8ByteSize = name.toList.length := by
  rw [← utf8Len_of_ascii ascii, ← String.utf8ByteSize_ofList, String.ofList_toList]

namespace Hex

/-- The digit of a value is a lower-case digit. -/
theorem isLowerDigit_hexDigit : ∀ value < 16, isLowerDigit (Text.hexDigit value) = true := by
  decide

/-- Every hexadecimal digit of a number is a lower-case digit. -/
theorem isLowerDigit_of_mem_hexDigits {width value : Nat} {digit : Char}
    (member : digit ∈ Text.hexDigits width value) : isLowerDigit digit = true := by
  induction width generalizing value with
  | zero => cases member
  | succ width inductionHypothesis =>
    rw [Text.hexDigits, List.mem_append, List.mem_singleton] at member
    rcases member with earlier | rfl
    · exact inductionHypothesis earlier
    · exact isLowerDigit_hexDigit (value % 16) (Nat.mod_lt value (by decide))

/-- A lower-case digit takes one byte. -/
theorem val_le_of_isLowerDigit {digit : Char} (lower : isLowerDigit digit = true) :
    digit.val ≤ 127 := by
  simp only [isLowerDigit, Bool.or_eq_true, Bool.and_eq_true, decide_eq_true_eq] at lower
  rcases lower with ⟨-, upper⟩ | ⟨-, upper⟩
  · exact UInt32.le_trans upper (by decide)
  · exact UInt32.le_trans upper (by decide)

end Hex

namespace Sha256

/-- A digest in hexadecimal has sixty-four characters. -/
theorem length_hexDigest (message : List UInt8) : (hexDigest message).toList.length = 64 := by
  have pairs : ∀ byte ∈ digest message, (Hex.encodeByte byte).length = 2 :=
    fun byte _ => Text.length_hexDigits 2 byte.toNat
  rw [hexDigest, Hex.encode, String.toList_ofList, List.length_flatMap,
    List.map_congr_left pairs, List.map_const', List.sum_replicate_nat, length_digest]

/-- A digest in hexadecimal has lower-case digits alone. -/
theorem isLowerDigit_of_mem_hexDigest {message : List UInt8} {digit : Char}
    (member : digit ∈ (hexDigest message).toList) : Hex.isLowerDigit digit = true := by
  rw [hexDigest, Hex.encode, String.toList_ofList, List.mem_flatMap] at member
  obtain ⟨byte, -, digitOfByte⟩ := member
  exact Hex.isLowerDigit_of_mem_hexDigits digitOfByte

/-- A digest has the form of a digest. -/
theorem isHexDigest_hexDigest (message : List UInt8) : isHexDigest (hexDigest message) = true := by
  have length := length_hexDigest message
  simp only [isHexDigest]
  rw [if_neg (by omega), Bool.and_eq_true, beq_iff_eq, List.all_eq_true]
  exact ⟨length, fun _ member => isLowerDigit_of_mem_hexDigest member⟩

end Sha256

namespace BlobStore

/-- A name of digits, among which line feeds may stand, that is no longer than a digest that a line
feed follows. -/
structure IsDigits (name : String) : Prop where
  digits : ∀ character ∈ name.toList, Hex.isLowerDigit character = true ∨ character = '\n'
  short : name.toList.length ≤ 65

/-- Whether a name is that of a temporary file. -/
def IsTemporary (name : String) : Prop := ".tmp-".toList <+: name.toList

variable {name hash : String}

/-- A text in the form of a digest is a name of digits. -/
theorem isDigits_of_isHexDigest (hexadecimal : Sha256.isHexDigest hash = true) :
    IsDigits hash := by
  simp only [Sha256.isHexDigest] at hexadecimal
  split at hexadecimal
  · rename_i followed
    rw [Bool.and_eq_true, List.all_eq_true] at hexadecimal
    refine ⟨fun character member => ?_, Nat.le_of_eq followed.1⟩
    rw [← List.dropLast_append_getLast? '\n' followed.2, List.mem_append,
      List.mem_singleton] at member
    exact member.imp_left (hexadecimal.2 character)
  · rw [Bool.and_eq_true, beq_iff_eq, List.all_eq_true] at hexadecimal
    exact ⟨fun character member => .inl (hexadecimal.2 character member), by omega⟩

/-- A digest is a name of digits. -/
theorem isDigits_hexDigest (message : List UInt8) : IsDigits (Sha256.hexDigest message) :=
  isDigits_of_isHexDigest (Sha256.isHexDigest_hexDigest message)

/-- The name of the folder of a digest is a name of digits. -/
theorem IsDigits.shardName (isDigits : IsDigits hash) : IsDigits (shardName hash) := by
  rw [BlobStore.shardName]
  constructor
  · intro character member
    rw [String.toList_ofList] at member
    exact isDigits.digits character (List.mem_of_mem_take member)
  · rw [String.toList_ofList, List.length_take]
    omega

/-- A name of digits holds no other characters. -/
theorem IsDigits.not_mem (isDigits : IsDigits name) (character : Char)
    (noDigit : Hex.isLowerDigit character = false) (noFeed : character ≠ '\n') :
    character ∉ name.toList := by
  intro member
  rcases isDigits.digits character member with digit | feed
  · rw [noDigit] at digit
    cases digit
  · exact noFeed feed

/-- A name of digits has characters of one byte. -/
theorem IsDigits.ascii (isDigits : IsDigits name) :
    ∀ character ∈ name.toList, character.val ≤ 127 := by
  intro character member
  rcases isDigits.digits character member with digit | rfl
  · exact Hex.val_le_of_isLowerDigit digit
  · decide

/-- A name of digits is plain. -/
theorem IsDigits.isPlain (isDigits : IsDigits name) : FileTree.IsPlain name := by
  constructor
  · rintro rfl
    exact isDigits.not_mem '.' (by decide) (by decide) (by decide)
  · rw [utf8ByteSize_of_ascii isDigits.ascii]
    exact Nat.le_trans isDigits.short (by decide)

/-- A name of digits holds no null character. -/
theorem IsDigits.noNull (isDigits : IsDigits name) : name.toList.contains '\x00' = false := by
  rw [Bool.eq_false_iff, ne_eq, List.contains_iff_mem]
  exact isDigits.not_mem '\x00' (by decide) (by decide)

/-- A name of digits is no temporary name. -/
theorem IsDigits.not_isTemporary (isDigits : IsDigits name) : ¬ IsTemporary name := by
  intro temporary
  exact isDigits.not_mem '.' (by decide) (by decide)
    (temporary.subset (by decide))

/-- A numbered name is a temporary name. -/
theorem isTemporary_numberedName (number : Nat) : IsTemporary (numberedName number) := by
  rw [IsTemporary, numberedName, String.toList_append]
  exact List.prefix_append _ _

/-- A digest in hexadecimal takes sixty-four bytes. -/
theorem utf8ByteSize_hexDigest (message : List UInt8) :
    (Sha256.hexDigest message).utf8ByteSize = 64 := by
  rw [utf8ByteSize_of_ascii (isDigits_hexDigest message).ascii, Sha256.length_hexDigest]

/-- The first temporary name is plain. -/
theorem isPlain_firstTemporary : FileTree.IsPlain (numberedName 0) := by
  constructor <;> decide

end BlobStore
end Depot
