import Depot.Proofs.Digests
import Depot.Proofs.Folders
import Mathlib.Logic.Function.Basic

/-!
# Where entries lie

A folder that stands at a path has its entries one name further, at a path that is one name
longer. What is put at a location or erased there changes nothing elsewhere.
-/

namespace Depot

namespace Path

/-- Whether a path is no longer than paths may be. -/
def IsShort (path : Path) : Prop := path.text.utf8ByteSize ≤ FileTree.pathLimit

variable {folder : Path} {name other : String}

/-- The text of an entry of a folder with names: that of the folder, a slash and the name. -/
theorem text_child_of_names (named : folder.names ≠ []) (name : String) :
    (folder.child name).text = folder.text ++ "/" ++ name := by
  have childNamed : folder.names ++ [name] ≠ [] := List.append_ne_nil_of_left_ne_nil named _
  rw [text, text, if_neg (fun none => childNamed none.2), if_neg (fun none => named none.2), child,
    String.intercalate_append_of_ne_nil named (List.cons_ne_nil name []),
    String.intercalate_singleton, ← String.append_assoc, ← String.append_assoc]

/-- The text of an entry of a folder without names: the root and the name. -/
theorem text_child_of_no_names (unnamed : folder.names = []) (name : String) :
    (folder.child name).text = folder.root.text ++ name := by
  rw [text, if_neg (fun none => by simp [child] at none), child, unnamed, List.nil_append,
    String.intercalate_singleton]

/-- Entries with shorter names have shorter paths. -/
theorem IsShort.of_child {name other : String} (short : (folder.child name).IsShort)
    (shorter : other.utf8ByteSize ≤ name.utf8ByteSize) : (folder.child other).IsShort := by
  rw [IsShort] at short ⊢
  by_cases named : folder.names = []
  · rw [text_child_of_no_names named, String.utf8ByteSize_append] at short ⊢
    omega
  · rw [text_child_of_names named, String.utf8ByteSize_append] at short ⊢
    omega

/-- An entry of an entry has a longer path. -/
theorem IsShort.parent {name other : String} (short : ((folder.child name).child other).IsShort) :
    (folder.child name).IsShort := by
  have named : (folder.child name).names ≠ [] := by simp [child]
  rw [IsShort] at short ⊢
  rw [text_child_of_names named, String.utf8ByteSize_append, String.utf8ByteSize_append] at short
  omega

/-- An entry holds a null character exactly when its folder or its name does. -/
theorem holdsNull_child (folder : Path) (name : String) :
    (folder.child name).holdsNull = (folder.holdsNull || name.toList.contains '\x00') := by
  simp [holdsNull, child]

end Path

namespace FileTree

section

variable {tree : FileTree} {location : Location}

/-- Putting an entry at a location gives the location that entry. -/
theorem at?_put (tree : FileTree) (notRoot : location ≠ []) (entry : FileEntry) :
    (tree.put location entry).at? = Function.update tree.at? location (some entry) := by
  funext other
  by_cases same : other = location
  · rw [same, tree.at?_put_self notRoot, Function.update_self]
  · rw [at?_put_of_ne (Ne.symm same), Function.update_of_ne same]

/-- Erasing the entry of a location leaves nothing there. -/
theorem at?_erase (tree : FileTree) (notRoot : location ≠ []) :
    (tree.erase location).at? = Function.update tree.at? location none := by
  funext other
  by_cases same : other = location
  · rw [same, at?, if_neg notRoot, erase, valueOf?_eraseEntry_self, Function.update_self]
  · rw [at?, erase, valueOf?_eraseEntry_of_ne (Ne.symm same), Function.update_of_ne same, at?]

/-- Folders stay where a folder is put, or where anything changes that is no folder. -/
theorem foldersKept_of_update {before after : FileTree} {entry : Option FileEntry}
    (changed : after.at? = Function.update before.at? location entry)
    (allowed : entry = some .folder ∨ before.at? location ≠ some .folder) :
    before.FoldersKept after := by
  intro other found
  rw [changed]
  by_cases same : other = location
  · subst same
    rcases allowed with rfl | noFolder
    · exact Function.update_self ..
    · exact absurd found noFolder
  · rwa [Function.update_of_ne same]

end

section

variable {tree : FileTree} {working home : Location} {folder path : Path} {name : String}

/-- A folder that stands at a path stands there while folders stay. -/
theorem FoldersKept.look {before after : FileTree} (kept : before.FoldersKept after)
    (stands : before.look working path = .ok (home, some .folder)) :
    after.look working path = .ok (home, some .folder) := by
  obtain ⟨led, isFolder⟩ := look_eq_ok_iff.mp stands
  exact look_eq_ok_iff.mpr ⟨kept.locate led, kept home isFolder⟩

/-- A path that is too long leads nowhere. -/
theorem look_of_not_isShort (long : ¬ path.IsShort) :
    tree.look working path = .error .nameTooLong := by
  rw [Path.IsShort, Nat.not_le] at long
  rw [look, locate, if_pos long]
  rfl

/-- Names are followed one after the other. -/
theorem follow_append (tree : FileTree) (start : Location) (names more : List String) :
    tree.follow start (names ++ more) =
      (tree.follow start names).bind fun reached => tree.follow reached more := by
  induction names generalizing start with
  | nil => rfl
  | cons name rest inductionHypothesis =>
    rw [List.cons_append, follow, follow]
    split
    · split
      · rfl
      · exact inductionHypothesis _
    · rfl
    · rfl

/-- A plain name leads on from a location exactly when a folder stands there. -/
theorem locate_child (led : tree.locate working folder = .ok home) (plain : IsPlain name)
    (short : (folder.child name).IsShort) :
    tree.locate working (folder.child name) =
      match tree.at? home with
      | some .folder => .ok (home ++ [name])
      | some (.file _) => .error .notFolder
      | none => .error .missing := by
  rw [locate] at led ⊢
  split at led
  · cases led
  · rw [if_neg (Nat.not_lt.mpr short)]
    change tree.follow (if folder.isAbsolute then [] else working) (folder.names ++ [name]) = _
    rw [follow_append, led]
    change tree.follow home [name] = _
    cases stands : tree.at? home with
    | none => simp [follow, stands]
    | some entry =>
      cases entry with
      | file content => simp [follow, stands]
      | folder =>
        simp [follow, stands, if_neg plain.notUp, if_neg (Nat.not_lt.mpr plain.short)]

/-- Looking at an entry of a folder that stands finds what stands there. -/
theorem look_child (stands : tree.look working folder = .ok (home, some .folder))
    (plain : IsPlain name) (short : (folder.child name).IsShort) :
    tree.look working (folder.child name) = .ok (home ++ [name], tree.at? (home ++ [name])) := by
  obtain ⟨led, isFolder⟩ := look_eq_ok_iff.mp stands
  rw [look_eq_ok_iff, locate_child led plain short, isFolder]
  exact ⟨rfl, rfl⟩

/-- Where nothing stands there is no way on. -/
theorem look_child_of_none (free : tree.look working folder = .ok (home, none))
    (plain : IsPlain name) (short : (folder.child name).IsShort) :
    tree.look working (folder.child name) = .error .missing := by
  obtain ⟨led, nothing⟩ := look_eq_ok_iff.mp free
  rw [look, locate_child led plain short, nothing]
  rfl

/-- Making a folder where nothing stands, in a folder that stands, makes that folder alone. -/
theorem ensureFolders_of_none (noNull : path.holdsNull = false)
    (free : tree.look working path = .ok (home, none)) :
    tree.ensureFolders working path = .ok (tree.put home .folder) := by
  have made : tree.makeFolder working path = .ok (tree.put home .folder) := by
    rw [makeFolder, free]
    rfl
  have ensured : tree.ensureFolder working path = .ok (tree.put home .folder) := by
    rw [ensureFolder, made]
  rw [ensureFolders, makeFolders, noNull]
  cases reversed : path.names.reverse with
  | nil =>
    have same : (⟨path.root, []⟩ : Path) = path := by
      rw [← List.reverse_eq_nil_iff.mp reversed]
    simp only [Bool.false_eq_true, if_false, makeReversed, same, ensured, settle]
  | cons first rest =>
    have same : (⟨path.root, (first :: rest).reverse⟩ : Path) = path := by
      rw [← reversed, List.reverse_reverse]
    simp only [Bool.false_eq_true, if_false, makeReversed, same, made, ensured, settle]

/-- Making a folder that stands does nothing. -/
theorem ensureFolders_of_folder (noNull : path.holdsNull = false)
    (stands : tree.look working path = .ok (home, some .folder)) :
    tree.ensureFolders working path = .ok tree := by
  rw [ensureFolders, makeFolders_of_isFolder noNull (isFolder_iff.mpr ⟨home, stands⟩)]

/-- Where no folder stands, bytes are written to an entry of a folder. -/
theorem writeBytes_child (noNull : (folder.child name).holdsNull = false)
    (stands : tree.look working folder = .ok (home, some .folder)) (plain : IsPlain name)
    (short : (folder.child name).IsShort) (noFolder : tree.at? (home ++ [name]) ≠ some .folder)
    (data : List UInt8) :
    tree.writeBytes working (folder.child name) data =
      .ok (tree.put (home ++ [name]) (.file (.bytes data))) :=
  (of_look_file noNull (look_child stands plain short) noFolder (.bytes data)).1

/-- A file is removed from a folder. -/
theorem removeFile_child (stands : tree.look working folder = .ok (home, some .folder))
    (plain : IsPlain name) (short : (folder.child name).IsShort) {content : Content}
    (isFile : tree.at? (home ++ [name]) = some (.file content)) :
    tree.removeFile working (folder.child name) = tree.erase (home ++ [name]) := by
  rw [removeFile, look_child stands plain short, isFile]

/-- A file gets another name in its folder, which nothing there has. -/
theorem renameFile_child {target : String}
    (stands : tree.look working folder = .ok (home, some .folder))
    (plain : IsPlain name) (targetPlain : IsPlain target) (short : (folder.child name).IsShort)
    (targetShort : (folder.child target).IsShort) {content : Content}
    (isFile : tree.at? (home ++ [name]) = some (.file content))
    (free : tree.at? (home ++ [target]) = none) :
    tree.renameFile working (folder.child name) (folder.child target) =
      .ok ((tree.erase (home ++ [name])).put (home ++ [target]) (.file content)) := by
  rw [renameFile, look_child stands plain short, isFile, look_child stands targetPlain targetShort,
    free]
  rfl

end
end FileTree
end Depot
