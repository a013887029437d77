import Depot.Proofs.Growing

/-!
# The way of a path

The names of a path say which locations it passes, whatever stands there. A path leads somewhere
exactly when folders stand on its way. Its folders can be made exactly when neither the path nor a
name is too long and no file stands on its way; folders are new on the way alone.
-/

namespace Depot

namespace FileTree

/-- Where a name leads from a location: two dots lead to the folder in which the location lies. -/
def onward (location : Location) (name : String) : Location :=
  if name = ".." then location.dropLast else location ++ [name]

/-- Where names lead from a location, whatever stands on the way. -/
def destination (start : Location) (names : List String) : Location := names.foldl onward start

@[simp]
theorem destination_nil (start : Location) : destination start [] = start := rfl

@[simp]
theorem destination_cons (start : Location) (name : String) (names : List String) :
    destination start (name :: names) = destination (onward start name) names := rfl

theorem destination_append (start : Location) (names more : List String) :
    destination start (names ++ more) = destination (destination start names) more :=
  List.foldl_append

/-- Plain names lead down one by one. -/
theorem destination_of_not_mem {names : List String} (noUp : ".." ∉ names) (start : Location) :
    destination start names = start ++ names := by
  induction names generalizing start with
  | nil => simp
  | cons name rest inductionHypothesis =>
    simp only [List.mem_cons, not_or] at noUp
    simp [inductionHypothesis noUp.2, onward, Ne.symm noUp.1]

end FileTree

namespace Path

/-- The location from which the names of a path are followed. -/
def start (path : Path) (working : Location) : Location :=
  if path.isAbsolute then [] else working

/-- The location to which the names of a path lead. -/
def place (path : Path) (working : Location) : Location :=
  FileTree.destination (path.start working) path.names

/-- A location on the way of a path: the first names of the path, some or all, lead there. -/
def Passes (path : Path) (working location : Location) : Prop :=
  ∃ names, names <+: path.names ∧ FileTree.destination (path.start working) names = location

/-- Every name of a path is short enough for a name. -/
def HasShortNames (path : Path) : Prop :=
  ∀ name ∈ path.names, name.utf8ByteSize ≤ FileTree.nameLimit

variable {path folder : Path} {working location : Location} {name : String}

@[simp]
theorem start_child (folder : Path) (name : String) (working : Location) :
    (folder.child name).start working = folder.start working := rfl

@[simp]
theorem place_child (folder : Path) (name : String) (working : Location) :
    (folder.child name).place working = FileTree.onward (folder.place working) name := by
  rw [place, start_child, child, FileTree.destination_append]
  rfl

/-- Names in reverse order have the last one in front. -/
theorem reverse_cons (root : PathRoot) (name : String) (names : List String) :
    (⟨root, (name :: names).reverse⟩ : Path) = (⟨root, names.reverse⟩ : Path).child name := by
  simp [child]

/-- A path passes the location to which it leads. -/
theorem passes_place (path : Path) (working : Location) :
    path.Passes working (path.place working) := ⟨path.names, List.prefix_rfl, rfl⟩

/-- An entry of a folder is passed after what the folder passes. -/
theorem passes_child_iff :
    (folder.child name).Passes working location ↔
      folder.Passes working location ∨ (folder.child name).place working = location := by
  constructor
  · rintro ⟨names, within, rfl⟩
    rcases List.prefix_concat_iff.mp within with rfl | shorter
    · exact .inr rfl
    · exact .inl ⟨names, shorter, rfl⟩
  · rintro (⟨names, within, rfl⟩ | rfl)
    · exact ⟨names, within.trans (List.prefix_append _ _), rfl⟩
    · exact passes_place _ _

/-- The path of an entry has the names of its folder and one more. -/
theorem hasShortNames_child_iff :
    (folder.child name).HasShortNames ↔
      folder.HasShortNames ∧ name.utf8ByteSize ≤ FileTree.nameLimit := by
  simp [HasShortNames, child, or_imp, forall_and]

/-- The folder of an entry has a path that is no longer. -/
theorem IsShort.of_entry (short : (folder.child name).IsShort) : folder.IsShort := by
  rw [IsShort] at short ⊢
  by_cases named : folder.names = []
  · have brief : folder.text.utf8ByteSize ≤ 2 := by
      rw [text, named]
      cases folder.root <;> decide
    exact brief.trans (by decide)
  · rw [text_child_of_names named, String.utf8ByteSize_append, String.utf8ByteSize_append]
      at short
    omega

end Path

namespace FileTree

section

variable {tree : FileTree} {working location start : Location} {path folder : Path}
  {names : List String} {name : String}

/-- Names lead from a location exactly when they are short and folders stand on the way. -/
theorem follow_eq_ok_iff :
    tree.follow start names = .ok location ↔
      destination start names = location ∧ (∀ name ∈ names, name.utf8ByteSize ≤ nameLimit) ∧
        ∀ passed, passed <+: names → passed ≠ names →
          tree.at? (destination start passed) = some .folder := by
  induction names generalizing start with
  | nil => simp [follow]
  | cons name rest inductionHypothesis =>
    have onTheWay : (∀ passed, passed <+: name :: rest → passed ≠ name :: rest →
        tree.at? (destination start passed) = some .folder) ↔
        tree.at? start = some .folder ∧ ∀ passed, passed <+: rest → passed ≠ rest →
          tree.at? (destination (onward start name) passed) = some .folder := by
      constructor
      · intro stands
        refine ⟨stands [] List.nil_prefix (by simp), fun passed within partly => ?_⟩
        simpa using stands (name :: passed) (List.cons_prefix_cons.mpr ⟨rfl, within⟩)
          (by simpa using partly)
      · rintro ⟨here, further⟩ passed within partly
        rcases List.prefix_cons_iff.mp within with rfl | ⟨shorter, rfl, before⟩
        · exact here
        · exact further shorter before (by simpa using partly)
    rw [onTheWay, follow]
    split
    · rename_i isFolder
      split
      · simp
        omega
      · change tree.follow (onward start name) rest = .ok location ↔ _
        simp [inductionHypothesis, isFolder]
        omega
    · simp_all
    · simp_all

/-- A path leads to a location exactly when it is short enough and folders stand on the way. -/
theorem locate_eq_ok_iff :
    tree.locate working path = .ok location ↔
      path.place working = location ∧ path.IsShort ∧ path.HasShortNames ∧
        ∀ passed, passed <+: path.names → passed ≠ path.names →
          tree.at? (destination (path.start working) passed) = some .folder := by
  rw [locate]
  split
  · rename_i long
    simp [Path.IsShort, Nat.not_le.mpr long]
  · rename_i short
    change tree.follow (path.start working) path.names = .ok location ↔ _
    rw [follow_eq_ok_iff, Path.place, Path.HasShortNames, Path.IsShort]
    simp [Nat.not_lt.mp short]

/-- A path leads nowhere but to the location that its names say. -/
theorem place_of_locate (led : tree.locate working path = .ok location) :
    path.place working = location := (locate_eq_ok_iff.mp led).1

/-- A folder stands at a path exactly when the path is short enough and folders stand wherever it
passes. -/
theorem isFolder_iff_passes :
    tree.isFolder working path = true ↔
      path.IsShort ∧ path.HasShortNames ∧
        ∀ location, path.Passes working location → tree.at? location = some .folder := by
  simp only [isFolder_iff, look_eq_ok_iff, locate_eq_ok_iff]
  constructor
  · rintro ⟨location, ⟨rfl, short, shortNames, stand⟩, stands⟩
    refine ⟨short, shortNames, ?_⟩
    rintro - ⟨names, within, rfl⟩
    by_cases whole : names = path.names
    · rw [whole]
      exact stands
    · exact stand names within whole
  · rintro ⟨short, shortNames, stand⟩
    exact ⟨_, ⟨rfl, short, shortNames, fun names within _ => stand _ ⟨names, within, rfl⟩⟩,
      stand _ (path.passes_place working)⟩

/-! ## Making the folders of a path -/

/-- Nothing is in the way of making the folders of a path: the path can be handed over, neither it
nor a name is too long, and no file stands where it passes. -/
structure Admits (tree : FileTree) (working : Location) (path : Path) : Prop where
  noNull : path.holdsNull = false
  short : path.IsShort
  shortNames : path.HasShortNames
  noFile : ∀ location, path.Passes working location →
    ∀ content, tree.at? location ≠ some (.file content)

/-- Folders that are new are in no way. -/
theorem GainsFolders.admits_iff {before after : FileTree} (gains : before.GainsFolders after) :
    after.Admits working path ↔ before.Admits working path := by
  constructor
  · rintro ⟨noNull, short, shortNames, noFile⟩
    exact ⟨noNull, short, shortNames, by simpa only [ne_eq, gains.file_iff] using noFile⟩
  · rintro ⟨noNull, short, shortNames, noFile⟩
    exact ⟨noNull, short, shortNames, by simpa only [ne_eq, gains.file_iff] using noFile⟩

/-- What admits an entry admits its folder. -/
theorem Admits.of_entry (admits : tree.Admits working (folder.child name)) :
    tree.Admits working folder where
  noNull := by
    have noNull := admits.noNull
    rw [Path.holdsNull_child, Bool.or_eq_false_iff] at noNull
    exact noNull.1
  short := admits.short.of_entry
  shortNames := (Path.hasShortNames_child_iff.mp admits.shortNames).1
  noFile location passes := admits.noFile location (Path.passes_child_iff.mpr (.inl passes))

/-- Where no file stands on the way, names lead on or something is missing. -/
theorem follow_of_noFile (short : ∀ name ∈ names, name.utf8ByteSize ≤ nameLimit)
    (noFile : ∀ passed, passed <+: names → ∀ content,
      tree.at? (destination start passed) ≠ some (.file content)) :
    (∃ location, tree.follow start names = .ok location) ∨
      tree.follow start names = .error .missing := by
  induction names generalizing start with
  | nil => exact .inl ⟨start, rfl⟩
  | cons name rest inductionHypothesis =>
    rw [follow]
    split
    · rw [if_neg (Nat.not_lt.mpr (short name List.mem_cons_self))]
      refine inductionHypothesis (fun name member => short name (List.mem_cons_of_mem _ member)) ?_
      intro passed within
      exact noFile (name :: passed) (List.cons_prefix_cons.mpr ⟨rfl, within⟩)
    · rename_i content isFile
      exact absurd isFile (noFile [] List.nil_prefix content)
    · exact .inr rfl

/-- Where nothing is in the way, looking finds a folder or nothing, or something is missing. -/
theorem Admits.look (admits : tree.Admits working path) :
    (∃ location, tree.look working path = .ok (location, some .folder)) ∨
      (∃ location, tree.look working path = .ok (location, none)) ∨
      tree.look working path = .error .missing := by
  have followed := follow_of_noFile admits.shortNames fun passed within =>
    admits.noFile _ ⟨passed, within, rfl⟩
  have located : tree.locate working path = tree.follow (path.start working) path.names :=
    if_neg (Nat.not_lt.mpr admits.short)
  rw [← located] at followed
  rcases followed with ⟨location, led⟩ | missing
  · cases stands : tree.at? location with
    | none => exact .inr (.inl ⟨location, look_eq_ok_iff.mpr ⟨led, stands⟩⟩)
    | some entry =>
      cases entry with
      | folder => exact .inl ⟨location, look_eq_ok_iff.mpr ⟨led, stands⟩⟩
      | file content =>
        rw [← place_of_locate led] at stands
        exact absurd stands (admits.noFile _ (path.passes_place working) content)
  · exact .inr (.inr (by rw [FileTree.look, missing]; rfl))

/-- A folder can be made where nothing is in the way and nothing before it is missing. -/
theorem Admits.settle (admits : tree.Admits working path)
    (found : tree.look working path ≠ .error .missing) :
    (tree.settle (tree.ensureFolder working path)).2 = none := by
  rcases admits.look with ⟨location, stands⟩ | ⟨location, free⟩ | missing
  · rw [ensureFolder_of_isFolder (isFolder_iff.mpr ⟨location, stands⟩)]
    rfl
  · have made : tree.makeFolder working path = .ok (tree.put location .folder) := by
      rw [makeFolder, free]
      rfl
    rw [ensureFolder, made]
    rfl
  · exact absurd missing found

/-- Nothing is missing for an entry of a folder that stands. -/
theorem look_child_ne_missing (isFolder : tree.isFolder working folder = true) :
    tree.look working (folder.child name) ≠ .error .missing := by
  obtain ⟨home, stands⟩ := isFolder_iff.mp isFolder
  obtain ⟨led, isFolder⟩ := look_eq_ok_iff.mp stands
  rw [look, locate]
  split
  · intro failed
    cases failed
  · rw [locate] at led
    split at led
    · cases led
    · change (tree.follow (folder.start working) (folder.names ++ [name]) >>= _) ≠ _
      change tree.follow (folder.start working) folder.names = .ok home at led
      rw [follow_append, led]
      change (tree.follow home [name] >>= _) ≠ _
      rw [follow, isFolder]
      dsimp only
      split
      · intro failed
        cases failed
      · intro failed
        cases failed

/-- Where nothing is in the way, folders are made one after the other without a fault. -/
theorem Admits.makeReversed {root : PathRoot}
    (admits : tree.Admits working ⟨root, names.reverse⟩) :
    (tree.makeReversed working root names).2 = none := by
  induction names with
  | nil =>
    refine admits.settle ?_
    rw [FileTree.look, locate]
    split
    · intro failed
      cases failed
    · intro failed
      cases failed
  | cons name rest inductionHypothesis =>
    rw [Path.reverse_cons] at admits
    rw [FileTree.makeReversed, Path.reverse_cons]
    split
    · split
      · rename_i made below
        obtain ⟨kept, stands⟩ := of_makeReversed tree working root rest below
        have gains := tree.gainsFolders_makeReversed working root rest
        rw [below] at gains
        exact (gains.admits_iff.mpr admits).settle (look_child_ne_missing (stands rfl))
      · exact inductionHypothesis admits.of_entry
    · rename_i notMissing
      refine admits.settle fun missing => notMissing ?_
      rw [makeFolder, missing]
      rfl

/-- The folders of a path are made without a fault exactly when nothing is in the way. -/
theorem makeFolders_eq_none_iff (tree : FileTree) (working : Location) (path : Path) :
    (tree.makeFolders working path).2 = none ↔ tree.Admits working path := by
  constructor
  · intro done
    obtain ⟨noNull, -, isFolder⟩ := of_makeFolders (Prod.ext rfl done)
    have gains := tree.gainsFolders_makeFolders working path
    obtain ⟨short, shortNames, stand⟩ := isFolder_iff_passes.mp isFolder
    refine gains.admits_iff.mp ⟨noNull, short, shortNames, fun location passes content => ?_⟩
    simp [stand location passes]
  · intro admits
    rw [makeFolders, admits.noNull]
    refine Admits.makeReversed ?_
    rw [List.reverse_reverse]
    exact admits

/-- Making folders one after the other fails with a problem of the tree. -/
theorem makeReversed_ne_nullCharacter (tree : FileTree) (working : Location) (root : PathRoot)
    (names : List String) : (tree.makeReversed working root names).2 ≠ some .nullCharacter := by
  have settles (tree : FileTree) (path : Path) :
      (tree.settle (tree.ensureFolder working path)).2 ≠ some .nullCharacter := by
    rw [ensureFolder]
    split
    · intro failed
      cases failed
    · split
      · intro failed
        cases failed
      · intro failed
        cases failed
  induction names with
  | nil => exact settles _ _
  | cons name rest inductionHypothesis =>
    rw [makeReversed]
    split
    · split
      · exact settles _ _
      · exact inductionHypothesis
    · exact settles _ _

/-- Making the folders of a path meets a null character exactly when the path holds one. -/
theorem makeFolders_eq_nullCharacter_iff (tree : FileTree) (working : Location) (path : Path) :
    (tree.makeFolders working path).2 = some .nullCharacter ↔ path.holdsNull = true := by
  rw [makeFolders]
  split
  · simp_all
  · simp_all [makeReversed_ne_nullCharacter]

/-- Making sure of a folder changes nothing but the location to which its path leads. -/
theorem at?_settle_of_ne (elsewhere : path.place working ≠ location) :
    (tree.settle (tree.ensureFolder working path)).1.at? location = tree.at? location := by
  rw [ensureFolder, makeFolder]
  cases looked : tree.look working path with
  | error problem =>
    simp only [bind, Except.bind]
    split <;> rfl
  | ok place =>
    obtain ⟨home, found⟩ := place
    cases found with
    | some entry =>
      simp only [bind, Except.bind]
      split <;> rfl
    | none =>
      have here := place_of_locate (look_eq_ok_iff.mp looked).1
      exact at?_put_of_ne (here ▸ elsewhere) .folder

/-- Making folders one after the other changes nothing off the way, wherever it stops. -/
theorem at?_makeReversed (tree : FileTree) {root : PathRoot}
    (aside : ¬ (⟨root, names.reverse⟩ : Path).Passes working location) :
    (tree.makeReversed working root names).1.at? location = tree.at? location := by
  induction names with
  | nil => exact at?_settle_of_ne fun here => aside (here ▸ Path.passes_place _ working)
  | cons name rest inductionHypothesis =>
    rw [Path.reverse_cons, Path.passes_child_iff, not_or] at aside
    rw [makeReversed, Path.reverse_cons]
    split
    · split
      · rename_i made below
        have before := inductionHypothesis aside.1
        rw [below] at before
        rw [at?_settle_of_ne aside.2, before]
      · exact inductionHypothesis aside.1
    · exact at?_settle_of_ne aside.2

/-- Making the folders of a path changes nothing off its way, wherever it stops. -/
theorem at?_makeFolders (tree : FileTree) (aside : ¬ path.Passes working location) :
    (tree.makeFolders working path).1.at? location = tree.at? location := by
  rw [makeFolders]
  split
  · rfl
  · refine tree.at?_makeReversed ?_
    rw [List.reverse_reverse]
    exact aside

/-- Folders that have been made change nothing off their way. -/
theorem at?_ensureFolders {made : FileTree} (done : tree.ensureFolders working path = .ok made)
    (aside : ¬ path.Passes working location) : made.at? location = tree.at? location := by
  have unchanged := tree.at?_makeFolders aside
  rw [ensureFolders] at done
  split at done
  · rename_i outcome
    cases done
    rwa [outcome] at unchanged
  · cases done

end
end FileTree
end Depot
