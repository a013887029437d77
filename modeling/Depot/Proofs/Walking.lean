import Depot.File.Walk
import Depot.Proofs.AllOrNothing
import Mathlib.Data.List.Forall2
import Mathlib.Data.List.Lex
import Mathlib.Data.String.Basic

/-!
# Collecting files

Paths lead to the files for which they stand, in the order of the paths: a file stands for itself, a
folder for every file below it, once and in the order of the names, and what does not exist for
nothing. The one thing in the way is a path that is too long, be it one of the given paths or that
of anything below a folder.
-/

namespace Depot

namespace Path

/-- A path comes no later than another one exactly when its names do. -/
theorem notAfter_iff {left right : Path} :
    left.notAfter right = true ↔ left.names ≤ right.names := by
  rw [notAfter, Bool.not_eq_true']
  have compared := @List.lex_eq_false_iff_ge String _ _ _ _ right.names left.names
  exact compared.trans not_lt

variable {folder : Path} {names : List String}

/-- What lies below a folder at the same path has the same names on the way from there. -/
theorem descendant_injective (folder : Path) : Function.Injective folder.descendant := by
  intro left right same
  exact List.append_cancel_left (congrArg Path.names same)

/-- The path of what lies below a folder holds a null character exactly when the path of the folder
does or one of the names does. -/
theorem holdsNull_descendant (noNull : folder.holdsNull = false)
    (namesNoNull : ∀ name ∈ names, '\x00' ∉ name.toList) :
    (folder.descendant names).holdsNull = false := by
  simp only [holdsNull, List.any_eq_false, List.contains_iff_mem] at noNull ⊢
  intro name member
  rcases List.mem_append.mp member with inFolder | below
  · exact noNull name inFolder
  · exact namesNoNull name below

end Path

namespace FileTree

/-- A tree of folders and files as they can stand on a disk: every entry lies in a folder, no place
has two entries, and every name is short, leads down and holds no null character. -/
structure IsDirectoryTree (tree : FileTree) : Prop where
  wellFormed : tree.WellFormed
  plain : ∀ entry ∈ tree.entries, ∀ name ∈ entry.1, IsPlain name
  noNull : ∀ entry ∈ tree.entries, ∀ name ∈ entry.1, '\x00' ∉ name.toList

/-- The files for which a path stands. -/
inductive Yields (tree : FileTree) (working : Location) (path : Path) : List Path → Prop
  /-- Nothing exists at the path. -/
  | missing (absent : path.holdsNull = true ∨ tree.look? working path = none) :
    Yields tree working path []
  /-- A file stands for itself. -/
  | file {content : Content} (noNull : path.holdsNull = false)
    (stands : tree.look? working path = some (.file content)) : Yields tree working path [path]
  /-- A folder stands for the files below it, each once, in the order of their names. -/
  | folder {location : Location} {files : List Path} (noNull : path.holdsNull = false)
    (stands : tree.look working path = .ok (location, some .folder))
    (all : ∀ file, file ∈ files ↔ ∃ names content,
      tree.at? (location ++ names) = some (.file content) ∧ file = path.descendant names)
    (ascending : files.Pairwise fun left right => left.names < right.names) :
    Yields tree working path files

/-- The answer is the files for which each of the paths stands, in the order of the paths. -/
def Walks (tree : FileTree) (working : Location) (paths : List Path)
    (answer : Except FileFault (List Path)) : Prop :=
  ∃ lists, List.Forall₂ (tree.Yields working) paths lists ∧ answer = .ok lists.flatten

/-- A path that is too long and that is met when the files of a path are collected. -/
inductive MeetsTooLong (tree : FileTree) (working : Location) (path : Path) : Path → Prop
  /-- The path is too long itself, or a name of it is. -/
  | itself (noNull : path.holdsNull = false)
    (long : tree.look working path = .error .nameTooLong) : MeetsTooLong tree working path path
  /-- A folder stands at the path, and the path of an entry below it is too long. -/
  | below {location names : Location} (noNull : path.holdsNull = false)
    (stands : tree.look working path = .ok (location, some .folder)) (nonempty : names ≠ [])
    (entry : tree.at? (location ++ names) ≠ none)
    (long : ¬ (path.descendant names).IsShort) :
    MeetsTooLong tree working path (path.descendant names)

/-- The answer is the files for which the paths stand, unless a path that is too long is met: then
such a path is reported. -/
structure CollectsFiles (tree : FileTree) (working : Location) (paths : List Path)
    (answer : Except FileFault (List Path)) : Prop where
  walks : (∀ path ∈ paths, ∀ long, ¬ tree.MeetsTooLong working path long) →
    tree.Walks working paths answer
  refuses : (∃ path ∈ paths, ∃ long, tree.MeetsTooLong working path long) →
    ∃ path ∈ paths, ∃ long, tree.MeetsTooLong working path long ∧
      answer = .error (.problem .nameTooLong long.text)

section

variable {tree : FileTree} {working location : Location} {path folder : Path}
  {paths files rest : List Path} {names : List String} {entry : FileEntry}

/-! ## Visiting -/

/-- A visit finds what looking finds, where there is no null character. -/
theorem visit_of_look {found : Option FileEntry} (noNull : path.holdsNull = false)
    (looked : tree.look working path = .ok (location, found)) :
    tree.visit working path = .ok found := by
  rw [visit, noNull, if_neg Bool.false_ne_true, examine, looked]

/-- A visit to a path that is too long reports it. -/
theorem visit_of_long (noNull : path.holdsNull = false)
    (long : tree.look working path = .error .nameTooLong) :
    tree.visit working path = .error (.problem .nameTooLong path.text) := by
  rw [visit, noNull, if_neg Bool.false_ne_true, examine, long]

/-! ## What lies below a folder -/

/-- An entry lies below a location, some names further, exactly when these names lead from the
location to the entry. -/
theorem lower_iff {placed : Location × FileEntry} :
    (if location.isPrefixOf placed.1 ∧ placed.1 ≠ location then
        some (placed.1.drop location.length, placed.2) else none) = some (names, entry) ↔
      names ≠ [] ∧ placed = (location ++ names, entry) := by
  obtain ⟨place, found⟩ := placed
  constructor
  · intro taken
    split at taken
    · rename_i lower
      obtain ⟨within, notSame⟩ := lower
      obtain ⟨further, rfl⟩ := List.isPrefixOf_iff_prefix.mp within
      rw [List.drop_left] at taken
      cases taken
      exact ⟨fun none => notSame (by simp [none]), rfl⟩
    · cases taken
  · rintro ⟨nonempty, ⟨⟩⟩
    have within : location.isPrefixOf (location ++ names) = true :=
      List.isPrefixOf_iff_prefix.mpr (List.prefix_append _ _)
    rw [if_pos ⟨within, by simpa using nonempty⟩, List.drop_left]

/-- What is below a location is what stands there under further names. -/
theorem mem_below_iff (wellFormed : tree.WellFormed) :
    (names, entry) ∈ tree.below location ↔
      names ≠ [] ∧ tree.at? (location ++ names) = some entry := by
  simp only [below, List.mem_filterMap, lower_iff]
  constructor
  · rintro ⟨_, member, nonempty, rfl⟩
    refine ⟨nonempty, ?_⟩
    rw [at?, if_neg (List.append_ne_nil_of_right_ne_nil _ nonempty)]
    exact (valueOf?_eq_some_iff wellFormed.distinct).mpr member
  · rintro ⟨nonempty, stands⟩
    rw [at?, if_neg (List.append_ne_nil_of_right_ne_nil _ nonempty)] at stands
    exact ⟨_, (valueOf?_eq_some_iff wellFormed.distinct).mp stands, nonempty, rfl⟩

/-- No names lead to two entries below a location. -/
theorem pairwise_below (wellFormed : tree.WellFormed) (location : Location) :
    (tree.below location).Pairwise fun left right => left.1 ≠ right.1 := by
  refine List.Pairwise.filterMap _ ?_ (List.pairwise_map.mp wellFormed.distinct)
  rintro left right different ⟨names, first⟩ ofLeft ⟨others, second⟩ ofRight rfl
  obtain ⟨-, rfl⟩ := lower_iff.mp ofLeft
  obtain ⟨-, rfl⟩ := lower_iff.mp ofRight
  exact different rfl

/-- The paths below a folder are those of the entries below it. -/
theorem mem_pathsBelow_iff (wellFormed : tree.WellFormed)
    (led : tree.locate working folder = .ok location) :
    path ∈ tree.pathsBelow working folder ↔ ∃ names, names ≠ [] ∧
      tree.at? (location ++ names) ≠ none ∧ path = folder.descendant names := by
  rw [pathsBelow, led]
  simp only [List.mem_mergeSort, List.mem_map, Prod.exists, mem_below_iff wellFormed]
  constructor
  · rintro ⟨names, entry, ⟨nonempty, stands⟩, rfl⟩
    exact ⟨names, nonempty, by simp [stands], rfl⟩
  · rintro ⟨names, nonempty, some, rfl⟩
    obtain ⟨entry, stands⟩ := Option.ne_none_iff_exists'.mp some
    exact ⟨names, entry, ⟨nonempty, stands⟩, rfl⟩

/-- No path comes twice among the paths below a folder. -/
theorem nodup_pathsBelow (wellFormed : tree.WellFormed) (working : Location) (folder : Path) :
    (tree.pathsBelow working folder).Nodup := by
  rw [pathsBelow]
  split
  · rename_i location led
    rw [(List.mergeSort_perm _ _).nodup_iff]
    refine List.pairwise_map.mpr ((pairwise_below wellFormed location).imp ?_)
    intro left right different same
    exact different (folder.descendant_injective same)
  · exact .nil

/-- The names of what stands in a tree can be followed and handed over. -/
theorem IsDirectoryTree.names_of_at? (isTree : tree.IsDirectoryTree)
    (stands : tree.at? (location ++ names) = some entry) :
    ∀ name ∈ names, IsPlain name ∧ '\x00' ∉ name.toList := by
  intro name member
  have nonempty : location ++ names ≠ [] :=
    List.append_ne_nil_of_right_ne_nil _ (List.ne_nil_of_mem member)
  rw [at?, if_neg nonempty] at stands
  have inTree := mem_of_valueOf? stands
  have named := List.mem_append_right location member
  exact ⟨isTree.plain _ inTree name named, isTree.noNull _ inTree name named⟩

/-- A visit below a folder finds what stands there, if the path is short enough. -/
theorem IsDirectoryTree.visit_descendant (isTree : tree.IsDirectoryTree)
    (noNull : folder.holdsNull = false) (led : tree.locate working folder = .ok location)
    (stands : tree.at? (location ++ names) = some entry)
    (short : (folder.descendant names).IsShort) :
    tree.visit working (folder.descendant names) = .ok (some entry) := by
  have allowed := isTree.names_of_at? stands
  obtain ⟨here, -, shortNames, onTheWay⟩ := locate_eq_ok_iff.mp led
  have noUp : ".." ∉ names := fun up => (allowed _ up).1.notUp rfl
  have some : tree.at? (location ++ names) ≠ none := by simp [stands]
  suffices reached : tree.locate working (folder.descendant names) = .ok (location ++ names) from
    visit_of_look (Path.holdsNull_descendant noNull fun name member => (allowed name member).2)
      (look_eq_ok_iff.mpr ⟨reached, stands⟩)
  rw [locate, if_neg (Nat.not_lt.mpr short)]
  change tree.follow (folder.start working) (folder.names ++ names) = _
  rw [follow_append, follow_eq_ok_iff.mpr ⟨here, shortNames, onTheWay⟩]
  change tree.follow location names = _
  refine follow_eq_ok_iff.mpr ⟨destination_of_not_mem noUp location,
    fun name member => (allowed name member).1.short, ?_⟩
  rintro passed ⟨further, rfl⟩ partly
  rw [destination_of_not_mem fun up => noUp (List.mem_append_left _ up)]
  rw [← List.append_assoc] at some
  exact isTree.wellFormed.at?_of_append (fun none => partly (by simp [none])) some

/-! ## Keeping files -/

/-- Whether a visit finds a file. -/
def findsFile (tree : FileTree) (working : Location) (path : Path) : Bool :=
  match tree.visit working path with
  | .ok (some (.file _)) => true
  | _ => false

theorem findsFile_iff :
    tree.findsFile working path = true ↔
      ∃ content, tree.visit working path = .ok (some (.file content)) := by
  rw [findsFile]
  rcases tree.visit working path with fault | _ | _ | content <;> simp

/-- Where no visit ends in a fault, the files are kept in their order. -/
theorem keepFiles_of_visits
    (visits : ∀ path ∈ paths, ∃ found, tree.visit working path = .ok found) :
    tree.keepFiles working paths = .ok (paths.filter (tree.findsFile working)) := by
  induction paths with
  | nil => rfl
  | cons path rest inductionHypothesis =>
    rw [List.forall_mem_cons] at visits
    obtain ⟨⟨found, first⟩, others⟩ := visits
    rw [keepFiles, first, inductionHypothesis others, List.filter_cons, findsFile, first]
    rcases found with _ | _ | content <;> rfl

/-- A visit that ends in a fault ends the keeping of files, as the first such visit does. -/
theorem keepFiles_of_fault {fault : FileFault} (member : path ∈ paths)
    (stopped : tree.visit working path = .error fault) :
    ∃ path ∈ paths, ∃ fault, tree.visit working path = .error fault ∧
      tree.keepFiles working paths = .error fault := by
  induction paths with
  | nil => cases member
  | cons first rest inductionHypothesis =>
    cases visited : tree.visit working first with
    | error earlier =>
      exact ⟨first, List.mem_cons_self, earlier, visited, by rw [keepFiles, visited]⟩
    | ok found =>
      have inRest : path ∈ rest := by
        refine (List.mem_cons.mp member).resolve_left ?_
        rintro rfl
        rw [visited] at stopped
        cases stopped
      obtain ⟨long, inside, cause, ends, kept⟩ := inductionHypothesis inRest
      refine ⟨long, List.mem_cons_of_mem _ inside, cause, ends, ?_⟩
      rw [keepFiles, visited, kept]
      rcases found with _ | _ | content <;> rfl

/-- Paths of one root that are put in order ascend, if none comes twice. -/
theorem pairwise_mergeSort_notAfter (distinct : files.Nodup)
    (oneRoot : ∀ left ∈ files, ∀ right ∈ files, left.root = right.root) :
    (files.mergeSort Path.notAfter).Pairwise fun left right => left.names < right.names := by
  have ordered : (files.mergeSort Path.notAfter).Pairwise fun left right =>
      left.notAfter right = true := by
    refine List.pairwise_mergeSort ?_ ?_ files
    · intro first second third
      simp only [Path.notAfter_iff]
      exact le_trans
    · intro left right
      rw [Bool.or_eq_true, Path.notAfter_iff, Path.notAfter_iff]
      exact le_total _ _
  have sortedDistinct : (files.mergeSort Path.notAfter).Nodup :=
    (List.mergeSort_perm _ _).nodup_iff.mpr distinct
  refine (ordered.and sortedDistinct).imp_of_mem ?_
  rintro ⟨root, names⟩ ⟨otherRoot, others⟩ ofLeft ofRight ⟨notAfter, different⟩
  refine lt_of_le_of_ne (Path.notAfter_iff.mp notAfter) ?_
  rintro (rfl : names = others)
  have same := oneRoot _ (List.mem_mergeSort.mp ofLeft) _ (List.mem_mergeSort.mp ofRight)
  exact different (congrArg (Path.mk · names) same)

/-- Where all paths below a folder are short enough, its files are those below it, in order. -/
theorem IsDirectoryTree.filesBelow_of_short (isTree : tree.IsDirectoryTree)
    (noNull : path.holdsNull = false)
    (stands : tree.look working path = .ok (location, some .folder))
    (short : ∀ below ∈ tree.pathsBelow working path, below.IsShort) :
    ∃ files, tree.filesBelow working path = .ok files ∧ tree.Yields working path files ∧
      ∀ file ∈ files, ∃ content, tree.visit working file = .ok (some (.file content)) := by
  obtain ⟨led, isFolder⟩ := look_eq_ok_iff.mp stands
  have isBelow (below : Path) := @mem_pathsBelow_iff _ _ _ below _ isTree.wellFormed led
  have visit {names entry} (here : tree.at? (location ++ names) = some entry)
      (member : path.descendant names ∈ tree.pathsBelow working path) :
      tree.visit working (path.descendant names) = .ok (some entry) :=
    isTree.visit_descendant noNull led here (short _ member)
  have visits : ∀ below ∈ tree.pathsBelow working path,
      ∃ found, tree.visit working below = .ok found := by
    intro below member
    obtain ⟨names, -, some, rfl⟩ := (isBelow below).mp member
    obtain ⟨entry, here⟩ := Option.ne_none_iff_exists'.mp some
    exact ⟨_, visit here member⟩
  refine ⟨_, by rw [filesBelow, keepFiles_of_visits visits]; rfl, .folder noNull stands ?_ ?_, ?_⟩
  · intro file
    rw [List.mem_mergeSort, List.mem_filter, findsFile_iff]
    constructor
    · rintro ⟨member, content, found⟩
      obtain ⟨names, -, some, rfl⟩ := (isBelow file).mp member
      obtain ⟨entry, here⟩ := Option.ne_none_iff_exists'.mp some
      rw [visit here member] at found
      cases found
      exact ⟨names, content, here, rfl⟩
    · rintro ⟨names, content, here, rfl⟩
      have nonempty : names ≠ [] := by
        rintro rfl
        rw [List.append_nil, isFolder] at here
        cases here
      have member := (isBelow _).mpr ⟨names, nonempty, by simp [here], rfl⟩
      exact ⟨member, content, visit here member⟩
  · refine pairwise_mergeSort_notAfter ((nodup_pathsBelow isTree.wellFormed _ _).filter _) ?_
    intro left ofLeft right ofRight
    obtain ⟨_, -, -, rfl⟩ := (isBelow left).mp (List.mem_of_mem_filter ofLeft)
    obtain ⟨_, -, -, rfl⟩ := (isBelow right).mp (List.mem_of_mem_filter ofRight)
    rfl
  · intro file member
    rw [List.mem_mergeSort, List.mem_filter, findsFile_iff] at member
    exact member.2

/-- Where a path below a folder is too long, such a path is reported instead of files. -/
theorem IsDirectoryTree.filesBelow_of_long (isTree : tree.IsDirectoryTree)
    (noNull : path.holdsNull = false)
    (stands : tree.look working path = .ok (location, some .folder)) {below : Path}
    (member : below ∈ tree.pathsBelow working path) (long : ¬ below.IsShort) :
    ∃ long, tree.MeetsTooLong working path long ∧
      tree.filesBelow working path = .error (.problem .nameTooLong long.text) := by
  obtain ⟨led, -⟩ := look_eq_ok_iff.mp stands
  have isBelow (below : Path) := @mem_pathsBelow_iff _ _ _ below _ isTree.wellFormed led
  have noNullBelow : ∀ below ∈ tree.pathsBelow working path, below.holdsNull = false := by
    intro below member
    obtain ⟨names, -, some, rfl⟩ := (isBelow below).mp member
    obtain ⟨entry, here⟩ := Option.ne_none_iff_exists'.mp some
    exact Path.holdsNull_descendant noNull fun name named =>
      (isTree.names_of_at? here name named).2
  have stopped : tree.visit working below = .error (.problem .nameTooLong below.text) :=
    visit_of_long (noNullBelow below member) (look_of_not_isShort long)
  obtain ⟨first, inside, fault, ends, kept⟩ := keepFiles_of_fault member stopped
  obtain ⟨names, nonempty, some, rfl⟩ := (isBelow first).mp inside
  obtain ⟨entry, here⟩ := Option.ne_none_iff_exists'.mp some
  by_cases short : (path.descendant names).IsShort
  · rw [isTree.visit_descendant noNull led here short] at ends
    cases ends
  · rw [visit_of_long (noNullBelow _ inside) (look_of_not_isShort short)] at ends
    cases ends
    exact ⟨_, .below noNull stands nonempty some short, by rw [filesBelow, kept]; rfl⟩

/-! ## Collecting files -/

/-- The files of a path and of the paths after it. -/
theorem filesOf_cons (tree : FileTree) (working : Location) (path : Path) (rest : List Path) :
    tree.filesOf working (path :: rest) =
      match tree.visit working path with
      | .error fault => .error fault
      | .ok (some .folder) =>
        (tree.filesBelow working path).bind fun files =>
          (tree.filesOf working files).bind fun inside =>
            (tree.filesOf working rest).map (inside ++ ·)
      | .ok (some (.file _)) => (tree.filesOf working rest).map ([path] ++ ·)
      | .ok none => tree.filesOf working rest := by
  rw [filesOf]
  split
  · rename_i visited
    rw [visited]
  · rename_i visited
    rw [visited]
    dsimp only
    split
    · rename_i collected
      rw [collected]
      rfl
    · rename_i files collected
      rw [collected, Except.bind]
      cases tree.filesOf working files <;> cases tree.filesOf working rest <;> rfl
  · rename_i visited
    rw [visited]
    cases tree.filesOf working rest <;> rfl
  · rename_i visited
    rw [visited]

/-- Files stand for themselves. -/
theorem filesOf_of_files (stand : ∀ file ∈ files, ∃ content,
      tree.visit working file = .ok (some (.file content))) :
    tree.filesOf working files = .ok files := by
  induction files with
  | nil => rw [filesOf]
  | cons file rest inductionHypothesis =>
    rw [List.forall_mem_cons] at stand
    obtain ⟨⟨content, first⟩, others⟩ := stand
    rw [filesOf_cons, first, inductionHypothesis others]
    rfl

/-- A path that is too long ends the collecting where it is met. -/
theorem IsDirectoryTree.filesOf_cons_of_met (isTree : tree.IsDirectoryTree) {long : Path}
    (met : tree.MeetsTooLong working path long) (rest : List Path) :
    ∃ long, tree.MeetsTooLong working path long ∧
      tree.filesOf working (path :: rest) = .error (.problem .nameTooLong long.text) := by
  cases met with
  | itself noNull long =>
    exact ⟨path, .itself noNull long, by rw [filesOf_cons, visit_of_long noNull long]⟩
  | below noNull stands nonempty some long =>
    have member := (mem_pathsBelow_iff isTree.wellFormed (look_eq_ok_iff.mp stands).1).mpr
      ⟨_, nonempty, some, rfl⟩
    obtain ⟨first, meets, stopped⟩ := isTree.filesBelow_of_long noNull stands member long
    exact ⟨first, meets, by rw [filesOf_cons, visit_of_look noNull stands, stopped]; rfl⟩

/-- Where no path that is too long is met, a path adds the files for which it stands to those of the
paths after it. -/
theorem IsDirectoryTree.filesOf_cons_of_not_met (isTree : tree.IsDirectoryTree)
    (notMet : ∀ long, ¬ tree.MeetsTooLong working path long) :
    ∃ files, tree.Yields working path files ∧ ∀ rest,
      tree.filesOf working (path :: rest) = (tree.filesOf working rest).map (files ++ ·) := by
  have addsNothing (absent : tree.visit working path = .ok none) (rest : List Path) :
      tree.filesOf working (path :: rest) = (tree.filesOf working rest).map ([] ++ ·) := by
    rw [filesOf_cons, absent]
    cases tree.filesOf working rest <;> rfl
  cases noNull : path.holdsNull with
  | true => exact ⟨[], .missing (.inl noNull), addsNothing (by rw [visit, noNull, if_pos rfl])⟩
  | false =>
    cases looked : tree.look working path with
    | error problem =>
      refine ⟨[], .missing (.inr (by rw [look?, looked])), addsNothing ?_⟩
      rw [visit, noNull, if_neg Bool.false_ne_true, examine, looked]
      cases problem with
      | nameTooLong => exact absurd (.itself noNull looked) (notMet path)
      | _ => rfl
    | ok found =>
      obtain ⟨location, entry⟩ := found
      have visited := visit_of_look noNull looked
      rcases entry with _ | _ | content
      · exact ⟨[], .missing (.inr (by rw [look?, looked])), addsNothing visited⟩
      · have short : ∀ below ∈ tree.pathsBelow working path, below.IsShort := by
          intro below member
          obtain ⟨names, nonempty, some, rfl⟩ :=
            (mem_pathsBelow_iff isTree.wellFormed (look_eq_ok_iff.mp looked).1).mp member
          exact not_not.mp fun long => notMet _ (.below noNull looked nonempty some long)
        obtain ⟨files, collected, yields, stand⟩ := isTree.filesBelow_of_short noNull looked short
        refine ⟨files, yields, fun rest => ?_⟩
        rw [filesOf_cons, visited]
        dsimp only
        rw [collected, Except.bind, filesOf_of_files stand, Except.bind]
      · refine ⟨[path], .file noNull (by rw [look?, looked]), fun rest => ?_⟩
        rw [filesOf_cons, visited]

/-- Collecting yields the files for which the paths stand, in the order of the paths, unless a path
that is too long is met. -/
theorem filesOf_collectsFiles (isTree : tree.IsDirectoryTree) (working : Location)
    (paths : List Path) : tree.CollectsFiles working paths (tree.filesOf working paths) := by
  induction paths with
  | nil => exact ⟨fun _ => ⟨[], .nil, by rw [filesOf]; rfl⟩, by simp⟩
  | cons path rest inductionHypothesis =>
    obtain ⟨walks, refuses⟩ := inductionHypothesis
    by_cases met : ∃ long, tree.MeetsTooLong working path long
    · obtain ⟨long, met⟩ := met
      refine ⟨fun notMet => absurd met (notMet path List.mem_cons_self long), fun _ => ?_⟩
      exact ⟨path, List.mem_cons_self, isTree.filesOf_cons_of_met met rest⟩
    · rw [not_exists] at met
      obtain ⟨files, yields, adds⟩ := isTree.filesOf_cons_of_not_met met
      constructor
      · intro notMet
        obtain ⟨lists, yieldAll, found⟩ := walks (List.forall_mem_cons.mp notMet).2
        exact ⟨files :: lists, .cons yields yieldAll, by rw [adds, found]; rfl⟩
      · rintro ⟨other, member, long, meets⟩
        have inRest := (List.mem_cons.mp member).resolve_left fun same => met long (same ▸ meets)
        obtain ⟨first, inside, long, firstMeets, ends⟩ := refuses ⟨other, inRest, long, meets⟩
        exact ⟨first, List.mem_cons_of_mem _ inside, long, firstMeets, by rw [adds, ends]; rfl⟩

end

/-- A folder with a file and with a folder whose name is the beginning of the name of the file. -/
def notes : FileTree :=
  ⟨[(["notes"], .folder), (["notes", "a-b"], .file (.bytes [])), (["notes", "a"], .folder),
    (["notes", "a", "c"], .file (.bytes []))]⟩

instance : DecidablePred IsPlain := fun name =>
  decidable_of_iff (name ≠ ".." ∧ name.utf8ByteSize ≤ nameLimit)
    ⟨fun plain => ⟨plain.1, plain.2⟩, fun plain => ⟨plain.notUp, plain.short⟩⟩

/-- The notes are a tree as it can stand on a disk. -/
theorem isDirectoryTree_notes : notes.IsDirectoryTree where
  wellFormed := ⟨by decide, by decide, by decide⟩
  plain := by decide
  noNull := by decide

/-- Collecting from a folder, from a path where nothing is and from a file. -/
theorem filesOf_collectsFiles_notes :
    notes.IsDirectoryTree ∧ notes.CollectsFiles [] [⟨.relative, ["notes"]⟩, ⟨.relative, ["b"]⟩,
      ⟨.relative, ["notes", "a-b"]⟩] (notes.filesOf [] [⟨.relative, ["notes"]⟩,
        ⟨.relative, ["b"]⟩, ⟨.relative, ["notes", "a-b"]⟩]) :=
  ⟨isDirectoryTree_notes, filesOf_collectsFiles isDirectoryTree_notes [] _⟩

/-- A name of a number of equal letters. -/
def lettersName (count : Nat) : String := String.ofList (List.replicate count 'y')

/-- Letters take one byte each. -/
theorem utf8ByteSize_lettersName (count : Nat) : (lettersName count).utf8ByteSize = count := by
  have letters : (lettersName count).toList = List.replicate count 'y' := String.toList_ofList
  rw [utf8ByteSize_of_ascii, letters, List.length_replicate]
  rw [letters]
  exact fun character member => List.eq_of_mem_replicate member ▸ by decide

/-- A path with a name that no entry can have. -/
def longPath : Path := ⟨.relative, [lettersName 300]⟩

theorem noNull_longPath : longPath.holdsNull = false := by
  rw [Path.holdsNull, List.any_eq_false]
  refine List.forall_mem_singleton.mpr ?_
  rw [lettersName, String.toList_ofList, List.contains_iff_mem]
  exact fun member => absurd (List.eq_of_mem_replicate member) (by decide)

/-- A name that is too long is refused though nothing exists at the path. -/
theorem look_longPath : FileTree.empty.look [] longPath = .error .nameTooLong := by
  have name := utf8ByteSize_lettersName 300
  have text : longPath.text = lettersName 300 := by
    rw [Path.text, if_neg (fun both => List.cons_ne_nil _ _ both.2)]
    exact String.empty_append
  have followed : FileTree.empty.follow [] [lettersName 300] = .error .nameTooLong := by
    rw [follow, at?, if_pos rfl]
    exact if_pos (by rw [name, nameLimit]; omega)
  rw [look, locate, if_neg (by rw [text, name, pathLimit]; omega)]
  exact congrArg (· >>= _) followed

/-- A name that is too long is a fault, though nothing exists there. -/
theorem not_walks_longName :
    ¬ FileTree.empty.Walks [] [longPath] (FileTree.empty.filesOf [] [longPath]) := by
  have isTree : FileTree.empty.IsDirectoryTree := ⟨⟨.nil, nofun, nofun⟩, nofun, nofun⟩
  rintro ⟨lists, -, found⟩
  obtain ⟨other, -, stopped⟩ :=
    isTree.filesOf_cons_of_met (.itself noNull_longPath look_longPath) []
  rw [stopped] at found
  cases found

end FileTree
end Depot
