import Depot.File.Tree

/-!
# Files among paths

Collecting files from paths. A file stands for itself. A folder stands for the files among all
that lies below it: these are put in order and collected in their turn, which ends since there
are no folders among them.
-/

namespace Depot

namespace Path

/-- The path of what lies below a folder. -/
def descendant (folder : Path) (names : List String) : Path :=
  ⟨folder.root, folder.names ++ names⟩

/-- Whether a path comes no later than another one with the same root, names being compared one
by one. -/
def notAfter (left right : Path) : Bool :=
  !right.names.lex left.names fun first second => decide (first < second)

end Path

namespace FileTree

/-- What stands at a path. A path with a null character leads to nothing; a path that is too long
or has a name that is too long is a fault. -/
def visit (tree : FileTree) (working : Location) (path : Path) :
    Except FileFault (Option FileEntry) :=
  if path.holdsNull then .ok none else tree.examine working path

/-- The entries below a location, each with the names that lead to it from there. -/
def below (tree : FileTree) (location : Location) : List (Location × FileEntry) :=
  tree.entries.filterMap fun entry =>
    if location.isPrefixOf entry.1 ∧ entry.1 ≠ location then
      some (entry.1.drop location.length, entry.2)
    else none

/-- The paths of all that lies below a folder, those with fewer names first. -/
def pathsBelow (tree : FileTree) (working : Location) (folder : Path) : List Path :=
  match tree.locate working folder with
  | .ok location =>
    ((tree.below location).map fun entry => folder.descendant entry.1).mergeSort
      fun left right => decide (left.names.length ≤ right.names.length)
  | .error _ => []

/-- The paths at which files stand, up to the first fault. -/
def keepFiles (tree : FileTree) (working : Location) : List Path → Except FileFault (List Path)
  | [] => .ok []
  | path :: rest =>
    match tree.visit working path with
    | .error fault => .error fault
    | .ok (some (.file _)) => do .ok (path :: (← tree.keepFiles working rest))
    | .ok _ => tree.keepFiles working rest

/-- The files below a folder in ascending order. -/
def filesBelow (tree : FileTree) (working : Location) (folder : Path) :
    Except FileFault (List Path) := do
  .ok ((← tree.keepFiles working (tree.pathsBelow working folder)).mergeSort Path.notAfter)

section

variable {tree : FileTree} {working : Location} {path : Path}

/-- Where a visit finds an entry, looking finds it too. -/
theorem look?_of_visit {entry : FileEntry} (stands : tree.visit working path = .ok (some entry)) :
    tree.look? working path = some entry := by
  rw [visit] at stands
  split at stands
  · cases stands
  · rw [examine] at stands
    rw [look?]
    split at stands
    · rename_i led
      rw [led]
      exact Except.ok.inj stands
    · cases stands
    · cases stands

/-- Where a visit finds a folder, a folder stands. -/
theorem isFolder_of_visit (stands : tree.visit working path = .ok (some .folder)) :
    tree.isFolder working path = true := by
  rw [isFolder, look?_of_visit stands]

/-- Where a visit finds a file, no folder stands. -/
theorem not_isFolder_of_visit {content : Content}
    (stands : tree.visit working path = .ok (some (.file content))) :
    tree.isFolder working path = false := by
  rw [isFolder, look?_of_visit stands]

/-- No folder is kept among files. -/
theorem not_isFolder_of_keepFiles {paths files : List Path}
    (kept : tree.keepFiles working paths = .ok files) :
    ∀ file ∈ files, tree.isFolder working file = false := by
  induction paths generalizing files with
  | nil =>
    cases kept
    exact List.forall_mem_nil _
  | cons path rest inductionHypothesis =>
    rw [keepFiles] at kept
    split at kept
    · cases kept
    · rename_i content stands
      cases further : tree.keepFiles working rest with
      | error fault =>
        rw [further] at kept
        cases kept
      | ok others =>
        rw [further] at kept
        cases kept
        exact List.forall_mem_cons.mpr ⟨not_isFolder_of_visit stands, inductionHypothesis further⟩
    · exact inductionHypothesis kept

/-- There are no folders among the files below a folder. -/
theorem countP_isFolder_filesBelow {folder : Path} {files : List Path}
    (collected : tree.filesBelow working folder = .ok files) :
    files.countP (tree.isFolder working) = 0 := by
  rw [filesBelow] at collected
  cases kept : tree.keepFiles working (tree.pathsBelow working folder) with
  | error fault =>
    rw [kept] at collected
    cases collected
  | ok found =>
    rw [kept] at collected
    cases collected
    rw [List.countP_eq_zero]
    intro file member
    rw [not_isFolder_of_keepFiles kept file (List.mem_mergeSort.mp member)]
    exact Bool.false_ne_true

end

/-- The files that paths lead to, up to the first fault: a file stands for itself, a folder for the
files below it, and anything else for nothing. -/
def filesOf (tree : FileTree) (working : Location) : List Path → Except FileFault (List Path)
  | [] => .ok []
  | path :: rest =>
    match _ : tree.visit working path with
    | .error fault => .error fault
    | .ok (some .folder) =>
      match _ : tree.filesBelow working path with
      | .error fault => .error fault
      | .ok files => do
        let inside ← tree.filesOf working files
        .ok (inside ++ (← tree.filesOf working rest))
    | .ok (some (.file _)) => do .ok (path :: (← tree.filesOf working rest))
    | .ok none => tree.filesOf working rest
termination_by paths => (paths.countP (tree.isFolder working), paths.length)
decreasing_by
  · -- The files below a folder have no folder among them, the paths had at least this one.
    rw [countP_isFolder_filesBelow ‹tree.filesBelow working path = .ok files›, List.countP_cons,
      isFolder_of_visit ‹tree.visit working path = .ok (some .folder)›]
    exact Prod.Lex.left _ _ (Nat.zero_lt_succ _)
  all_goals
    rw [List.countP_cons, List.length_cons]
    exact Prod.Lex.right' _ (Nat.le_add_right _ _) (Nat.lt_succ_self _)

end FileTree
end Depot
