import Depot.File.Tree
import Mathlib.Tactic.Common

/-!
# Folders stay

Nothing that is written or made takes a folder away, so a path that leads somewhere keeps leading
there. Making the folders of a path leaves a folder at the path, and does nothing when it is there
already.
-/

namespace Depot.FileTree

/-- Every folder of the one tree is a folder of the other. -/
def FoldersKept (before after : FileTree) : Prop :=
  ∀ location, before.at? location = some .folder → after.at? location = some .folder

theorem FoldersKept.refl (tree : FileTree) : tree.FoldersKept tree := fun _ found => found

theorem FoldersKept.trans {first second third : FileTree} (kept : first.FoldersKept second)
    (keptAgain : second.FoldersKept third) : first.FoldersKept third :=
  fun location found => keptAgain location (kept location found)

section

variable {tree : FileTree} {working location : Location} {path : Path}

/-- What is put somewhere stands there. -/
theorem at?_put_self (tree : FileTree) {location : Location} (notRoot : location ≠ [])
    (entry : FileEntry) : (tree.put location entry).at? location = some entry := by
  rw [at?, if_neg notRoot, put]
  exact valueOf?_insertEntry_self location entry tree.entries

/-- Nothing changes at other locations. -/
theorem at?_put_of_ne {other : Location} (different : location ≠ other) (entry : FileEntry) :
    (tree.put location entry).at? other = tree.at? other := by
  rw [at?, at?, put, valueOf?_insertEntry_of_ne different]

/-- Folders stay when a folder is made, or when anything is put where no folder stands. -/
theorem foldersKept_put {entry : FileEntry}
    (allowed : entry = .folder ∨ tree.at? location ≠ some .folder) :
    tree.FoldersKept (tree.put location entry) := by
  intro other found
  by_cases same : location = other
  · subst same
    by_cases root : location = []
    · rw [at?, if_pos root]
    · rcases allowed with rfl | noFolder
      · exact tree.at?_put_self root .folder
      · exact absurd found noFolder
  · rw [at?_put_of_ne same]
    exact found

/-- Names lead to the same location while folders stay. -/
theorem FoldersKept.follow {before after : FileTree} (kept : before.FoldersKept after)
    {names : List String} {start : Location} (led : before.follow start names = .ok location) :
    after.follow start names = .ok location := by
  induction names generalizing start with
  | nil => exact led
  | cons name rest inductionHypothesis =>
    rw [FileTree.follow] at led ⊢
    split at led
    · rename_i found
      rw [kept start found]
      split at led
      · cases led
      · rename_i short
        rw [if_neg short]
        exact inductionHypothesis led
    · cases led
    · cases led

/-- A path leads to the same location while folders stay. -/
theorem FoldersKept.locate {before after : FileTree} (kept : before.FoldersKept after)
    (led : before.locate working path = .ok location) :
    after.locate working path = .ok location := by
  rw [FileTree.locate] at led ⊢
  split at led
  · cases led
  · rename_i short
    rw [if_neg short]
    exact kept.follow led

/-- Looking at a path finds what stands at the location to which it leads. -/
theorem look_eq_ok_iff {found : Option FileEntry} :
    tree.look working path = .ok (location, found) ↔
      tree.locate working path = .ok location ∧ tree.at? location = found := by
  rw [look]
  cases led : tree.locate working path with
  | error problem =>
    constructor
    · intro answered
      cases answered
    · rintro ⟨answered, -⟩
      cases answered
  | ok place =>
    constructor
    · intro answered
      cases answered
      exact ⟨rfl, rfl⟩
    · rintro ⟨answered, rfl⟩
      cases answered
      rfl

/-- A folder stands at a path exactly when looking there finds one. -/
theorem isFolder_iff :
    tree.isFolder working path = true ↔
      ∃ location, tree.look working path = .ok (location, some .folder) := by
  rw [isFolder, look?]
  rcases tree.look working path with problem | ⟨location, _ | _ | content⟩ <;> simp

/-- Folders at paths stay. -/
theorem FoldersKept.isFolder {before after : FileTree} (kept : before.FoldersKept after)
    (isFolder : before.isFolder working path = true) : after.isFolder working path = true := by
  obtain ⟨location, found⟩ := isFolder_iff.mp isFolder
  obtain ⟨led, stands⟩ := look_eq_ok_iff.mp found
  exact isFolder_iff.mpr ⟨location, look_eq_ok_iff.mpr ⟨kept.locate led, kept location stands⟩⟩

/-- Where a folder stands no other is made. -/
theorem makeFolder_of_isFolder (isFolder : tree.isFolder working path = true) :
    tree.makeFolder working path = .error .occupied := by
  obtain ⟨location, found⟩ := isFolder_iff.mp isFolder
  rw [makeFolder, found]
  rfl

/-- Where a folder stands nothing has to be done. -/
theorem ensureFolder_of_isFolder (isFolder : tree.isFolder working path = true) :
    tree.ensureFolder working path = .ok tree := by
  rw [ensureFolder, makeFolder_of_isFolder isFolder]
  exact if_pos ⟨by decide, isFolder⟩

/-- Where a folder stands, the folders that it needs stand as well. -/
theorem makeFolders_of_isFolder (noNull : path.holdsNull = false)
    (isFolder : tree.isFolder working path = true) :
    tree.makeFolders working path = (tree, none) := by
  rw [makeFolders, noNull]
  change tree.makeReversed working path.root path.names.reverse = (tree, none)
  cases reversed : path.names.reverse with
  | nil =>
    have same : path = ⟨path.root, []⟩ := by
      rw [← List.reverse_eq_nil_iff.mp reversed]
    rw [same] at isFolder
    rw [makeReversed, ensureFolder_of_isFolder isFolder]
    rfl
  | cons name rest =>
    have same : path = ⟨path.root, (name :: rest).reverse⟩ := by
      rw [← reversed, List.reverse_reverse]
    rw [same] at isFolder
    rw [makeReversed, makeFolder_of_isFolder isFolder, ensureFolder_of_isFolder isFolder]
    rfl

/-- A folder that is made stands at its path. -/
theorem of_makeFolder {made : FileTree} (done : tree.makeFolder working path = .ok made) :
    tree.FoldersKept made ∧ made.isFolder working path = true := by
  rw [makeFolder] at done
  cases looked : tree.look working path with
  | error problem =>
    rw [looked] at done
    cases done
  | ok place =>
    obtain ⟨location, found⟩ := place
    rw [looked] at done
    cases found with
    | some entry => cases done
    | none =>
      cases done
      obtain ⟨led, free⟩ := look_eq_ok_iff.mp looked
      have kept : tree.FoldersKept (tree.put location .folder) := foldersKept_put (.inl rfl)
      have notRoot : location ≠ [] := by
        intro root
        rw [at?, if_pos root] at free
        cases free
      exact ⟨kept, isFolder_iff.mpr
        ⟨location, look_eq_ok_iff.mpr ⟨kept.locate led, tree.at?_put_self notRoot .folder⟩⟩⟩

/-- A folder whose making succeeds stands at its path. -/
theorem of_ensureFolder {made : FileTree} (done : tree.ensureFolder working path = .ok made) :
    tree.FoldersKept made ∧ made.isFolder working path = true := by
  rw [ensureFolder] at done
  split at done
  · rename_i tried
    cases done
    exact of_makeFolder tried
  · split at done
    · rename_i condition
      cases done
      exact ⟨.refl tree, condition.2⟩
    · cases done

/-- A folder that settles without a fault stands at its path. -/
theorem of_settle_ensureFolder {outcome : FileTree × Option FileFault}
    (settled : tree.settle (tree.ensureFolder working path) = outcome) :
    tree.FoldersKept outcome.1 ∧ (outcome.2 = none → outcome.1.isFolder working path = true) := by
  subst settled
  cases ensured : tree.ensureFolder working path with
  | ok made =>
    obtain ⟨kept, stands⟩ := of_ensureFolder ensured
    exact ⟨kept, fun _ => stands⟩
  | error fault => exact ⟨.refl tree, fun settled => by cases settled⟩

/-- Making folders keeps all folders, and leaves one at the end of the names if nothing is at
fault. -/
theorem of_makeReversed (tree : FileTree) (working : Location) (root : PathRoot)
    (names : List String) {outcome : FileTree × Option FileFault}
    (made : tree.makeReversed working root names = outcome) :
    tree.FoldersKept outcome.1 ∧
      (outcome.2 = none → outcome.1.isFolder working ⟨root, names.reverse⟩ = true) := by
  induction names generalizing outcome with
  | nil => exact of_settle_ensureFolder made
  | cons name rest inductionHypothesis =>
    rw [makeReversed] at made
    split at made
    · split at made
      · rename_i between below
        obtain ⟨keptBelow, -⟩ := inductionHypothesis below
        obtain ⟨kept, stands⟩ := of_settle_ensureFolder made
        exact ⟨keptBelow.trans kept, stands⟩
      · rename_i failed
        subst made
        obtain ⟨keptBelow, -⟩ := inductionHypothesis rfl
        refine ⟨keptBelow, fun settled => ?_⟩
        exact (failed _ (Prod.ext rfl settled)).elim
    · exact of_settle_ensureFolder made

/-- Folders that are made without a fault stand, and all others stay. -/
theorem of_makeFolders {made : FileTree} (done : tree.makeFolders working path = (made, none)) :
    path.holdsNull = false ∧ tree.FoldersKept made ∧ made.isFolder working path = true := by
  rw [makeFolders] at done
  cases holdsNull : path.holdsNull with
  | true =>
    rw [holdsNull] at done
    cases done
  | false =>
    rw [holdsNull] at done
    obtain ⟨kept, stands⟩ := of_makeReversed tree working path.root path.names.reverse done
    rw [List.reverse_reverse] at stands
    exact ⟨rfl, kept, stands rfl⟩

/-- Where no folder stands, a file can be written, is found, and takes no folder away. -/
theorem of_look_file {found : Option FileEntry} (noNull : path.holdsNull = false)
    (looked : tree.look working path = .ok (location, found)) (noFolder : found ≠ some .folder)
    (content : Content) :
    tree.writeContent working path content = .ok (tree.put location (.file content)) ∧
      tree.FoldersKept (tree.put location (.file content)) ∧
      (tree.put location (.file content)).look working path =
        .ok (location, some (.file content)) := by
  obtain ⟨led, stands⟩ := look_eq_ok_iff.mp looked
  have kept : tree.FoldersKept (tree.put location (.file content)) :=
    foldersKept_put (.inr (by rw [stands]; exact noFolder))
  have notRoot : location ≠ [] := by
    intro root
    rw [at?, if_pos root] at stands
    exact noFolder stands.symm
  refine ⟨?_, kept, look_eq_ok_iff.mpr ⟨kept.locate led, tree.at?_put_self notRoot _⟩⟩
  rw [writeContent, noNull, looked]
  rcases found with _ | _ | _
  · rfl
  · exact absurd rfl noFolder
  · rfl

end
end Depot.FileTree
