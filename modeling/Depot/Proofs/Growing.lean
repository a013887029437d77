import Depot.Proofs.Collecting
import Depot.Proofs.Locating
import Mathlib.Data.List.Perm.Subperm

/-!
# What storing adds to any tree

Making folders changes nothing but that folders are new where nothing stood. Storing a payload adds
its file to that, and a temporary file that is given up is gone again, since its name is one that
nothing in its folder has. All this holds in any tree and for any faults.
-/

namespace Depot

namespace FileTree

/-- Nothing changes from one tree to the other but that folders are new where nothing stood. -/
def GainsFolders (before after : FileTree) : Prop :=
  ∀ location, after.at? location = before.at? location ∨
    before.at? location = none ∧ after.at? location = some .folder

theorem GainsFolders.refl (tree : FileTree) : tree.GainsFolders tree := fun _ => .inl rfl

theorem GainsFolders.trans {first second third : FileTree} (gains : first.GainsFolders second)
    (more : second.GainsFolders third) : first.GainsFolders third := by
  intro location
  rcases more location with same | ⟨free, stands⟩
  · rw [same]
    exact gains location
  · rcases gains location with same | ⟨-, isFolder⟩
    · exact .inr ⟨same.symm.trans free, stands⟩
    · rw [free] at isFolder
      cases isFolder

/-- Folders that are new take none away. -/
theorem GainsFolders.foldersKept {before after : FileTree} (gains : before.GainsFolders after) :
    before.FoldersKept after := by
  intro location isFolder
  rcases gains location with same | ⟨-, stands⟩
  · rw [same]
    exact isFolder
  · exact stands

/-- Folders that are new leave every file as it is. -/
theorem GainsFolders.file_iff {before after : FileTree} (gains : before.GainsFolders after)
    (location : Location) (content : Content) :
    after.at? location = some (.file content) ↔ before.at? location = some (.file content) := by
  rcases gains location with same | ⟨free, stands⟩
  · rw [same]
  · simp [free, stands]

/-- What is gained does not depend on how the entries of a tree are listed. -/
theorem GainsFolders.of_at?_eq {before made after : FileTree} (gains : before.GainsFolders made)
    (same : after.at? = made.at?) : before.GainsFolders after := by
  intro location
  rw [same]
  exact gains location

section

variable {tree : FileTree} {working : Location} {path : Path}

/-- A folder that is made is new where nothing stood. -/
theorem gainsFolders_makeFolder {made : FileTree} (done : tree.makeFolder working path = .ok made) :
    tree.GainsFolders made := by
  rw [makeFolder] at done
  cases looked : tree.look working path with
  | error problem =>
    rw [looked] at done
    cases done
  | ok place =>
    obtain ⟨home, found⟩ := place
    rw [looked] at done
    cases found with
    | some entry => cases done
    | none =>
      cases done
      obtain ⟨-, free⟩ := look_eq_ok_iff.mp looked
      have notRoot : home ≠ [] := by
        rintro rfl
        cases free
      intro location
      by_cases same : home = location
      · subst same
        exact .inr ⟨free, tree.at?_put_self notRoot .folder⟩
      · exact .inl (at?_put_of_ne same .folder)

/-- Making sure of a folder adds nothing but folders, whether it succeeds or fails. -/
theorem gainsFolders_settle (tree : FileTree) (working : Location) (path : Path) :
    tree.GainsFolders (tree.settle (tree.ensureFolder working path)).1 := by
  rw [ensureFolder]
  split
  · rename_i tried
    exact gainsFolders_makeFolder tried
  · split
    · exact .refl tree
    · exact .refl tree

/-- Making folders one after the other adds nothing else, wherever it stops. -/
theorem gainsFolders_makeReversed (tree : FileTree) (working : Location) (root : PathRoot)
    (names : List String) : tree.GainsFolders (tree.makeReversed working root names).1 := by
  induction names with
  | nil => exact tree.gainsFolders_settle working _
  | cons name rest inductionHypothesis =>
    rw [makeReversed]
    split
    · split
      · rename_i between below
        rw [below] at inductionHypothesis
        exact inductionHypothesis.trans (between.gainsFolders_settle working _)
      · exact inductionHypothesis
    · exact tree.gainsFolders_settle working _

/-- Making the folders of a path adds nothing else, wherever it stops. -/
theorem gainsFolders_makeFolders (tree : FileTree) (working : Location) (path : Path) :
    tree.GainsFolders (tree.makeFolders working path).1 := by
  rw [makeFolders]
  split
  · exact .refl tree
  · exact tree.gainsFolders_makeReversed working path.root path.names.reverse

/-- The folders of a path that have been made are all that is new, and the path leads to one. -/
theorem of_ensureFolders {made : FileTree} (done : tree.ensureFolders working path = .ok made) :
    tree.GainsFolders made ∧ made.isFolder working path = true := by
  rw [ensureFolders] at done
  split at done
  · rename_i outcome isMade
    cases done
    have gains := tree.gainsFolders_makeFolders working path
    rw [isMade] at gains
    exact ⟨gains, (of_makeFolders isMade).2.2⟩
  · cases done

/-- A path is occupied exactly when looking there finds something. -/
theorem occupied_iff :
    tree.occupied working path = true ↔
      ∃ location entry, tree.look working path = .ok (location, some entry) := by
  rw [occupied, look?]
  rcases tree.look working path with problem | ⟨location, _ | entry⟩ <;> simp

/-- A name that leads somewhere from a folder leads to an entry of it. -/
theorem locate_child_eq {home location : Location} {folder : Path} {name : String}
    (stands : tree.look working folder = .ok (home, some .folder)) (notUp : name ≠ "..")
    (led : tree.locate working (folder.child name) = .ok location) :
    location = home ++ [name] := by
  obtain ⟨folderLed, isFolder⟩ := look_eq_ok_iff.mp stands
  rw [locate] at led folderLed
  split at led
  · cases led
  · split at folderLed
    · cases folderLed
    · change tree.follow (if folder.isAbsolute then [] else working) (folder.names ++ [name]) =
        .ok location at led
      rw [follow_append, folderLed] at led
      change tree.follow home [name] = .ok location at led
      rw [follow, isFolder] at led
      dsimp only at led
      split at led
      · cases led
      · cases led
        rfl

end
end FileTree

/-! ## Temporary files -/

namespace BlobStore

/-- Numbers give different names. -/
theorem numberedName_injective : Function.Injective numberedName := by
  intro left right same
  rw [numberedName, numberedName, String.append_right_inj, Nat.toString_eq_ofList_toDigits,
    Nat.toString_eq_ofList_toDigits, String.ofList_inj] at same
  rw [← Nat.ofDigitChars_ten_toDigits (n := left), same, Nat.ofDigitChars_ten_toDigits]

/-- No numbered name leads up. -/
theorem numberedName_ne_up (number : Nat) : numberedName number ≠ ".." := by
  intro same
  have temporary := isTemporary_numberedName number
  rw [same, IsTemporary] at temporary
  revert temporary
  decide

/-- Nothing in a folder has the temporary name that is chosen for it: the tree has fewer entries
than there are names to choose from. -/
theorem occupied_temporaryName {tree : FileTree} {working : Location} {folder : Path}
    (isFolder : tree.isFolder working folder = true) :
    tree.occupied working (folder.child (temporaryName tree working folder)) = false := by
  obtain ⟨home, stands⟩ := FileTree.isFolder_iff.mp isFolder
  rw [temporaryName]
  cases found : (List.range (tree.entries.length + 1)).find? fun number =>
      !tree.occupied working (folder.child (numberedName number)) with
  | some number => simpa using List.find?_some found
  | none =>
    exfalso
    have taken (number : Nat) (member : number ∈ List.range (tree.entries.length + 1)) :
        home ++ [numberedName number] ∈ tree.entries.map Prod.fst := by
      have occupied : tree.occupied working (folder.child (numberedName number)) = true := by
        simpa using List.find?_eq_none.mp found number member
      obtain ⟨location, entry, looked⟩ := FileTree.occupied_iff.mp occupied
      obtain ⟨led, here⟩ := FileTree.look_eq_ok_iff.mp looked
      rw [FileTree.locate_child_eq stands (numberedName_ne_up number) led] at here
      rw [FileTree.at?, if_neg (List.append_ne_nil_of_right_ne_nil _ (List.cons_ne_nil _ _))]
        at here
      exact List.mem_map_of_mem (mem_of_valueOf? here)
    have distinct : ((List.range (tree.entries.length + 1)).map fun number =>
        home ++ [numberedName number]).Nodup := by
      refine List.Nodup.map (fun left right same => numberedName_injective ?_) List.nodup_range
      simpa using same
    have within : ((List.range (tree.entries.length + 1)).map fun number =>
        home ++ [numberedName number]) ⊆ tree.entries.map Prod.fst := by
      intro location member
      obtain ⟨number, inRange, rfl⟩ := List.mem_map.mp member
      exact taken number inRange
    have fewer := (List.subperm_of_subset distinct within).length_le
    rw [List.length_map, List.length_range, List.length_map] at fewer
    omega

/-- A temporary file with some bytes stands at a path where nothing stood, and nothing else has
changed. -/
structure HoldsTemporary (made : FileTree) (working : Location) (path : Path) (place : Location)
    (data : List UInt8) (tree : FileTree) : Prop where
  free : made.at? place = none
  led : made.locate working path = .ok place
  changed : tree.at? = Function.update made.at? place (some (.file (.bytes data)))

section

variable {made tree : FileTree} {working place : Location} {path : Path} {data : List UInt8}

/-- Writing to a path where nothing stands makes a temporary file. -/
theorem holdsTemporary_of_writeBytes (free : made.occupied working path = false)
    (done : made.writeBytes working path data = .ok tree) :
    ∃ place, HoldsTemporary made working path place data tree := by
  rw [FileTree.writeBytes, FileTree.writeContent] at done
  split at done
  · cases done
  · split at done
    · cases done
    · rename_i place found _ looked
      cases done
      obtain ⟨led, here⟩ := FileTree.look_eq_ok_iff.mp looked
      have nothing : found = none := by
        rw [FileTree.occupied, FileTree.look?, looked] at free
        simpa using free
      rw [nothing] at here
      have notRoot : place ≠ [] := by
        rintro rfl
        cases here
      exact ⟨place, here, led, made.at?_put notRoot _⟩
    · cases done

namespace HoldsTemporary

/-- No folder has gone. -/
theorem foldersKept (temporary : HoldsTemporary made working path place data tree) :
    made.FoldersKept tree :=
  FileTree.foldersKept_of_update temporary.changed (.inr (by rw [temporary.free]; nofun))

/-- No folder is new. -/
theorem noFolders (temporary : HoldsTemporary made working path place data tree) :
    tree.FoldersKept made := by
  intro location isFolder
  rw [temporary.changed, Function.update_apply] at isFolder
  split at isFolder
  · cases isFolder
  · exact isFolder

/-- The path leads to the file. -/
theorem look (temporary : HoldsTemporary made working path place data tree) :
    tree.look working path = .ok (place, some (.file (.bytes data))) := by
  refine FileTree.look_eq_ok_iff.mpr ⟨temporary.foldersKept.locate temporary.led, ?_⟩
  rw [temporary.changed, Function.update_self]

/-- A temporary file lies below the root. -/
theorem notRoot (temporary : HoldsTemporary made working path place data tree) : place ≠ [] := by
  rintro rfl
  cases temporary.free

/-- Writing to the path again gives the file other bytes. -/
theorem write (temporary : HoldsTemporary made working path place data tree)
    {more : List UInt8} {next : FileTree} (done : tree.writeBytes working path more = .ok next) :
    HoldsTemporary made working path place more next := by
  rw [FileTree.writeBytes, FileTree.writeContent, temporary.look] at done
  split at done
  · cases done
  · cases done
    refine ⟨temporary.free, temporary.led, ?_⟩
    rw [tree.at?_put temporary.notRoot, temporary.changed, Function.update_idem]

/-- Erasing the file gives back what stood before. -/
theorem at?_erase (temporary : HoldsTemporary made working path place data tree) :
    (tree.erase place).at? = made.at? := by
  rw [tree.at?_erase temporary.notRoot, temporary.changed, Function.update_idem,
    ← temporary.free, Function.update_eq_self]

/-- Removing the file gives back what stood before. -/
theorem at?_removeFile (temporary : HoldsTemporary made working path place data tree) :
    (tree.removeFile working path).at? = made.at? := by
  rw [FileTree.removeFile, temporary.look]
  exact temporary.at?_erase

/-- Renaming the file puts its bytes at the other path, where no folder stands. -/
theorem rename (temporary : HoldsTemporary made working path place data tree) {target : Path}
    {renamed : FileTree} (done : tree.renameFile working path target = .ok renamed) :
    ∃ location, made.locate working target = .ok location ∧
      made.at? location ≠ some .folder ∧
      renamed.at? = Function.update made.at? location (some (.file (.bytes data))) := by
  rw [FileTree.renameFile, temporary.look] at done
  cases looked : tree.look working target with
  | error problem =>
    rw [looked] at done
    cases done
  | ok found =>
    obtain ⟨location, entry⟩ := found
    rw [looked] at done
    dsimp only at done
    split at done
    · cases done
    · rename_i noFolder
      cases done
      obtain ⟨led, here⟩ := FileTree.look_eq_ok_iff.mp looked
      have notRoot : location ≠ [] := by
        rintro rfl
        exact noFolder here.symm
      refine ⟨location, temporary.noFolders.locate led, fun isFolder => noFolder ?_, ?_⟩
      · rw [← here]
        exact temporary.foldersKept location isFolder
      · rw [FileTree.at?_put _ notRoot, temporary.at?_erase]

end HoldsTemporary

/-! ## Payloads -/

/-- A payload has been put at a path: folders are new, and after that its file stands at the
location to which the path leads, where no folder stood. -/
structure PutsPayload (before : FileTree) (working : Location) (path : Path)
    (payload : List UInt8) (made : FileTree) (location : Location) (after : FileTree) : Prop where
  gains : before.GainsFolders made
  led : made.locate working path = .ok location
  noFolder : made.at? location ≠ some .folder
  changed : after.at? = Function.update made.at? location (some (.file (.bytes payload)))

end

/-- What comes of a step: it is made to fail, or it does its work. -/
def attempt (planned : PlannedFaults) (tree : FileTree)
    (step : WriteStep × (FileTree → Except FileFault FileTree)) : Except FileFault FileTree :=
  match planned step.1 with
  | some fault => .error fault
  | none => step.2 tree

/-- Without steps nothing is done. -/
theorem runSteps_nil (planned : PlannedFaults) (tree : FileTree) :
    runSteps planned tree [] = ([], none) := rfl

/-- Steps run as long as nothing comes between. -/
theorem runSteps_cons (planned : PlannedFaults) (tree : FileTree)
    (step : WriteStep × (FileTree → Except FileFault FileTree))
    (rest : List (WriteStep × (FileTree → Except FileFault FileTree))) :
    runSteps planned tree (step :: rest) =
      match attempt planned tree step with
      | .error fault => ([], some fault)
      | .ok next => (next :: (runSteps planned next rest).1, (runSteps planned next rest).2) := by
  rw [runSteps, attempt]
  cases planned step.1 <;> rfl

/-- A step that succeeds has done its work. -/
theorem of_attempt_ok {planned : PlannedFaults} {tree next : FileTree}
    {step : WriteStep × (FileTree → Except FileFault FileTree)}
    (done : attempt planned tree step = .ok next) : step.2 tree = .ok next := by
  rw [attempt] at done
  split at done
  · cases done
  · exact done

/-- A step that succeeds is not made to fail. -/
theorem calm_of_attempt_ok {planned : PlannedFaults} {tree next : FileTree}
    {step : WriteStep × (FileTree → Except FileFault FileTree)}
    (done : attempt planned tree step = .ok next) : planned step.1 = none := by
  rw [attempt] at done
  split at done
  · cases done
  · assumption

/-- How far the steps of writing a payload get, with the trees that they leave: the folder of the
digest is made, a temporary file is created in it, the payload is written into that, and the file is
renamed. What fails after the file has been created removes it again. -/
inductive Goes (blobs : BlobStore) (planned : PlannedFaults) (hash : String)
    (payload : List UInt8) : List FileTree → Option FileFault → Prop where
  | unmade (fault : FileFault) : Goes blobs planned hash payload [] (some fault)
  | uncreated {made : FileTree} (fault : FileFault)
      (makes : blobs.tree.ensureFolders blobs.working (blobs.shard hash) = .ok made) :
      Goes blobs planned hash payload [made] (some fault)
  | unwritten {made created : FileTree} {place : Location} (number : Nat) (fault : FileFault)
      (makes : blobs.tree.ensureFolders blobs.working (blobs.shard hash) = .ok made)
      (creates : HoldsTemporary made blobs.working
        ((blobs.shard hash).child (numberedName number)) place [] created) :
      Goes blobs planned hash payload [made, created,
        created.removeFile blobs.working ((blobs.shard hash).child (numberedName number))]
        (some fault)
  | unrenamed {made created written : FileTree} {place : Location} (number : Nat)
      (fault : FileFault)
      (makes : blobs.tree.ensureFolders blobs.working (blobs.shard hash) = .ok made)
      (creates : HoldsTemporary made blobs.working
        ((blobs.shard hash).child (numberedName number)) place [] created)
      (writes : HoldsTemporary made blobs.working
        ((blobs.shard hash).child (numberedName number)) place payload written) :
      Goes blobs planned hash payload [made, created, written,
        written.removeFile blobs.working ((blobs.shard hash).child (numberedName number))]
        (some fault)
  | renamed {made created written after : FileTree} {place : Location} (number : Nat)
      (calm : ∀ step, planned step = none)
      (makes : blobs.tree.ensureFolders blobs.working (blobs.shard hash) = .ok made)
      (creates : HoldsTemporary made blobs.working
        ((blobs.shard hash).child (numberedName number)) place [] created)
      (writes : HoldsTemporary made blobs.working
        ((blobs.shard hash).child (numberedName number)) place payload written)
      (renames : written.renameFile blobs.working
        ((blobs.shard hash).child (numberedName number)) (blobs.pathOf hash) = .ok after) :
      Goes blobs planned hash payload [made, created, written, after] none

/-- The steps of writing a payload get as far as they can. -/
theorem goes_writeSteps (blobs : BlobStore) (planned : PlannedFaults) (hash : String)
    (payload : List UInt8) :
    Goes blobs planned hash payload (blobs.writeSteps planned hash payload).1
      (blobs.writeSteps planned hash payload).2 := by
  cases makes : attempt planned blobs.tree
      (.makeShard, (·.ensureFolders blobs.working (blobs.shard hash))) with
  | error fault =>
    simp only [writeSteps, runSteps_cons, makes]
    exact .unmade fault
  | ok made =>
  obtain ⟨-, isFolder⟩ := FileTree.of_ensureFolders (of_attempt_ok makes)
  have free := occupied_temporaryName isFolder
  obtain ⟨number, named⟩ : ∃ number, temporaryName made blobs.working (blobs.shard hash) =
      numberedName number := ⟨_, rfl⟩
  rw [named] at free
  cases creates : attempt planned made (.createTemporary,
      (·.writeBytes blobs.working ((blobs.shard hash).child (numberedName number)) [])) with
  | error fault =>
    simp only [writeSteps, runSteps_cons, runSteps_nil, lastTree, List.getLastD_cons,
      List.getLastD_nil, makes, named, creates]
    exact .uncreated fault (of_attempt_ok makes)
  | ok created =>
  obtain ⟨place, holds⟩ := holdsTemporary_of_writeBytes free (of_attempt_ok creates)
  cases writes : attempt planned created (.writeTemporary,
      (·.writeBytes blobs.working ((blobs.shard hash).child (numberedName number)) payload)) with
  | error fault =>
    simp only [writeSteps, runSteps_cons, runSteps_nil, lastTree, List.getLastD_cons,
      List.getLastD_nil, makes, named, creates, writes]
    exact .unwritten number fault (of_attempt_ok makes) holds
  | ok written =>
  have holdsPayload := holds.write (of_attempt_ok writes)
  cases renames : attempt planned written (.rename,
      (·.renameFile blobs.working ((blobs.shard hash).child (numberedName number))
        ((blobs.shard hash).child hash))) with
  | error fault =>
    simp only [writeSteps, runSteps_cons, runSteps_nil, lastTree, List.getLastD_cons,
      List.getLastD_nil, makes, named, creates, writes, renames]
    exact .unrenamed number fault (of_attempt_ok makes) holds holdsPayload
  | ok after =>
    have calm : ∀ step, planned step = none := by
      rintro (_ | _ | _ | _)
      · exact calm_of_attempt_ok makes
      · exact calm_of_attempt_ok creates
      · exact calm_of_attempt_ok writes
      · exact calm_of_attempt_ok renames
    simp only [writeSteps, runSteps_cons, runSteps_nil, lastTree, List.getLastD_cons,
      List.getLastD_nil, makes, named, creates, writes, renames]
    exact .renamed number calm (of_attempt_ok makes) holds holdsPayload (of_attempt_ok renames)

/-- What the steps of writing a payload leave in any tree: folders alone if a step fails, and the
file of the payload besides if none does. -/
inductive Adds (blobs : BlobStore) (planned : PlannedFaults) (hash : String)
    (payload : List UInt8) (after : FileTree) : Option FileFault → Prop where
  | stopped {fault : FileFault} (gains : blobs.tree.GainsFolders after) :
      Adds blobs planned hash payload after (some fault)
  | whole {made : FileTree} {location : Location} (calm : ∀ step, planned step = none)
      (puts : PutsPayload blobs.tree blobs.working (blobs.pathOf hash) payload made location
        after) : Adds blobs planned hash payload after none

/-- The steps of writing a payload leave folders alone, or the file of the payload besides. -/
theorem adds_writeSteps (blobs : BlobStore) (planned : PlannedFaults) (hash : String)
    (payload : List UInt8) :
    Adds blobs planned hash payload
      (lastTree blobs.tree (blobs.writeSteps planned hash payload).1)
      (blobs.writeSteps planned hash payload).2 := by
  have goes := blobs.goes_writeSteps planned hash payload
  revert goes
  rcases blobs.writeSteps planned hash payload with ⟨trees, fault⟩
  intro goes
  cases goes with
  | unmade fault => exact .stopped (.refl _)
  | uncreated fault makes => exact .stopped (FileTree.of_ensureFolders makes).1
  | unwritten number fault makes creates =>
    exact .stopped ((FileTree.of_ensureFolders makes).1.of_at?_eq creates.at?_removeFile)
  | unrenamed number fault makes creates writes =>
    exact .stopped ((FileTree.of_ensureFolders makes).1.of_at?_eq writes.at?_removeFile)
  | renamed number calm makes creates writes renames =>
    obtain ⟨location, led, noFolder, changed⟩ := writes.rename renames
    exact .whole calm ⟨(FileTree.of_ensureFolders makes).1, led, noFolder, changed⟩

/-- How storing a payload ends in any tree: its path cannot be examined, something stands there
already, a step of writing fails and leaves folders alone, or the payload is put there. -/
inductive Ends (blobs : BlobStore) (planned : PlannedFaults) (payload : List UInt8) :
    Except Failure String × BlobStore → Prop where
  | unexamined (fault : FileFault)
      (examined : blobs.tree.examine blobs.working (blobs.pathOf (Sha256.hexDigest payload)) =
        .error fault) : Ends blobs planned payload (.error (.file fault), blobs)
  | found (entry : FileEntry)
      (examined : blobs.tree.examine blobs.working (blobs.pathOf (Sha256.hexDigest payload)) =
        .ok (some entry)) : Ends blobs planned payload (.ok (Sha256.hexDigest payload), blobs)
  | failed {after : FileTree} (fault : FileFault)
      (examined : blobs.tree.examine blobs.working (blobs.pathOf (Sha256.hexDigest payload)) =
        .ok none) (gains : blobs.tree.GainsFolders after) :
      Ends blobs planned payload
        (.error (.storeUnavailable (.cannotWrite (Sha256.hexDigest payload) fault)),
          { blobs with tree := after })
  | written {made after : FileTree} {location : Location}
      (examined : blobs.tree.examine blobs.working (blobs.pathOf (Sha256.hexDigest payload)) =
        .ok none) (calm : ∀ step, planned step = none)
      (puts : PutsPayload blobs.tree blobs.working (blobs.pathOf (Sha256.hexDigest payload))
        payload made location after) :
      Ends blobs planned payload (.ok (Sha256.hexDigest payload), { blobs with tree := after })

/-- Storing a payload ends in one of these ways. -/
theorem ends_store (blobs : BlobStore) (planned : PlannedFaults) (payload : List UInt8) :
    Ends blobs planned payload (blobs.store planned payload) := by
  have adds := blobs.adds_writeSteps planned (Sha256.hexDigest payload) payload
  rw [store]
  split
  · rename_i fault examined
    exact .unexamined fault examined
  · rename_i entry examined
    exact .found entry examined
  · rename_i examined
    revert adds
    rcases blobs.writeSteps planned (Sha256.hexDigest payload) payload with ⟨trees, fault⟩
    intro adds
    cases adds with
    | stopped gains => exact .failed _ examined gains
    | whole calm puts => exact .written examined calm puts

/-- What storing a payload comes to in any tree: it fails and adds folders alone, something stands
at the path of the payload already, or the payload is put there. -/
theorem store_cases (blobs : BlobStore) (planned : PlannedFaults) (payload : List UInt8) :
    (∃ failure after, blobs.store planned payload =
        (.error failure, { blobs with tree := after }) ∧ blobs.tree.GainsFolders after) ∨
      (blobs.store planned payload = (.ok (Sha256.hexDigest payload), blobs) ∧
        blobs.tree.occupied blobs.working (blobs.pathOf (Sha256.hexDigest payload)) = true) ∨
      ∃ made location after, blobs.store planned payload =
          (.ok (Sha256.hexDigest payload), { blobs with tree := after }) ∧
        PutsPayload blobs.tree blobs.working (blobs.pathOf (Sha256.hexDigest payload)) payload made
          location after := by
  have ends := blobs.ends_store planned payload
  generalize blobs.store planned payload = outcome at ends
  cases ends with
  | unexamined fault examined => exact .inl ⟨_, blobs.tree, rfl, .refl _⟩
  | found entry examined =>
    refine .inr (.inl ⟨rfl, FileTree.occupied_iff.mpr ?_⟩)
    rw [FileTree.examine] at examined
    split at examined
    · rename_i place found looked
      cases examined
      exact ⟨place, entry, looked⟩
    · cases examined
    · cases examined
  | failed fault examined gains => exact .inl ⟨_, _, rfl, gains⟩
  | written examined calm puts => exact .inr (.inr ⟨_, _, _, rfl, puts⟩)

end BlobStore
end Depot
