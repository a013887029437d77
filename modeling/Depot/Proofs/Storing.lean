import Depot.Proofs.Locating

/-!
# What a store keeps

A store keeps payloads: below its folder stand nothing but the files of these payloads, each at its
digest, and the folders of leading digits. Storing a payload either makes the file of the payload
and changes nothing else, or leaves at most a new folder behind. No temporary file stays.
-/

namespace Depot.BlobStore

/-- The location of the folder of a digest in a store that stands at a location. -/
def shardPlace (home : Location) (hash : String) : Location := home ++ [shardName hash]

/-- The location of the file of a digest. -/
def place (home : Location) (hash : String) : Location := home ++ [shardName hash, hash]

theorem place_eq (home : Location) (hash : String) :
    place home hash = shardPlace home hash ++ [hash] := by
  rw [place, shardPlace, List.append_assoc]
  rfl

/-- The folder of a digest is not the root. -/
theorem shardPlace_ne_nil (home : Location) (hash : String) : shardPlace home hash ≠ [] :=
  List.append_ne_nil_of_right_ne_nil _ (List.cons_ne_nil _ _)

/-- The file of a digest is not the root. -/
theorem place_ne_nil (home : Location) (hash : String) : place home hash ≠ [] :=
  List.append_ne_nil_of_right_ne_nil _ (List.cons_ne_nil _ _)

/-- The folder of a digest is not the file of one. -/
theorem shardPlace_ne_place (home : Location) (hash other : String) :
    shardPlace home hash ≠ place home other := by
  simp [shardPlace, place]

/-- The entries that a store of payloads has below its folder. -/
inductive Holds (kept : List (List UInt8)) (names : List String) (entry : FileEntry) : Prop where
  | shard (hash : String) (isDigits : IsDigits hash) (named : names = [shardName hash])
    (isFolder : entry = .folder)
  | payload (payload : List UInt8) (member : payload ∈ kept)
    (named : names = [shardName (Sha256.hexDigest payload), Sha256.hexDigest payload])
    (isFile : entry = .file (.bytes payload))

/-- A store that stands at a location and keeps payloads: nothing else is below its folder, and
for each payload a file of its digest is there. -/
structure Keeps (blobs : BlobStore) (home : Location) (kept : List (List UInt8)) : Prop where
  noNull : blobs.root.holdsNull = false
  stands : blobs.tree.look blobs.working blobs.root = .ok (home, some .folder)
  nothingElse : ∀ names entry, names ≠ [] → blobs.tree.at? (home ++ names) = some entry →
    Holds kept names entry
  present : ∀ payload ∈ kept, (blobs.pathOf (Sha256.hexDigest payload)).IsShort ∧
    blobs.tree.at? (shardPlace home (Sha256.hexDigest payload)) = some .folder ∧
    blobs.tree.at? (place home (Sha256.hexDigest payload)) ≠ none

section

variable {blobs : BlobStore} {home : Location} {kept : List (List UInt8)} {hash : String}

/-- At the folder of a digest stands a folder or nothing. -/
theorem Keeps.at?_shardPlace (keeps : blobs.Keeps home kept) (hash : String) :
    blobs.tree.at? (shardPlace home hash) = none ∨
      blobs.tree.at? (shardPlace home hash) = some .folder := by
  cases found : blobs.tree.at? (shardPlace home hash) with
  | none => exact .inl rfl
  | some entry =>
    cases keeps.nothingElse [shardName hash] entry (List.cons_ne_nil _ _) found with
    | shard other isDigits named isFolder => exact .inr (congrArg some isFolder)
    | payload payload member named isFile => simp at named

/-- At the place of a digest stands nothing, or the file of a kept payload with the digest. -/
theorem Keeps.at?_place (keeps : blobs.Keeps home kept) (hash : String) :
    (blobs.tree.at? (place home hash) = none ∧
        ∀ payload ∈ kept, Sha256.hexDigest payload ≠ hash) ∨
      ∃ payload ∈ kept, Sha256.hexDigest payload = hash ∧
        blobs.tree.at? (place home hash) = some (.file (.bytes payload)) ∧
        blobs.tree.at? (shardPlace home hash) = some .folder := by
  cases found : blobs.tree.at? (place home hash) with
  | none =>
    refine .inl ⟨rfl, ?_⟩
    rintro payload member rfl
    exact (keeps.present payload member).2.2 found
  | some entry =>
    cases keeps.nothingElse [shardName hash, hash] entry (List.cons_ne_nil _ _) found with
    | shard other isDigits named isFolder => simp at named
    | payload payload member named isFile =>
      obtain rfl : hash = Sha256.hexDigest payload := by
        simpa using congrArg List.getLast? named
      exact .inr ⟨payload, member, rfl, congrArg some isFile, (keeps.present payload member).2.1⟩

/-- No entry below the folder of a store has a temporary name. -/
theorem Keeps.not_isTemporary (keeps : blobs.Keeps home kept) {names : List String} {name : String}
    (found : blobs.tree.at? (home ++ names) ≠ none) (last : names.getLast? = some name) :
    ¬ IsTemporary name := by
  obtain ⟨entry, stands⟩ := Option.ne_none_iff_exists'.mp found
  have named : names ≠ [] := by
    rintro rfl
    cases last
  cases keeps.nothingElse names entry named stands with
  | shard hash isDigits isShard isFolder =>
    obtain rfl : shardName hash = name := by simpa [isShard] using last
    exact isDigits.shardName.not_isTemporary
  | payload payload member isPlace isFile =>
    obtain rfl : Sha256.hexDigest payload = name := by simpa [isPlace] using last
    exact (isDigits_hexDigest payload).not_isTemporary

/-- Nothing stands at a temporary name in the folder of a digest. -/
theorem Keeps.at?_temporary (keeps : blobs.Keeps home kept) (hash : String) {name : String}
    (temporary : IsTemporary name) : blobs.tree.at? (shardPlace home hash ++ [name]) = none := by
  by_contra found
  rw [shardPlace, List.append_assoc] at found
  exact keeps.not_isTemporary found (by simp) temporary

/-- The path of a digest holds no null character if that of the store holds none, and neither does
that of its folder. -/
theorem noNull_pathOf (noNull : blobs.root.holdsNull = false) (isDigits : IsDigits hash) :
    (blobs.shard hash).holdsNull = false ∧ (blobs.pathOf hash).holdsNull = false := by
  have shardNoNull : (blobs.shard hash).holdsNull = false := by
    rw [shard, Path.holdsNull_child, noNull, isDigits.shardName.noNull]
    rfl
  refine ⟨shardNoNull, ?_⟩
  rw [pathOf, Path.holdsNull_child, shardNoNull, isDigits.noNull]
  rfl

/-- A store that keeps payloads can hand the path of a digest over. -/
theorem Keeps.noNull_pathOf (keeps : blobs.Keeps home kept) (isDigits : IsDigits hash) :
    (blobs.shard hash).holdsNull = false ∧ (blobs.pathOf hash).holdsNull = false :=
  BlobStore.noNull_pathOf keeps.noNull isDigits

/-- Looking at the folder of a digest. -/
theorem Keeps.look_shard (keeps : blobs.Keeps home kept) (isDigits : IsDigits hash)
    (short : (blobs.shard hash).IsShort) :
    blobs.tree.look blobs.working (blobs.shard hash) =
      .ok (shardPlace home hash, blobs.tree.at? (shardPlace home hash)) :=
  FileTree.look_child keeps.stands isDigits.shardName.isPlain short

/-- A path of a digest that is not too long leads to its place if anything stands there. -/
theorem Keeps.look_pathOf (keeps : blobs.Keeps home kept) (isDigits : IsDigits hash)
    (short : (blobs.pathOf hash).IsShort) :
    blobs.tree.look blobs.working (blobs.pathOf hash) =
      if blobs.tree.at? (shardPlace home hash) = none then .error .missing
      else .ok (place home hash, blobs.tree.at? (place home hash)) := by
  have found := keeps.look_shard isDigits short.parent
  rcases keeps.at?_shardPlace hash with free | stands
  · rw [free] at found
    rw [free, if_pos rfl]
    exact FileTree.look_child_of_none found isDigits.isPlain short
  · rw [stands] at found
    rw [stands, if_neg nofun, place_eq]
    exact FileTree.look_child found isDigits.isPlain short

/-- Nothing stands in a folder that is not there. -/
theorem Keeps.at?_place_of_shardPlace (keeps : blobs.Keeps home kept)
    (free : blobs.tree.at? (shardPlace home hash) = none) :
    blobs.tree.at? (place home hash) = none := by
  rcases keeps.at?_place hash with ⟨nothing, -⟩ | ⟨payload, -, -, -, stands⟩
  · exact nothing
  · rw [free] at stands
    cases stands

/-- Examining the path of a digest finds what stands at its place. -/
theorem Keeps.examine_pathOf (keeps : blobs.Keeps home kept) (isDigits : IsDigits hash)
    (short : (blobs.pathOf hash).IsShort) :
    blobs.tree.examine blobs.working (blobs.pathOf hash) =
      .ok (blobs.tree.at? (place home hash)) := by
  rw [FileTree.examine, keeps.look_pathOf isDigits short]
  rcases keeps.at?_shardPlace hash with free | stands
  · rw [free, if_pos rfl, keeps.at?_place_of_shardPlace free]
  · rw [stands, if_neg nofun]

/-- A path that is too long is a fault. -/
theorem examine_of_not_isShort (long : ¬ (blobs.pathOf hash).IsShort) :
    blobs.tree.examine blobs.working (blobs.pathOf hash) =
      .error (.problem .nameTooLong (blobs.pathOf hash).text) := by
  rw [FileTree.examine, FileTree.look_of_not_isShort long]

/-- The folder of a digest can be made, which changes nothing else. -/
theorem Keeps.ensureFolders_shard (keeps : blobs.Keeps home kept) (isDigits : IsDigits hash)
    (short : (blobs.shard hash).IsShort) :
    ∃ made, blobs.tree.ensureFolders blobs.working (blobs.shard hash) = .ok made ∧
      made.at? = Function.update blobs.tree.at? (shardPlace home hash) (some .folder) ∧
      made.look blobs.working (blobs.shard hash) = .ok (shardPlace home hash, some .folder) := by
  have noNull := (keeps.noNull_pathOf isDigits).1
  have found := keeps.look_shard isDigits short
  rcases keeps.at?_shardPlace hash with free | stands
  · rw [free] at found
    refine ⟨_, FileTree.ensureFolders_of_none noNull found, ?_, ?_⟩
    · exact FileTree.at?_put _ (shardPlace_ne_nil home hash) _
    · have kept : blobs.tree.FoldersKept (blobs.tree.put (shardPlace home hash) .folder) :=
        FileTree.foldersKept_put (.inl rfl)
      obtain ⟨led, -⟩ := FileTree.look_eq_ok_iff.mp found
      refine FileTree.look_eq_ok_iff.mpr ⟨kept.locate led, ?_⟩
      exact FileTree.at?_put_self _ (shardPlace_ne_nil home hash) _
  · rw [stands] at found
    refine ⟨_, FileTree.ensureFolders_of_folder noNull found, ?_, found⟩
    rw [← stands, Function.update_eq_self]

/-- A folder in which no file is temporary takes the first temporary name. -/
theorem temporaryName_of_free {tree : FileTree} {working location : Location} {folder : Path}
    (stands : tree.look working folder = .ok (location, some .folder))
    (short : (folder.child (numberedName 0)).IsShort)
    (free : tree.at? (location ++ [numberedName 0]) = none) :
    temporaryName tree working folder = numberedName 0 := by
  have unoccupied : tree.occupied working (folder.child (numberedName 0)) = false := by
    rw [FileTree.occupied, FileTree.look?, FileTree.look_child stands isPlain_firstTemporary short,
      free]
    rfl
  rw [temporaryName, List.range_succ_eq_map, List.find?_cons]
  simp only [unoccupied, Bool.not_false, Option.getD_some]

/-- A temporary file that is written in a folder and renamed or removed: what each step gives, in a
folder that stands where nothing has the temporary name. -/
structure WritesTemporary (tree : FileTree) (working location : Location) (folder : Path)
    (hash : String) (payload : List UInt8) (created written renamed : FileTree) : Prop where
  creates : tree.writeBytes working (folder.child (numberedName 0)) [] = .ok created
  writes : created.writeBytes working (folder.child (numberedName 0)) payload = .ok written
  renames : written.renameFile working (folder.child (numberedName 0)) (folder.child hash) =
    .ok renamed
  finished : renamed.at? =
    Function.update tree.at? (location ++ [hash]) (some (.file (.bytes payload)))
  abandonsCreated :
    (created.removeFile working (folder.child (numberedName 0))).at? = tree.at?
  abandonsWritten :
    (written.removeFile working (folder.child (numberedName 0))).at? = tree.at?

/-- Writing and renaming a temporary file leaves the file alone, and removing it leaves nothing. -/
theorem writesTemporary {tree : FileTree} {working location : Location} {folder : Path}
    (stands : tree.look working folder = .ok (location, some .folder))
    (noNull : (folder.child (numberedName 0)).holdsNull = false)
    (plain : FileTree.IsPlain hash) (different : hash ≠ numberedName 0)
    (short : (folder.child (numberedName 0)).IsShort) (hashShort : (folder.child hash).IsShort)
    (free : tree.at? (location ++ [numberedName 0]) = none)
    (hashFree : tree.at? (location ++ [hash]) = none) (payload : List UInt8) :
    ∃ created written renamed,
      WritesTemporary tree working location folder hash payload created written renamed := by
  let temporary := location ++ [numberedName 0]
  have notRoot {name : String} : location ++ [name] ≠ [] :=
    List.append_ne_nil_of_right_ne_nil _ (List.cons_ne_nil _ _)
  have elsewhere : location ++ [hash] ≠ temporary := by
    intro same
    exact different (by simpa [temporary] using same)
  -- Each of the three trees differs from the one before at the temporary place alone.
  let created := tree.put temporary (.file (.bytes []))
  have createdAt : created.at? = Function.update tree.at? temporary (some (.file (.bytes []))) :=
    tree.at?_put notRoot _
  have createdStands := (FileTree.foldersKept_of_update createdAt
    (.inr (by rw [free]; simp))).look stands
  have createdFile : created.at? temporary = some (.file (.bytes [])) := by
    rw [createdAt, Function.update_self]
  let written := created.put temporary (.file (.bytes payload))
  have writtenAt : written.at? =
      Function.update tree.at? temporary (some (.file (.bytes payload))) := by
    rw [created.at?_put notRoot, createdAt, Function.update_idem]
  have writtenStands := (FileTree.foldersKept_of_update writtenAt
    (.inr (by rw [free]; simp))).look stands
  have writtenFile : written.at? temporary = some (.file (.bytes payload)) := by
    rw [writtenAt, Function.update_self]
  have writtenFree : written.at? (location ++ [hash]) = none := by
    rw [writtenAt, Function.update_of_ne elsewhere, hashFree]
  have erased {changed : FileTree} {entry : FileEntry}
      (changedAt : changed.at? = Function.update tree.at? temporary (some entry)) :
      (changed.erase temporary).at? = tree.at? := by
    rw [changed.at?_erase notRoot, changedAt, Function.update_idem, ← free,
      Function.update_eq_self]
  refine ⟨created, written, (written.erase temporary).put (location ++ [hash])
    (.file (.bytes payload)), ?_⟩
  constructor
  case creates =>
    exact FileTree.writeBytes_child noNull stands isPlain_firstTemporary short
      (by simp [free]) []
  case writes =>
    exact FileTree.writeBytes_child noNull createdStands isPlain_firstTemporary short
      (by rw [createdFile]; simp) payload
  case renames =>
    exact FileTree.renameFile_child writtenStands isPlain_firstTemporary plain short hashShort
      writtenFile writtenFree
  case finished =>
    rw [FileTree.at?_put _ notRoot, erased writtenAt]
  case abandonsCreated =>
    rw [FileTree.removeFile_child createdStands isPlain_firstTemporary short createdFile,
      erased createdAt]
  case abandonsWritten =>
    rw [FileTree.removeFile_child writtenStands isPlain_firstTemporary short writtenFile,
      erased writtenAt]

/-- The trees that writing a payload goes through, up to the first step that is made to fail. -/
theorem writeSteps_eq {made created written renamed : FileTree} {location : Location}
    {payload : List UInt8} (planned : PlannedFaults)
    (ensured : blobs.tree.ensureFolders blobs.working (blobs.shard hash) = .ok made)
    (named : temporaryName made blobs.working (blobs.shard hash) = numberedName 0)
    (steps : WritesTemporary made blobs.working location (blobs.shard hash) hash payload created
      written renamed) :
    blobs.writeSteps planned hash payload =
      match planned .makeShard, planned .createTemporary, planned .writeTemporary,
        planned .rename with
      | some fault, _, _, _ => ([], some fault)
      | none, some fault, _, _ => ([made], some fault)
      | none, none, some fault, _ =>
        ([made, created, created.removeFile blobs.working
          ((blobs.shard hash).child (numberedName 0))], some fault)
      | none, none, none, some fault =>
        ([made, created, written, written.removeFile blobs.working
          ((blobs.shard hash).child (numberedName 0))], some fault)
      | none, none, none, none => ([made, created, written, renamed], none) := by
  have creates := steps.creates
  have writes := steps.writes
  have renames := steps.renames
  cases shardFault : planned .makeShard with
  | some fault => simp only [writeSteps, runSteps, shardFault]
  | none =>
  cases createFault : planned .createTemporary with
  | some fault => simp [writeSteps, runSteps, shardFault, ensured, createFault]
  | none =>
  cases writeFault : planned .writeTemporary with
  | some fault =>
    simp [writeSteps, runSteps, lastTree, shardFault, ensured, createFault, named, creates,
      writeFault]
  | none =>
  cases renameFault : planned .rename with
  | some fault =>
    simp [writeSteps, runSteps, lastTree, shardFault, ensured, createFault, named, creates,
      writeFault, writes, renameFault]
  | none =>
    simp [writeSteps, runSteps, lastTree, shardFault, ensured, createFault, named, creates,
      writeFault, writes, renameFault, renames]

/-- What the steps of writing a payload leave. They succeed exactly if none is made to fail, and
then the file of the payload stands at its place; if one fails, its folder may have been made. -/
inductive Written (blobs : BlobStore) (home : Location) (planned : PlannedFaults)
    (payload : List UInt8) (after : FileTree) : Option FileFault → Prop where
  | whole (calm : ∀ step, planned step = none)
    (changed : after.at? =
      Function.update
        (Function.update blobs.tree.at? (shardPlace home (Sha256.hexDigest payload))
          (some .folder))
        (place home (Sha256.hexDigest payload)) (some (.file (.bytes payload)))) :
    Written blobs home planned payload after none
  | stopped (step : WriteStep) (fault : FileFault) (failed : planned step = some fault)
    (changed : after.at? = blobs.tree.at? ∨ after.at? =
      Function.update blobs.tree.at? (shardPlace home (Sha256.hexDigest payload))
        (some .folder)) :
    Written blobs home planned payload after (some fault)

/-- The steps of writing a payload where nothing stands at its place. -/
theorem Keeps.written (keeps : blobs.Keeps home kept) (planned : PlannedFaults)
    (payload : List UInt8)
    (short : (blobs.pathOf (Sha256.hexDigest payload)).IsShort)
    (free : blobs.tree.at? (place home (Sha256.hexDigest payload)) = none) :
    Written blobs home planned payload
      (lastTree blobs.tree (blobs.writeSteps planned (Sha256.hexDigest payload) payload).1)
      (blobs.writeSteps planned (Sha256.hexDigest payload) payload).2 := by
  have isDigits := isDigits_hexDigest payload
  have digestSize : (numberedName 0).utf8ByteSize ≤ (Sha256.hexDigest payload).utf8ByteSize := by
    rw [utf8ByteSize_hexDigest]
    decide
  obtain ⟨made, ensured, madeAt, stands⟩ := keeps.ensureFolders_shard isDigits short.parent
  have temporaryShort := short.of_child digestSize
  have temporaryFree :
      made.at? (shardPlace home (Sha256.hexDigest payload) ++ [numberedName 0]) = none := by
    rw [madeAt, Function.update_of_ne (by simp), keeps.at?_temporary _ (isTemporary_numberedName 0)]
  have placeFree :
      made.at? (shardPlace home (Sha256.hexDigest payload) ++ [Sha256.hexDigest payload]) =
        none := by
    rw [madeAt, Function.update_of_ne (by simp), ← place_eq, free]
  have temporaryNoNull :
      ((blobs.shard (Sha256.hexDigest payload)).child (numberedName 0)).holdsNull = false := by
    rw [Path.holdsNull_child, (keeps.noNull_pathOf isDigits).1]
    decide
  have different : Sha256.hexDigest payload ≠ numberedName 0 := by
    intro same
    exact isDigits.not_isTemporary (same ▸ isTemporary_numberedName 0)
  obtain ⟨created, written, renamed, steps⟩ := writesTemporary stands temporaryNoNull
    isDigits.isPlain different temporaryShort short temporaryFree placeFree payload
  have named := temporaryName_of_free stands temporaryShort temporaryFree
  rw [writeSteps_eq planned ensured named steps]
  cases shardFault : planned .makeShard with
  | some fault => exact .stopped .makeShard fault shardFault (.inl rfl)
  | none =>
  cases createFault : planned .createTemporary with
  | some fault => exact .stopped .createTemporary fault createFault (.inr madeAt)
  | none =>
  cases writeFault : planned .writeTemporary with
  | some fault =>
    exact .stopped .writeTemporary fault writeFault (.inr (steps.abandonsCreated.trans madeAt))
  | none =>
  cases renameFault : planned .rename with
  | some fault =>
    exact .stopped .rename fault renameFault (.inr (steps.abandonsWritten.trans madeAt))
  | none =>
    refine .whole ?_ ?_
    · rintro (_ | _ | _ | _)
      · exact shardFault
      · exact createFault
      · exact writeFault
      · exact renameFault
    · rw [place_eq, ← madeAt]
      exact steps.finished

/-- What storing a payload gives: a path that is too long is a fault, a payload that is present is
left as it is, and any other one is written, with success exactly if no step is made to fail. -/
inductive Stored (blobs : BlobStore) (home : Location) (planned : PlannedFaults)
    (payload : List UInt8) (outcome : Except Failure String × BlobStore) : Prop where
  | tooLong (long : ¬ (blobs.pathOf (Sha256.hexDigest payload)).IsShort)
    (isOutcome : outcome = (.error (.file (.problem .nameTooLong
      (blobs.pathOf (Sha256.hexDigest payload)).text)), blobs))
  | already (short : (blobs.pathOf (Sha256.hexDigest payload)).IsShort)
    (occupied : blobs.tree.at? (place home (Sha256.hexDigest payload)) ≠ none)
    (isOutcome : outcome = (.ok (Sha256.hexDigest payload), blobs))
  | stored (short : (blobs.pathOf (Sha256.hexDigest payload)).IsShort)
    (free : blobs.tree.at? (place home (Sha256.hexDigest payload)) = none)
    (calm : ∀ step, planned step = none) (after : FileTree)
    (changed : after.at? =
      Function.update
        (Function.update blobs.tree.at? (shardPlace home (Sha256.hexDigest payload))
          (some .folder))
        (place home (Sha256.hexDigest payload)) (some (.file (.bytes payload))))
    (isOutcome : outcome = (.ok (Sha256.hexDigest payload), { blobs with tree := after }))
  | stopped (short : (blobs.pathOf (Sha256.hexDigest payload)).IsShort)
    (free : blobs.tree.at? (place home (Sha256.hexDigest payload)) = none)
    (step : WriteStep) (fault : FileFault) (failed : planned step = some fault) (after : FileTree)
    (changed : after.at? = blobs.tree.at? ∨ after.at? =
      Function.update blobs.tree.at? (shardPlace home (Sha256.hexDigest payload))
        (some .folder))
    (isOutcome : outcome = (.error (.storeUnavailable
      (.cannotWrite (Sha256.hexDigest payload) fault)), { blobs with tree := after }))

/-- Every way in which storing a payload can end. -/
theorem Keeps.stored (keeps : blobs.Keeps home kept) (planned : PlannedFaults)
    (payload : List UInt8) : Stored blobs home planned payload (blobs.store planned payload) := by
  have isDigits := isDigits_hexDigest payload
  by_cases short : (blobs.pathOf (Sha256.hexDigest payload)).IsShort
  · have examined := keeps.examine_pathOf isDigits short
    cases found : blobs.tree.at? (place home (Sha256.hexDigest payload)) with
    | some entry =>
      refine .already short (by simp [found]) ?_
      rw [store, examined, found]
    | none =>
      have written := keeps.written planned payload short found
      rw [store, examined, found]
      generalize blobs.writeSteps planned (Sha256.hexDigest payload) payload = outcome at written
      obtain ⟨trees, _ | fault⟩ := outcome
      · cases written with
        | whole calm changed => exact .stored short found calm _ changed rfl
      · cases written with
        | stopped step _ failed changed =>
          exact .stopped short found step fault failed _ changed rfl
  · refine .tooLong short ?_
    rw [store, examine_of_not_isShort short]

end
end Depot.BlobStore
