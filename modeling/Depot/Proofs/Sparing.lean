import Depot.Proofs.AllOrNothing
import Depot.Proofs.Chronicle

/-!
# What stays when nothing is filed

Opening a depot makes folders and puts tables into the file of its index, the ones that were in it.
As long as nothing is filed, closing it puts the same tables there again. So nothing is lost between
the two, and all that is new are folders, the file of an index without entries, and what has been
put into the folder of the payloads.
-/

namespace Depot.Coordinator

/-- What has become of a location when nothing was filed: it is as it was, a folder is new there, or
it is that of the file of the index, which holds the tables that it held. A file that is missing or
empty holds empty tables. -/
inductive Spared (config : Config) (base : Option Path) (before after : World)
    (location : Location) : Prop where
  | same (unchanged : after.tree.at? location = before.tree.at? location)
  | folder (free : before.tree.at? location = none)
    (stands : after.tree.at? location = some .folder)
  | index {tables : Tables} (inFile : (config.resolvedIndex base).text ≠ memoryPath)
    (led : after.tree.locate after.working (config.resolvedIndex base) = .ok location)
    (held : tablesOf (before.tree.at? location) = .ok tables)
    (holds : after.tree.at? location = some (.file (.tables tables)))

/-- What is left when nothing was filed: a depot that could be opened before can be opened again
with the same tables, and all locations are spared but those to which an exempted path leads. -/
structure Spares (config : Config) (base : Option Path) (before after : World)
    (exempted : Option Path) : Prop where
  index : ∀ opened, (openDepot before config base).1 = .ok opened →
    ∃ reopened, (openDepot after config base).1 = .ok reopened ∧
      reopened.index.tables = opened.index.tables
  locations : ∀ location,
    (∀ path ∈ exempted, after.tree.locate after.working path ≠ .ok location) →
      Spared config base before after location

section

variable {config : Config} {base : Option Path} {world before between after : World}
  {location : Location}

/-- Locations are spared where folders alone are new. -/
theorem spared_of_gainsFolders (gains : before.tree.GainsFolders after.tree)
    (location : Location) : Spared config base before after location := by
  rcases gains location with same | ⟨free, stands⟩
  · exact .same same
  · exact .folder free stands

/-- A location stays spared when it does not change any more, or when a folder is new there. -/
theorem Spared.trans (spared : Spared config base before between location)
    (sameFolder : after.working = between.working)
    (kept : between.tree.FoldersKept after.tree)
    (later : after.tree.at? location = between.tree.at? location ∨
      between.tree.at? location = none ∧ after.tree.at? location = some .folder) :
    Spared config base before after location := by
  rcases later with same | ⟨free, isFolder⟩
  · cases spared with
    | same unchanged => exact .same (same.trans unchanged)
    | folder free stands => exact .folder free (same.trans stands)
    | index inFile led held holds =>
      rw [← sameFolder] at led
      exact .index inFile (kept.locate led) held (same.trans holds)
  · cases spared with
    | same unchanged => exact .folder (unchanged.symm.trans free) isFolder
    | folder _ stands =>
      rw [free] at stands
      cases stands
    | index _ _ _ holds =>
      rw [free] at holds
      cases holds

/-! ## Opening -/

section

variable {tree : FileTree} {working : Location} {path : Path} {tables : Tables}

/-- Tables that are saved in a file change the location of the file alone. -/
theorem at?_saveTables (noNull : path.holdsNull = false) (inFile : path.text ≠ memoryPath)
    {found : Option FileEntry} (looked : tree.look working path = .ok (location, found))
    (noFolder : found ≠ some .folder) (tables : Tables) :
    (saveTables tree working path tables).at? =
      Function.update tree.at? location (some (.file (.tables tables))) := by
  obtain ⟨written, -, stands⟩ := FileTree.of_look_file noNull looked noFolder (.tables tables)
  have notRoot : location ≠ [] := by
    rintro rfl
    obtain ⟨-, here⟩ := FileTree.look_eq_ok_iff.mp stands
    cases here
  rw [saveTables, if_neg inFile, written]
  exact tree.at?_put notRoot _

/-- Saving the tables with which an index opened spares every location. -/
theorem spared_saveTables {made : FileTree} (gains : world.tree.GainsFolders made)
    (read : openIndex made world.working (config.resolvedIndex base) = .ok tables)
    (location : Location) :
    Spared config base world
      { world with
        tree := saveTables made world.working (config.resolvedIndex base) tables } location := by
  obtain ⟨noNull, keeps⟩ := of_openIndex read
  by_cases inMemory : (config.resolvedIndex base).text = memoryPath
  · apply spared_of_gainsFolders
    rw [saveTables, if_pos inMemory]
    exact gains
  · obtain ⟨home, led, -, -, held⟩ :=
      (openTables_eq_ok_iff inMemory).mp (openIndex_eq_ok_iff.mp read).2
    have changed := at?_saveTables noNull inMemory (FileTree.look_eq_ok_iff.mpr ⟨led, rfl⟩)
      (ne_folder_of_tablesOf held) tables
    by_cases same : location = home
    · subst same
      have heldBefore : tablesOf (world.tree.at? location) = .ok tables := by
        rcases gains location with unchanged | ⟨-, stands⟩
        · rw [← unchanged]
          exact held
        · exact absurd stands (ne_folder_of_tablesOf held)
      refine .index inMemory ((of_saveTables noNull keeps tables).1.locate led) heldBefore ?_
      rw [changed, Function.update_self]
    · have elsewhere : (saveTables made world.working (config.resolvedIndex base) tables).at?
          location = made.at? location := by
        rw [changed, Function.update_of_ne same]
      rcases gains location with unchanged | ⟨free, stands⟩
      · exact .same (elsewhere.trans unchanged)
      · exact .folder free (elsewhere.trans stands)

end

/-- Opening a depot spares every location, whether it succeeds or fails. -/
theorem spared_openDepot (world : World) (config : Config) (base : Option Path)
    (location : Location) : Spared config base world (openDepot world config base).2 location := by
  have folders :=
    world.tree.gainsFolders_makeFolders world.working (config.resolvedIndex base).parent
  rw [openDepot]
  split
  · rename_i folderTree fault isMade
    rw [isMade] at folders
    exact spared_of_gainsFolders folders location
  · rename_i folderTree isMade
    rw [isMade] at folders
    have gains := folders.trans
      (folderTree.gainsFolders_makeFolders world.working (config.resolvedBlobs base))
    cases blobFolders : folderTree.makeFolders world.working (config.resolvedBlobs base) with
    | mk made fault =>
    rw [blobFolders] at gains
    cases fault with
    | some fault =>
      cases fault <;>
      · simp only [BlobStore.openAt, blobFolders]
        exact spared_of_gainsFolders gains location
    | none =>
      simp only [BlobStore.openAt, blobFolders]
      split
      · exact spared_of_gainsFolders gains location
      · rename_i tables read
        split
        · split
          · exact spared_saveTables gains read location
          · exact spared_saveTables gains read location
        · exact spared_saveTables gains read location

/-! ## Closing -/

section

variable {coordinator last : Coordinator}

/-- The tree of a depot that opens spares every location. -/
theorem spared_of_openDepot (isOpened : (openDepot world config base).1 = .ok coordinator)
    (location : Location) :
    Spared config base world { world with tree := coordinator.blobs.tree } location := by
  obtain ⟨folderTree, made, tables, pageSize, concurrency, folders, blobFolders, read, rfl⟩ :=
    of_openDepot_ok isOpened
  have gains := world.tree.gainsFolders_makeFolders world.working (config.resolvedIndex base).parent
  rw [folders] at gains
  have more := folderTree.gainsFolders_makeFolders world.working (config.resolvedBlobs base)
  rw [blobFolders] at more
  exact spared_saveTables (gains.trans more) read location

/-- The path of the index in a file of a depot that opens leads to its tables, and no folder is in
the way of an index there. -/
theorem look_tables_of_openDepot (isOpened : (openDepot world config base).1 = .ok coordinator)
    (inFile : (config.resolvedIndex base).text ≠ memoryPath) :
    ∃ location, admitsIndex location = true ∧ IsClear coordinator.blobs.tree location companions ∧
      coordinator.blobs.tree.look coordinator.blobs.working (config.resolvedIndex base) =
        .ok (location, some (.file (.tables coordinator.index.tables))) := by
  obtain ⟨⟨-, -, -, -, -, -, -, keepsSaved, -, -⟩, -, -⟩ := settled_of_openDepot isOpened
  obtain ⟨location, found, looked, -, admits, clear⟩ := keepsSaved inFile
  obtain ⟨folderTree, made, tables, pageSize, concurrency, -, -, read, rfl⟩ :=
    of_openDepot_ok isOpened
  obtain ⟨noNull, keeps⟩ := of_openIndex read
  obtain ⟨home, stood, before, noFolder, -, -⟩ := keeps inFile
  obtain ⟨written, -, stands⟩ := FileTree.of_look_file noNull before noFolder (.tables tables)
  have same : (saveTables made world.working (config.resolvedIndex base) tables).look world.working
      (config.resolvedIndex base) = .ok (home, some (.file (.tables tables))) := by
    rw [saveTables, if_neg inFile, written]
    exact stands
  cases same.symm.trans looked
  exact ⟨location, admits, clear, looked⟩

/-- An index in memory opens with empty tables. -/
theorem tables_of_openDepot_inMemory
    (isOpened : (openDepot world config base).1 = .ok coordinator)
    (inMemory : (config.resolvedIndex base).text = memoryPath) :
    coordinator.index.tables = .empty := by
  obtain ⟨folderTree, made, tables, pageSize, concurrency, -, -, read, rfl⟩ :=
    of_openDepot_ok isOpened
  rw [openIndex_of_memory (of_openIndex read).1 inMemory] at read
  cases read
  rfl

/-- A depot that has filed nothing since it was opened: it has the tables with which it opened, no
folder has gone, and no folder stands where a file stood or where an index needs a file. -/
structure Idle (coordinator last : Coordinator) : Prop where
  tables : last.index.tables = coordinator.index.tables
  indexPath : last.indexPath = coordinator.indexPath
  working : last.blobs.working = coordinator.blobs.working
  root : last.blobs.root = coordinator.blobs.root
  kept : coordinator.blobs.tree.FoldersKept last.blobs.tree
  files : ∀ location content, coordinator.blobs.tree.at? location = some (.file content) →
    last.blobs.tree.at? location ≠ some .folder
  clear : ∀ location, IsClear coordinator.blobs.tree location companions →
    IsClear last.blobs.tree location companions

/-- A depot that is left alone has filed nothing. -/
theorem Idle.refl (coordinator : Coordinator) : coordinator.Idle coordinator where
  tables := rfl
  indexPath := rfl
  working := rfl
  root := rfl
  kept := .refl _
  files := by
    intro location content isFile isFolder
    rw [isFile] at isFolder
    cases isFolder
  clear := fun _ clear => clear

section

variable (isOpened : (openDepot world config base).1 = .ok coordinator)
  (idle : coordinator.Idle last)

include isOpened idle

/-- A depot that has filed nothing is still settled. -/
theorem Idle.settled : last.Settled config base := by
  obtain ⟨settled, -, -⟩ := settled_of_openDepot isOpened
  obtain ⟨indexPath, root, indexNoNull, parentNoNull, rootNoNull, parent, blobFolder, -, pageSize,
    concurrency⟩ := settled
  rw [← idle.working] at parent blobFolder
  refine ⟨idle.indexPath.trans indexPath, idle.root.trans root, indexNoNull, parentNoNull,
    rootNoNull, idle.kept.isFolder parent, idle.kept.isFolder blobFolder, fun inFile => ?_,
    pageSize, concurrency⟩
  obtain ⟨location, admits, clear, looked⟩ := look_tables_of_openDepot isOpened inFile
  obtain ⟨led, here⟩ := FileTree.look_eq_ok_iff.mp looked
  rw [← idle.working] at led
  exact ⟨location, _, FileTree.look_eq_ok_iff.mpr ⟨idle.kept.locate led, rfl⟩,
    idle.files location _ here, admits, idle.clear location clear⟩

/-- A depot that has filed nothing is closed and opened again with the same tables. -/
theorem Idle.reopen :
    ∃ reopened, (openDepot last.close config base).1 = .ok reopened ∧
      reopened.index.tables = coordinator.index.tables := by
  obtain ⟨reopened, opens, found⟩ := (idle.settled isOpened).reopen
  refine ⟨reopened, opens, found.trans ?_⟩
  split
  · rename_i inMemory
    exact (tables_of_openDepot_inMemory isOpened inMemory).symm
  · exact idle.tables

/-- Closing a depot keeps its folders. -/
theorem Idle.foldersKept_close : last.blobs.tree.FoldersKept last.close.tree := by
  obtain ⟨indexPath, -, noNull, -, -, -, -, keeps, -, -⟩ := idle.settled isOpened
  rw [close, indexPath]
  exact (of_saveTables noNull keeps last.index.tables).1

/-- Closing a depot that has filed nothing changes nothing but the location of its index, where the
tables stand as they did when it was opened. -/
theorem Idle.at?_close (location : Location) :
    last.close.tree.at? location = last.blobs.tree.at? location ∨
      last.close.tree.locate last.close.working (config.resolvedIndex base) = .ok location ∧
        last.close.tree.at? location = coordinator.blobs.tree.at? location := by
  have kept := idle.foldersKept_close isOpened
  obtain ⟨indexPath, -, noNull, -, -, -, -, keeps, -, -⟩ := idle.settled isOpened
  rw [close, indexPath] at kept ⊢
  by_cases inMemory : (config.resolvedIndex base).text = memoryPath
  · rw [saveTables, if_pos inMemory]
    exact .inl rfl
  · obtain ⟨home, -, -, looked⟩ := look_tables_of_openDepot isOpened inMemory
    obtain ⟨led, here⟩ := FileTree.look_eq_ok_iff.mp looked
    rw [← idle.working] at led
    have ledLast := idle.kept.locate led
    have changed := at?_saveTables noNull inMemory
      (FileTree.look_eq_ok_iff.mpr ⟨ledLast, rfl⟩) (idle.files home _ here) last.index.tables
    by_cases same : location = home
    · subst same
      refine .inr ⟨kept.locate ledLast, ?_⟩
      rw [changed, Function.update_self, idle.tables, here]
    · rw [changed, Function.update_of_ne same]
      exact .inl rfl

/-- Closing a depot that has filed nothing spares every location where nothing is new but a
folder. -/
theorem Idle.spared_close {location : Location}
    (here : last.blobs.tree.at? location = coordinator.blobs.tree.at? location ∨
      coordinator.blobs.tree.at? location = none ∧
        last.blobs.tree.at? location = some .folder) :
    Spared config base world last.close location := by
  have sameFolder : last.close.working = world.working := by
    rw [close, idle.working]
    obtain ⟨-, -, -, -, -, -, -, -, rfl⟩ := of_openDepot_ok isOpened
    rfl
  refine (spared_of_openDepot isOpened location).trans sameFolder
    (idle.kept.trans (idle.foldersKept_close isOpened)) ?_
  rcases idle.at?_close isOpened location with unchanged | ⟨-, unchanged⟩
  · rw [unchanged]
    exact here
  · exact .inl unchanged

end

/-- A depot that has gained nothing but folders spares everything when it is closed. -/
theorem spares_close (isOpened : (openDepot world config base).1 = .ok coordinator)
    (idle : coordinator.Idle last)
    (gains : coordinator.blobs.tree.GainsFolders last.blobs.tree) :
    Spares config base world last.close none where
  index := by
    intro opened opens
    cases isOpened.symm.trans opens
    exact idle.reopen isOpened
  locations := fun location _ => idle.spared_close isOpened (gains location)

/-! ## Payloads -/

/-- What stands at the path of a payload in the end: the payload, what stood there before it was
stored, or the file of the index, if both paths lead to one location. -/
inductive LeavesPayload (config : Config) (base : Option Path) (coordinator : Coordinator)
    (after : World) (path : Path) (payload : List UInt8) : Prop where
  | written (stands : after.tree.look? after.working path = some (.file (.bytes payload)))
  | present {entry : FileEntry}
    (stood : coordinator.blobs.tree.look? coordinator.blobs.working path = some entry)
    (stands : after.tree.look? after.working path = some entry)
  | index {location : Location} (led : after.tree.locate after.working path = .ok location)
    (indexLed : after.tree.locate after.working (config.resolvedIndex base) = .ok location)

variable {path : Path} {payload : List UInt8} {made : FileTree} {place : Location}

/-- A depot that has gained nothing but folders, none of them in the way of an index, has filed
nothing. -/
theorem idle_of_gainsFolders {tree : FileTree} (gains : coordinator.blobs.tree.GainsFolders tree)
    (clear : ∀ location, IsClear coordinator.blobs.tree location companions →
      IsClear tree location companions) :
    coordinator.Idle { coordinator with blobs := { coordinator.blobs with tree := tree } } where
  tables := rfl
  indexPath := rfl
  working := rfl
  root := rfl
  kept := gains.foldersKept
  files := by
    intro location content isFile isFolder
    rcases gains location with same | ⟨free, -⟩
    · rw [isFile] at same
      rw [same] at isFolder
      cases isFolder
    · rw [isFile] at free
      cases free
  clear := clear

/-- A depot into which a payload has been put has filed nothing. -/
theorem idle_of_putsPayload {tree : FileTree}
    (puts : BlobStore.PutsPayload coordinator.blobs.tree coordinator.blobs.working path payload made
      place tree)
    (clear : ∀ location, IsClear coordinator.blobs.tree location companions →
      IsClear tree location companions) :
    coordinator.Idle { coordinator with blobs := { coordinator.blobs with tree := tree } } where
  tables := rfl
  indexPath := rfl
  working := rfl
  root := rfl
  kept := puts.gains.foldersKept.trans
    (FileTree.foldersKept_of_update puts.changed (.inr puts.noFolder))
  files := by
    intro location content isFile isFolder
    change tree.at? location = some .folder at isFolder
    rw [puts.changed, Function.update_apply] at isFolder
    split at isFolder
    · cases isFolder
    · rw [(puts.gains.file_iff location content).mpr isFile] at isFolder
      cases isFolder
  clear := clear

/-- A depot into which a payload has been put leaves it when it is closed, and spares everything
else. -/
theorem spares_close_of_putsPayload (isOpened : (openDepot world config base).1 = .ok coordinator)
    (idle : coordinator.Idle last)
    (puts : BlobStore.PutsPayload coordinator.blobs.tree coordinator.blobs.working path payload made
      place last.blobs.tree) :
    Spares config base world last.close (some path) ∧
      LeavesPayload config base coordinator last.close path payload := by
  have kept := idle.foldersKept_close isOpened
  have led : last.close.tree.locate last.close.working path = .ok place := by
    have keptByFile : made.FoldersKept last.blobs.tree :=
      FileTree.foldersKept_of_update puts.changed (.inr puts.noFolder)
    rw [show last.close.working = coordinator.blobs.working from idle.working]
    exact kept.locate (keptByFile.locate puts.led)
  refine ⟨⟨?_, ?_⟩, ?_⟩
  · intro opened opens
    cases isOpened.symm.trans opens
    exact idle.reopen isOpened
  · intro location elsewhere
    refine idle.spared_close isOpened ?_
    have different : location ≠ place := by
      rintro rfl
      exact elsewhere path rfl led
    rw [puts.changed, Function.update_of_ne different]
    exact puts.gains location
  · rcases idle.at?_close isOpened place with unchanged | ⟨indexLed, -⟩
    · refine .written ?_
      rw [FileTree.look?, FileTree.look_eq_ok_iff.mpr ⟨led, rfl⟩]
      change last.close.tree.at? place = _
      rw [unchanged, puts.changed, Function.update_self]
    · exact .index led indexLed

/-- A depot that is left alone leaves what stands at a path when it is closed. -/
theorem leavesPayload_of_occupied (isOpened : (openDepot world config base).1 = .ok coordinator)
    (occupied : coordinator.blobs.tree.occupied coordinator.blobs.working path = true)
    (idle : coordinator.Idle last) (same : last.blobs.tree = coordinator.blobs.tree) :
    LeavesPayload config base coordinator last.close path payload := by
  obtain ⟨location, entry, looked⟩ := FileTree.occupied_iff.mp occupied
  obtain ⟨led, here⟩ := FileTree.look_eq_ok_iff.mp looked
  have kept := idle.kept.trans (idle.foldersKept_close isOpened)
  have still : last.close.tree.at? location = some entry := by
    rcases idle.at?_close isOpened location with unchanged | ⟨-, unchanged⟩
    · rw [unchanged, same, here]
    · rw [unchanged, here]
  have sameFolder : last.close.working = coordinator.blobs.working := idle.working
  refine .present (by rw [FileTree.look?, looked]) ?_
  rw [FileTree.look?, sameFolder, FileTree.look_eq_ok_iff.mpr ⟨kept.locate led, rfl⟩]
  exact still

/-! ## Calls that fail -/

/-- An exemption takes nothing away. -/
theorem Spares.exempt (spares : Spares config base before after none) (path : Path) :
    Spares config base before after (some path) where
  index := spares.index
  locations := fun location _ => spares.locations location nofun

/-- Identifiers that have been issued are no documents. -/
theorem Idle.issue (idle : coordinator.Idle last) (issued : Nat) :
    coordinator.Idle { last with issued := issued } :=
  ⟨idle.tables, idle.indexPath, idle.working, idle.root, idle.kept, idle.files, idle.clear⟩

/-- Filing that fails changes nothing but the number of identifiers that have been issued. -/
theorem issued_of_file_error {indexName contentHash : Text} {options : IndexOptions}
    {failure : Failure}
    (failed : (coordinator.file indexName contentHash options).1 = .error failure) :
    ∃ issued, (coordinator.file indexName contentHash options).2 =
      { coordinator with issued := issued } := by
  obtain ⟨issued, ⟨succeeded, -, -⟩ | ⟨-, after⟩⟩ :=
    coordinator.file_cases indexName contentHash options
  · rw [failed] at succeeded
    cases succeeded
  · exact ⟨issued, after⟩

section

variable (isOpened : (openDepot world config base).1 = .ok coordinator) {failure : Failure}

include isOpened

/-- A depot that is opened and closed spares everything. -/
theorem spares_close_self : Spares config base world coordinator.close none :=
  spares_close isOpened (.refl coordinator) (.refl _)

/-- Storing puts no folder in the way of an index: the only folder that is new has a name of
digits. -/
theorem isClear_store (planned : PlannedFaults) (payload : List UInt8) (location : Location)
    (clear : IsClear coordinator.blobs.tree location companions) :
    IsClear (coordinator.blobs.store planned payload).2.tree location companions := by
  obtain ⟨settled, -, -⟩ := settled_of_openDepot isOpened
  have stands := settled.blobFolder
  rw [← settled.root, FileTree.isFolder_iff_passes] at stands
  intro companion member isFolder
  rcases BlobStore.passes_of_store isFolder with stood | passes
  · exact clear companion member stood
  rw [BlobStore.shard, Path.passes_child_iff] at passes
  rcases passes with passes | here
  · exact clear companion member (stands.2.2 _ passes)
  · have isDigits := (BlobStore.isDigits_hexDigest payload).shardName
    rw [Path.place_child, FileTree.onward, if_neg isDigits.isPlain.notUp, beside] at here
    have named := congrArg List.getLast? here
    rw [List.getLast?_concat, List.getLast?_concat, Option.some.injEq] at named
    refine isDigits.not_mem '-' (by decide) (by decide) ?_
    rw [named, String.toList_append, List.mem_append]
    simp only [companions, List.mem_cons, List.not_mem_nil, or_false] at member
    rcases member with rfl | rfl <;> simp

/-- Storing that fails spares everything. -/
theorem spares_store {payload : Datum} (failed : (coordinator.store payload).1 = .error failure) :
    Spares config base world (coordinator.store payload).2.close none := by
  rcases coordinator.store_cases payload with ⟨data, rfl, outcome⟩ | ⟨refusal, outcome⟩
  · rw [outcome] at failed ⊢
    rcases coordinator.blobs.store_cases coordinator.plannedFaults data with
      ⟨cause, tree, stored, gains⟩ | ⟨stored, -⟩ | ⟨made, place, tree, stored, -⟩
    · have clear := isClear_store isOpened coordinator.plannedFaults data
      rw [stored] at clear ⊢
      exact spares_close isOpened (idle_of_gainsFolders gains clear) gains
    · rw [stored] at failed
      cases failed
    · rw [stored] at failed
      cases failed
  · rw [outcome]
    exact spares_close_self isOpened

/-- Filing that fails spares everything. -/
theorem spares_file {indexName contentHash : Text} {options : IndexOptions}
    (failed : (coordinator.file indexName contentHash options).1 = .error failure) :
    Spares config base world (coordinator.file indexName contentHash options).2.close none := by
  obtain ⟨issued, after⟩ := issued_of_file_error failed
  rw [after]
  exact spares_close isOpened ((Idle.refl coordinator).issue issued) (.refl _)

/-- Making an index that fails spares everything. -/
theorem spares_createIndex {indexName : Text}
    (failed : (coordinator.createIndex indexName).1 = .error failure) :
    Spares config base world (coordinator.createIndex indexName).2.close none := by
  rcases coordinator.createIndex_cases indexName with ⟨succeeded, -⟩ | ⟨-, after⟩
  · rw [failed] at succeeded
    cases succeeded
  · rw [after]
    exact spares_close_self isOpened

/-- Filing that fails after a payload has been stored leaves the payload, and spares everything
else. -/
theorem spares_file_stored {data : List UInt8} {hash : String}
    (stored : (coordinator.store (.bytes data)).1 = .ok hash) {indexName contentHash : Text}
    {options : IndexOptions}
    (failed : ((coordinator.store (.bytes data)).2.file indexName contentHash options).1 =
      .error failure) :
    Spares config base world
        ((coordinator.store (.bytes data)).2.file indexName contentHash options).2.close
        (some (coordinator.blobs.pathOf hash)) ∧
      LeavesPayload config base coordinator
        ((coordinator.store (.bytes data)).2.file indexName contentHash options).2.close
        (coordinator.blobs.pathOf hash) data := by
  obtain ⟨issued, after⟩ := issued_of_file_error failed
  obtain ⟨given, isGiven, handedOver, afterStoring⟩ := of_store_ok stored
  cases isGiven
  rw [after, afterStoring]
  rcases coordinator.blobs.store_cases coordinator.plannedFaults data with
    ⟨cause, tree, outcome, -⟩ | ⟨outcome, occupied⟩ | ⟨made, place, tree, outcome, puts⟩
  · rw [outcome] at handedOver
    cases handedOver
  · rw [outcome] at handedOver ⊢
    cases handedOver
    have idle := (Idle.refl coordinator).issue issued
    exact ⟨(spares_close isOpened idle (.refl _)).exempt _,
      leavesPayload_of_occupied isOpened occupied idle rfl⟩
  · have clear := isClear_store isOpened coordinator.plannedFaults data
    rw [outcome] at handedOver clear ⊢
    cases handedOver
    exact spares_close_of_putsPayload isOpened ((idle_of_putsPayload puts clear).issue issued) puts

end
end
end
end Depot.Coordinator
