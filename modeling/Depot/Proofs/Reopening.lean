import Depot.Coordinator
import Depot.Proofs.Folders

/-!
# Closing and opening again

An open depot has its folders and the file of its index in its tree, whatever is filed. So closing
it and opening it with the same settings succeeds. The tables come back from the file; an index
that is kept in memory only is empty again.
-/

namespace Depot.Coordinator

section

variable {tree : FileTree} {working location : Location} {path : Path} {tables : Tables}

/-- No folder stands where an index at a location needs files beside its own. -/
def IsClear (tree : FileTree) (location : Location) (needed : List (String × DatabaseFault)) :
    Prop :=
  ∀ companion ∈ needed, tree.at? (beside location companion.1) ≠ some .folder

/-- An index finds all its places free exactly when it finds no folder in them. -/
theorem companionFault?_eq_none_iff :
    companionFault? tree location = none ↔
      IsClear tree location (companionsOf (tree.at? location)) := by
  simp [companionFault?, IsClear, List.findSome?_eq_none_iff]

/-- What is clear for an index as it stands is clear for one that has tables. -/
theorem IsClear.ofTables {found : Option FileEntry}
    (clear : IsClear tree location (companionsOf found)) (noFolder : found ≠ some .folder) :
    IsClear tree location companions := by
  have ofNew (clear : IsClear tree location newCompanions) : IsClear tree location companions := by
    simp_all [IsClear, newCompanions, companions]
  rcases found with _ | _ | data | tables
  · exact ofNew clear
  · exact absurd rfl noFolder
  · rw [companionsOf] at clear
    split at clear
    · exact ofNew clear
    · exact clear
  · exact clear

/-- A file that is written takes no place that is clear. -/
theorem IsClear.put {needed : List (String × DatabaseFault)} (clear : IsClear tree location needed)
    {place : Location} (notRoot : place ≠ []) (content : Content) :
    IsClear (tree.put place (.file content)) location needed := by
  intro companion member isFolder
  by_cases here : place = beside location companion.1
  · rw [← here, tree.at?_put_self notRoot] at isFolder
    cases isFolder
  · rw [FileTree.at?_put_of_ne here] at isFolder
    exact clear companion member isFolder

/-- The tables in a file open exactly when its path leads to them, an index can be kept there, and
no folder stands where it needs other files. -/
theorem openTables_eq_ok_iff (inFile : path.text ≠ memoryPath) :
    openTables tree working path = .ok tables ↔
      ∃ location, tree.locate working path = .ok location ∧ admitsIndex location = true ∧
        IsClear tree location (companionsOf (tree.at? location)) ∧
        tablesOf (tree.at? location) = .ok tables := by
  rw [openTables, if_neg inFile]
  cases looked : tree.look working path with
  | error problem =>
    have nowhere (location : Location) : tree.locate working path ≠ .ok location := by
      intro led
      rw [FileTree.look_eq_ok_iff.mpr ⟨led, rfl⟩] at looked
      cases looked
    simp [nowhere]
  | ok place =>
    obtain ⟨location, found⟩ := place
    obtain ⟨led, rfl⟩ := FileTree.look_eq_ok_iff.mp looked
    simp only [led, Except.ok.injEq, exists_eq_left', ← companionFault?_eq_none_iff]
    cases admitsIndex location <;> cases companionFault? tree location <;> simp

/-- An index opens exactly when its path can be handed over and its tables open. -/
theorem openIndex_eq_ok_iff :
    openIndex tree working path = .ok tables ↔
      path.holdsNull = false ∧ openTables tree working path = .ok tables := by
  rw [openIndex]
  cases path.holdsNull <;> cases openTables tree working path <;> simp [Except.mapError]

/-- The tables of a file can be kept at a path: it is that of no file, or it leads to a location
that an index can have and where no folder is in the way. -/
def Keeps (tree : FileTree) (working : Location) (path : Path) : Prop :=
  path.text ≠ memoryPath → ∃ location found, tree.look working path = .ok (location, found) ∧
    found ≠ some .folder ∧ admitsIndex location = true ∧ IsClear tree location companions

/-- Where tables are held, no folder stands. -/
theorem ne_folder_of_tablesOf {found : Option FileEntry} (held : tablesOf found = .ok tables) :
    found ≠ some .folder := by
  rintro rfl
  cases held

/-- An index that opens can be kept. -/
theorem of_openIndex (opened : openIndex tree working path = .ok tables) :
    path.holdsNull = false ∧ Keeps tree working path := by
  obtain ⟨noNull, read⟩ := openIndex_eq_ok_iff.mp opened
  refine ⟨noNull, fun inFile => ?_⟩
  obtain ⟨location, led, admits, clear, held⟩ := (openTables_eq_ok_iff inFile).mp read
  have noFolder := ne_folder_of_tablesOf held
  exact ⟨location, _, FileTree.look_eq_ok_iff.mpr ⟨led, rfl⟩, noFolder, admits,
    clear.ofTables noFolder⟩

/-- An index in memory opens with empty tables. -/
theorem openIndex_of_memory (noNull : path.holdsNull = false) (inMemory : path.text = memoryPath) :
    openIndex tree working path = .ok .empty := by
  rw [openIndex, noNull, openTables, if_pos inMemory]
  rfl

/-- An index opens with the tables in its file. -/
theorem openIndex_of_look (noNull : path.holdsNull = false) (inFile : path.text ≠ memoryPath)
    (looked : tree.look working path = .ok (location, some (.file (.tables tables))))
    (admits : admitsIndex location = true) (clear : IsClear tree location companions) :
    openIndex tree working path = .ok tables := by
  obtain ⟨led, stands⟩ := FileTree.look_eq_ok_iff.mp looked
  refine openIndex_eq_ok_iff.mpr ⟨noNull, (openTables_eq_ok_iff inFile).mpr ⟨location, led, admits,
    ?_⟩⟩
  rw [stands]
  exact ⟨clear, rfl⟩

/-- Saved tables are found in the file, which takes no folder away. -/
theorem of_saveTables (noNull : path.holdsNull = false) (keeps : Keeps tree working path)
    (tables : Tables) :
    tree.FoldersKept (saveTables tree working path tables) ∧
      Keeps (saveTables tree working path tables) working path ∧
      (path.text ≠ memoryPath →
        openIndex (saveTables tree working path tables) working path = .ok tables) := by
  by_cases inMemory : path.text = memoryPath
  · rw [saveTables, if_pos inMemory]
    exact ⟨.refl tree, keeps, fun inFile => absurd inMemory inFile⟩
  · obtain ⟨location, found, looked, noFolder, admits, clear⟩ := keeps inMemory
    obtain ⟨written, kept, stands⟩ :=
      FileTree.of_look_file noNull looked noFolder (.tables tables)
    have notRoot : location ≠ [] := by
      rintro rfl
      obtain ⟨-, here⟩ := FileTree.look_eq_ok_iff.mp stands
      cases here
    have stillClear := clear.put notRoot (.tables tables)
    rw [saveTables, if_neg inMemory, written]
    refine ⟨kept, fun _ => ⟨location, _, stands, ?_, admits, stillClear⟩, fun inFile =>
      openIndex_of_look noNull inFile stands admits stillClear⟩
    intro isFolder
    cases isFolder

end

/-- The folders of an opened depot stand in its tree, and the tables of its index can be kept. -/
structure Settled (coordinator : Coordinator) (config : Config) (base : Option Path) : Prop where
  indexPath : coordinator.indexPath = config.resolvedIndex base
  root : coordinator.blobs.root = config.resolvedBlobs base
  indexNoNull : (config.resolvedIndex base).holdsNull = false
  parentNoNull : (config.resolvedIndex base).parent.holdsNull = false
  rootNoNull : (config.resolvedBlobs base).holdsNull = false
  parent : coordinator.blobs.tree.isFolder coordinator.blobs.working
    (config.resolvedIndex base).parent = true
  blobFolder : coordinator.blobs.tree.isFolder coordinator.blobs.working
    (config.resolvedBlobs base) = true
  keeps : Keeps coordinator.blobs.tree coordinator.blobs.working (config.resolvedIndex base)
  pageSize : 1 ≤ config.defaultPageSize
  concurrency : 1 ≤ config.fetchConcurrency

section

variable {world : World} {config : Config} {base : Option Path} {coordinator other : Coordinator}

/-- A coordinator with the tree and the path of a settled one is settled. -/
theorem Settled.of_eq (settled : coordinator.Settled config base)
    (sameBlobs : other.blobs = coordinator.blobs)
    (samePath : other.indexPath = coordinator.indexPath) : other.Settled config base := by
  obtain ⟨indexPath, root, indexNoNull, parentNoNull, rootNoNull, parent, blobFolder, keeps,
    pageSize, concurrency⟩ := settled
  rw [← samePath] at indexPath
  rw [← sameBlobs] at root parent blobFolder keeps
  exact ⟨indexPath, root, indexNoNull, parentNoNull, rootNoNull, parent, blobFolder, keeps,
    pageSize, concurrency⟩

/-- A page size from one on is positive. -/
theorem toNat_pageSize_pos {config : Config} (pageSize : 1 ≤ config.defaultPageSize) :
    0 < config.defaultPageSize.toNat := by
  omega

/-- A number of fetches from one on is positive. -/
theorem toNat_concurrency_pos {config : Config} (concurrency : 1 ≤ config.fetchConcurrency) :
    0 < config.fetchConcurrency.toNat := by
  omega

/-- The coordinator of a depot that opens, from the tree with its folders and its tables. -/
def opened (world : World) (config : Config) (base : Option Path) (made : FileTree)
    (tables : Tables) (pageSize : 1 ≤ config.defaultPageSize)
    (concurrency : 1 ≤ config.fetchConcurrency) : Coordinator where
  blobs := ⟨saveTables made world.working (config.resolvedIndex base) tables, world.working,
    config.resolvedBlobs base⟩
  index := ⟨tables, true⟩
  indexPath := config.resolvedIndex base
  issued := world.issued
  outages := world.outages
  defaultPageSize := config.defaultPageSize.toNat
  fetchConcurrency := config.fetchConcurrency.toNat
  pageSize_pos := toNat_pageSize_pos pageSize
  concurrency_pos := toNat_concurrency_pos concurrency

/-- A depot opens when both folders can be made, its index opens, and the numbers of its settings
are positive. -/
theorem openDepot_of_ok {folderTree made : FileTree} {tables : Tables}
    (folders : world.tree.makeFolders world.working (config.resolvedIndex base).parent =
      (folderTree, none))
    (blobFolders : folderTree.makeFolders world.working (config.resolvedBlobs base) =
      (made, none))
    (read : openIndex made world.working (config.resolvedIndex base) = .ok tables)
    (pageSize : 1 ≤ config.defaultPageSize) (concurrency : 1 ≤ config.fetchConcurrency) :
    (openDepot world config base).1 =
      .ok (opened world config base made tables pageSize concurrency) := by
  simp only [openDepot, folders, BlobStore.openAt, blobFolders, read, pageSize, concurrency]
  rfl

/-- A depot that opens has had both folders made, its index opened, and positive numbers. -/
theorem of_openDepot_ok (isOpened : (openDepot world config base).1 = .ok coordinator) :
    ∃ folderTree made tables pageSize concurrency,
      world.tree.makeFolders world.working (config.resolvedIndex base).parent =
        (folderTree, none) ∧
      folderTree.makeFolders world.working (config.resolvedBlobs base) = (made, none) ∧
      openIndex made world.working (config.resolvedIndex base) = .ok tables ∧
      coordinator = opened world config base made tables pageSize concurrency := by
  rw [openDepot] at isOpened
  split at isOpened
  · cases isOpened
  · rename_i folderTree folders
    cases blobFolders : folderTree.makeFolders world.working (config.resolvedBlobs base) with
    | mk made fault =>
    cases fault with
    | some fault => cases fault <;> simp [BlobStore.openAt, blobFolders] at isOpened
    | none =>
      simp only [BlobStore.openAt, blobFolders] at isOpened
      split at isOpened
      · cases isOpened
      · rename_i tables read
        split at isOpened
        · rename_i pageSize
          split at isOpened
          · rename_i concurrency
            cases isOpened
            exact ⟨folderTree, made, tables, pageSize, concurrency, folders, blobFolders, read,
              rfl⟩
          · cases isOpened
        · cases isOpened

/-- A depot that opens is settled and its index is open. -/
theorem settled_of_openDepot (isOpened : (openDepot world config base).1 = .ok coordinator) :
    coordinator.Settled config base ∧ coordinator.index.isOpen = true ∧
      coordinator.outages = world.outages := by
  obtain ⟨folderTree, made, tables, pageSize, concurrency, folders, blobFolders, read, rfl⟩ :=
    of_openDepot_ok isOpened
  obtain ⟨parentNoNull, -, parent⟩ := FileTree.of_makeFolders folders
  obtain ⟨rootNoNull, keptByBlobs, blobFolder⟩ := FileTree.of_makeFolders blobFolders
  obtain ⟨noNull, keeps⟩ := of_openIndex read
  obtain ⟨keptBySaving, keepsSaved, -⟩ := of_saveTables noNull keeps tables
  exact ⟨⟨rfl, rfl, noNull, parentNoNull, rootNoNull,
    keptBySaving.isFolder (keptByBlobs.isFolder parent), keptBySaving.isFolder blobFolder,
    keepsSaved, pageSize, concurrency⟩, rfl, rfl⟩

/-- Closing a settled depot and opening it again gives its tables back, unless they are kept in
memory only. -/
theorem Settled.reopen (settled : coordinator.Settled config base) :
    ∃ reopened, (openDepot coordinator.close config base).1 = .ok reopened ∧
      reopened.index.tables =
        if (config.resolvedIndex base).text = memoryPath then .empty
        else coordinator.index.tables := by
  obtain ⟨keptBySaving, -, found⟩ :=
    of_saveTables settled.indexNoNull settled.keeps coordinator.index.tables
  have closed : coordinator.close.tree = saveTables coordinator.blobs.tree
      coordinator.blobs.working (config.resolvedIndex base) coordinator.index.tables := by
    rw [close, settled.indexPath]
  rw [← closed] at keptBySaving found
  have folders := FileTree.makeFolders_of_isFolder settled.parentNoNull
    (keptBySaving.isFolder settled.parent)
  have blobFolders := FileTree.makeFolders_of_isFolder settled.rootNoNull
    (keptBySaving.isFolder settled.blobFolder)
  split
  · rename_i inMemory
    have read : openIndex coordinator.close.tree coordinator.close.working
        (config.resolvedIndex base) = .ok .empty :=
      openIndex_of_memory settled.indexNoNull inMemory
    exact ⟨_, openDepot_of_ok folders blobFolders read settled.pageSize settled.concurrency, rfl⟩
  · rename_i inFile
    exact ⟨_, openDepot_of_ok folders blobFolders (found inFile) settled.pageSize
      settled.concurrency, rfl⟩

end
end Depot.Coordinator
