import Depot.Proofs.Payloads
import Depot.Proofs.Reopening

/-!
# Two stores in one tree

The folder of the payloads and the file of the index share a directory tree. What storing changes
lies below the folder and leaves the index alone; saving the index leaves the payloads alone, as
its file does not lie below the folder. So closing a depot and opening it again keeps its payloads.
-/

namespace Depot

namespace FileTree

/-- Nothing has changed but below a location, and no folder has gone. -/
structure ChangedBelow (home : Location) (before after : FileTree) : Prop where
  folders : before.FoldersKept after
  elsewhere : ∀ location, ¬ home <+: location → after.at? location = before.at? location

variable {home location : Location} {before between after : FileTree}

theorem ChangedBelow.of_at?_eq (same : after.at? = before.at?) : ChangedBelow home before after :=
  ⟨fun _ found => by rw [same, found], fun _ _ => by rw [same]⟩

theorem ChangedBelow.trans (changed : ChangedBelow home before between)
    (changedAgain : ChangedBelow home between after) : ChangedBelow home before after where
  folders := changed.folders.trans changedAgain.folders
  elsewhere := fun location apart =>
    (changedAgain.elsewhere location apart).trans (changed.elsewhere location apart)

/-- A change at one location below, which puts a folder there or takes no folder away. -/
theorem ChangedBelow.of_update {entry : Option FileEntry} (below : home <+: location)
    (changed : after.at? = Function.update before.at? location entry)
    (allowed : entry = some .folder ∨ before.at? location ≠ some .folder) :
    ChangedBelow home before after where
  folders := foldersKept_of_update changed allowed
  elsewhere := by
    intro other apart
    rw [changed, Function.update_of_ne]
    rintro rfl
    exact apart below

end FileTree

namespace BlobStore

variable {blobs : BlobStore} {home : Location} {kept : List (List UInt8)}

/-- Storing a payload changes the tree below the folder of the store alone. -/
theorem Keeps.changedBelow_store (keeps : blobs.Keeps home kept) (planned : PlannedFaults)
    (payload : List UInt8) :
    FileTree.ChangedBelow home blobs.tree (blobs.store planned payload).2.tree := by
  have shardBelow : home <+: shardPlace home (Sha256.hexDigest payload) := List.prefix_append _ _
  cases keeps.stored planned payload with
  | tooLong long isOutcome =>
    rw [isOutcome]
    exact .of_at?_eq rfl
  | already short occupied isOutcome =>
    rw [isOutcome]
    exact .of_at?_eq rfl
  | stored short free calm after changed isOutcome =>
    rw [isOutcome]
    have madeAt := blobs.tree.at?_put (shardPlace_ne_nil home (Sha256.hexDigest payload)) .folder
    rw [← madeAt] at changed
    have placeFree : (blobs.tree.put (shardPlace home (Sha256.hexDigest payload)) .folder).at?
        (place home (Sha256.hexDigest payload)) ≠ some .folder := by
      rw [madeAt, Function.update_of_ne (shardPlace_ne_place _ _ _).symm, free]
      simp
    exact (FileTree.ChangedBelow.of_update shardBelow madeAt (.inl rfl)).trans
      (.of_update (List.prefix_append _ _) changed (.inr placeFree))
  | stopped short free step fault failed after changed isOutcome =>
    rw [isOutcome]
    rcases changed with same | made
    · exact .of_at?_eq same
    · exact .of_update shardBelow made (.inl rfl)

/-- Removing the file of a digest changes the tree below the folder of the store alone. -/
theorem Keeps.changedBelow_removeFile {hash : String} (keeps : blobs.Keeps home kept)
    (isDigits : IsDigits hash) :
    FileTree.ChangedBelow home blobs.tree
      (blobs.tree.removeFile blobs.working (blobs.pathOf hash)) := by
  rcases keeps.removeFile_pathOf isDigits with ⟨-, unchanged⟩ | ⟨content, isFile, erased⟩
  · rw [unchanged]
    exact .of_at?_eq rfl
  · have noFolder : blobs.tree.at? (place home hash) ≠ some .folder := by
      rw [isFile]
      simp
    rw [erased]
    exact .of_update (List.prefix_append _ _) (blobs.tree.at?_erase (place_ne_nil home hash))
      (.inr noFolder)

/-- A store keeps its payloads when something is put elsewhere in its tree, where no folder
stands. -/
theorem Keeps.put (keeps : blobs.Keeps home kept) {location : Location}
    (apart : ¬ home <+: location) (noFolder : blobs.tree.at? location ≠ some .folder)
    (entry : FileEntry) :
    Keeps { blobs with tree := blobs.tree.put location entry } home kept := by
  have notBelow (names : List String) : location ≠ home ++ names := by
    rintro rfl
    exact apart (List.prefix_append _ _)
  have unchanged (names : List String) :
      (blobs.tree.put location entry).at? (home ++ names) = blobs.tree.at? (home ++ names) :=
    FileTree.at?_put_of_ne (notBelow names) entry
  constructor
  case noNull => exact keeps.noNull
  case stands => exact (FileTree.foldersKept_put (.inr noFolder)).look keeps.stands
  case nothingElse =>
    intro names found named
    rw [unchanged]
    exact keeps.nothingElse names found named
  case present =>
    intro payload member
    rw [shardPlace, place, unchanged, unchanged]
    exact keeps.present payload member

end BlobStore

namespace Coordinator

/-- Whether the index that is kept at a path lies outside a folder: in memory, or in a file that
is not below it. -/
def Apart (tree : FileTree) (working : Location) (path : Path) (home : Location) : Prop :=
  path.text ≠ memoryPath →
    ∃ location, tree.locate working path = .ok location ∧ ¬ home <+: location

section

variable {blobs : BlobStore} {home : Location} {kept : List (List UInt8)} {path : Path}
  {tables : Tables}

/-- A store keeps its payloads when an index that lies apart is saved, and the index still lies
apart. -/
theorem keeps_saveTables (keeps : blobs.Keeps home kept)
    (apart : Apart blobs.tree blobs.working path home) (noNull : path.holdsNull = false)
    (keepsIndex : Keeps blobs.tree blobs.working path) (tables : Tables) :
    BlobStore.Keeps { blobs with tree := saveTables blobs.tree blobs.working path tables } home
        kept ∧
      Apart (saveTables blobs.tree blobs.working path tables) blobs.working path home := by
  by_cases inMemory : path.text = memoryPath
  · rw [saveTables, if_pos inMemory]
    exact ⟨keeps, apart⟩
  · obtain ⟨location, found, looked, noFolder, -, -⟩ := keepsIndex inMemory
    obtain ⟨led, stands⟩ := FileTree.look_eq_ok_iff.mp looked
    obtain ⟨place, ledPlace, outside⟩ := apart inMemory
    rw [led] at ledPlace
    cases ledPlace
    obtain ⟨written, foldersKept, -⟩ :=
      FileTree.of_look_file noNull looked noFolder (.tables tables)
    rw [saveTables, if_neg inMemory, written]
    exact ⟨keeps.put outside (by rw [stands]; exact noFolder) _,
      fun _ => ⟨location, foldersKept.locate led, outside⟩⟩

end

/-- A depot that can be opened again, keeps payloads, and has its index apart from them. -/
structure Stocked (coordinator : Coordinator) (config : Config) (base : Option Path)
    (home : Location) (kept : List (List UInt8)) : Prop where
  settled : coordinator.Settled config base
  keeps : coordinator.blobs.Keeps home kept
  apart : Apart coordinator.blobs.tree coordinator.blobs.working (config.resolvedIndex base) home

section

variable {coordinator other : Coordinator} {config : Config} {base : Option Path}
  {home : Location} {kept : List (List UInt8)}

/-- A depot with the same store and the same path of the index is stocked alike. -/
theorem Stocked.of_eq (stocked : coordinator.Stocked config base home kept)
    (sameBlobs : other.blobs = coordinator.blobs)
    (samePath : other.indexPath = coordinator.indexPath) :
    other.Stocked config base home kept where
  settled := stocked.settled.of_eq sameBlobs samePath
  keeps := by
    rw [sameBlobs]
    exact stocked.keeps
  apart := by
    rw [sameBlobs]
    exact stocked.apart

/-- The places beside a location stay clear when nothing changes but below a folder to which the
location does not belong. -/
theorem IsClear.of_changedBelow {before after : FileTree} {location : Location}
    {needed : List (String × DatabaseFault)} (clear : IsClear before location needed)
    (changed : FileTree.ChangedBelow home before after)
    (stands : before.at? home = some .folder) (outside : ¬ home <+: location) :
    IsClear after location needed := by
  intro companion member
  have aside : ¬ home <+: beside location companion.1 := by
    intro within
    rcases List.prefix_concat_iff.mp within with here | above
    · refine clear companion member ?_
      rw [beside, ← here]
      exact stands
    · exact outside (above.trans (List.dropLast_prefix location))
  rw [changed.elsewhere _ aside]
  exact clear companion member

/-- A settled depot stays settled when its tree changes below a folder apart from the index. -/
theorem Settled.of_changedBelow (settled : coordinator.Settled config base)
    (stands : coordinator.blobs.tree.at? home = some .folder)
    (apart : Apart coordinator.blobs.tree coordinator.blobs.working (config.resolvedIndex base)
      home)
    {tree : FileTree} (changed : FileTree.ChangedBelow home coordinator.blobs.tree tree) :
    Settled { coordinator with blobs := { coordinator.blobs with tree := tree } } config base ∧
      Apart tree coordinator.blobs.working (config.resolvedIndex base) home := by
  refine ⟨?_, ?_⟩
  · refine ⟨settled.indexPath, settled.root, settled.indexNoNull, settled.parentNoNull,
      settled.rootNoNull, changed.folders.isFolder settled.parent,
      changed.folders.isFolder settled.blobFolder, ?_, settled.pageSize, settled.concurrency⟩
    intro inFile
    obtain ⟨location, found, looked, noFolder, admits, clear⟩ := settled.keeps inFile
    obtain ⟨led, here⟩ := FileTree.look_eq_ok_iff.mp looked
    obtain ⟨place, ledPlace, outside⟩ := apart inFile
    rw [led] at ledPlace
    cases ledPlace
    refine ⟨location, found, ?_, noFolder, admits, clear.of_changedBelow changed stands outside⟩
    exact FileTree.look_eq_ok_iff.mpr ⟨changed.folders.locate led,
      (changed.elsewhere location outside).trans here⟩
  · intro inFile
    obtain ⟨location, led, outside⟩ := apart inFile
    exact ⟨location, changed.folders.locate led, outside⟩

/-- The tree of a depot that has been opened again: the tables have been saved twice. -/
theorem Settled.blobs_of_reopen (settled : coordinator.Settled config base)
    (opened : (openDepot coordinator.close config base).1 = .ok other) :
    other.blobs = { coordinator.blobs with
      tree := saveTables
        (saveTables coordinator.blobs.tree coordinator.blobs.working (config.resolvedIndex base)
          coordinator.index.tables)
        coordinator.blobs.working (config.resolvedIndex base) other.index.tables } := by
  obtain ⟨folderTree, made, tables, pageSize, concurrency, folders, blobFolders, -, rfl⟩ :=
    of_openDepot_ok opened
  obtain ⟨keptBySaving, -, -⟩ :=
    of_saveTables settled.indexNoNull settled.keeps coordinator.index.tables
  have closed : coordinator.close.tree = saveTables coordinator.blobs.tree
      coordinator.blobs.working (config.resolvedIndex base) coordinator.index.tables := by
    rw [close, settled.indexPath]
  have sameWorking : coordinator.close.working = coordinator.blobs.working := rfl
  rw [closed, sameWorking, FileTree.makeFolders_of_isFolder settled.parentNoNull
    (keptBySaving.isFolder settled.parent)] at folders
  cases folders
  rw [sameWorking, FileTree.makeFolders_of_isFolder settled.rootNoNull
    (keptBySaving.isFolder settled.blobFolder)] at blobFolders
  cases blobFolders
  change BlobStore.mk _ _ (config.resolvedBlobs base) = _
  rw [← settled.root]
  rfl

/-- A stocked depot can be opened again, has its tables unless they are kept in memory only, and is
stocked with the same payloads. -/
theorem Stocked.reopen (stocked : coordinator.Stocked config base home kept)
    (opened : (openDepot coordinator.close config base).1 = .ok other) :
    other.Stocked config base home kept := by
  obtain ⟨settled, keeps, apart⟩ := stocked
  have keepsIndex := settled.keeps
  obtain ⟨keepsSaved, apartSaved⟩ :=
    keeps_saveTables keeps apart settled.indexNoNull keepsIndex coordinator.index.tables
  obtain ⟨-, keepsIndexSaved, -⟩ :=
    of_saveTables settled.indexNoNull keepsIndex coordinator.index.tables
  obtain ⟨keepsAgain, apartAgain⟩ :=
    keeps_saveTables keepsSaved apartSaved settled.indexNoNull keepsIndexSaved other.index.tables
  have blobs := settled.blobs_of_reopen opened
  constructor
  case settled => exact (settled_of_openDepot opened).1
  case keeps =>
    rw [blobs]
    exact keepsAgain
  case apart =>
    rw [blobs]
    exact apartAgain

/-- A depot that opens has made the file of its index, unless the index is in memory. -/
theorem look_index_of_openDepot {world : World}
    (opened : (openDepot world config base).1 = .ok coordinator)
    (inFile : (config.resolvedIndex base).text ≠ memoryPath) :
    ∃ location content, coordinator.blobs.tree.look coordinator.blobs.working
      (config.resolvedIndex base) = .ok (location, some (.file content)) := by
  obtain ⟨folderTree, made, tables, pageSize, concurrency, -, -, read, rfl⟩ :=
    of_openDepot_ok opened
  obtain ⟨noNull, keepsIndex⟩ := of_openIndex read
  obtain ⟨location, found, looked, noFolder, -, -⟩ := keepsIndex inFile
  obtain ⟨written, -, stands⟩ := FileTree.of_look_file noNull looked noFolder (.tables tables)
  refine ⟨location, .tables tables, ?_⟩
  rw [Coordinator.opened, saveTables, if_neg inFile, written]
  exact stands

/-- A depot that opens with nothing in the folder of its payloads is stocked with none: the file of
its index, which is there by then, does not lie in that folder. -/
theorem stocked_of_openDepot {world : World}
    (opened : (openDepot world config base).1 = .ok coordinator)
    (located : coordinator.blobs.tree.locate coordinator.blobs.working
      (config.resolvedBlobs base) = .ok home)
    (new : ∀ names, names ≠ [] → coordinator.blobs.tree.at? (home ++ names) = none) :
    coordinator.Stocked config base home [] := by
  obtain ⟨settled, -, -⟩ := settled_of_openDepot opened
  obtain ⟨place, stands⟩ := FileTree.isFolder_iff.mp settled.blobFolder
  obtain ⟨led, isFolder⟩ := FileTree.look_eq_ok_iff.mp stands
  rw [located] at led
  cases led
  constructor
  case settled => exact settled
  case keeps =>
    rw [← settled.root] at stands
    refine ⟨by rw [settled.root]; exact settled.rootNoNull, stands, ?_, nofun⟩
    intro names entry named found
    rw [new names named] at found
    cases found
  case apart =>
    intro inFile
    obtain ⟨location, content, looked⟩ := look_index_of_openDepot opened inFile
    obtain ⟨ledIndex, isFile⟩ := FileTree.look_eq_ok_iff.mp looked
    refine ⟨location, ledIndex, ?_⟩
    rintro ⟨names, rfl⟩
    by_cases named : names = []
    · subst named
      rw [List.append_nil, isFolder] at isFile
      cases isFile
    · rw [new names named] at isFile
      cases isFile

/-- A depot stays stocked, with other payloads, when its store changes below its folder alone. -/
theorem Stocked.of_changedBelow (stocked : coordinator.Stocked config base home kept)
    {blobs : BlobStore} {keptAfter : List (List UInt8)}
    (sameFolder : blobs = { coordinator.blobs with tree := blobs.tree })
    (changed : FileTree.ChangedBelow home coordinator.blobs.tree blobs.tree)
    (keeps : blobs.Keeps home keptAfter) :
    Stocked { coordinator with blobs := blobs } config base home keptAfter := by
  have stands := (FileTree.look_eq_ok_iff.mp stocked.keeps.stands).2
  obtain ⟨settled, apart⟩ := stocked.settled.of_changedBelow stands stocked.apart changed
  constructor
  case settled =>
    rw [sameFolder]
    exact settled
  case keeps => exact keeps
  case apart =>
    rw [sameFolder]
    exact apart

end
end Coordinator
end Depot
