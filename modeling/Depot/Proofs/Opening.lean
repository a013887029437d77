import Depot.Proofs.Sessions
import Depot.Proofs.Ways

/-!
# How opening ends

What stands in the tree decides how opening a depot ends. Three paths matter: the folder of the
index, the folder of the payloads, and the file of the index. What is in the way of the second or
wrong with the third is reported as a store or an index that is out of reach; what is in the way of
the first is passed on as the fault that the tree reports.
-/

namespace Depot.Coordinator

/-- What opening a depot is said to end with: a depot, or a failure that says which of its two
stores is out of reach. -/
@[mk_iff]
inductive EndsAsSaid : Except Failure Coordinator → Prop where
  | opened (coordinator : Coordinator) : EndsAsSaid (.ok coordinator)
  | noStore (fault : StoreFault) : EndsAsSaid (.error (.storeUnavailable fault))
  | noIndex (fault : IndexFault) : EndsAsSaid (.error (.indexUnavailable fault))

/-- No folder stands at a location, and none is made there for the folder of a path or for that of
the payloads. -/
structure StaysFree (tree : FileTree) (working : Location) (path blobs : Path)
    (location : Location) : Prop where
  notParent : ¬ path.parent.Passes working location
  notBlobs : ¬ blobs.Passes working location
  noFolder : tree.at? location ≠ some .folder

/-- An index can be kept in a file beside which folders are made for two paths: its path is short
enough, neither of the two passes its location, the files beside it have names and no folder in
their places, and what stands there are tables or nothing. -/
structure AdmitsFile (tree : FileTree) (working : Location) (path blobs : Path) : Prop where
  short : path.IsShort
  shortNames : path.HasShortNames
  notParent : ¬ path.parent.Passes working (path.place working)
  notBlobs : ¬ blobs.Passes working (path.place working)
  admits : admitsIndex (path.place working) = true
  clear : ∀ companion ∈ companionsOf (tree.at? (path.place working)),
    StaysFree tree working path blobs (beside (path.place working) companion.1)
  readable : ∃ tables, tablesOf (tree.at? (path.place working)) = .ok tables

/-- An index can be kept at a path: in memory, or in a file. -/
def AdmitsIndex (tree : FileTree) (working : Location) (path blobs : Path) : Prop :=
  path.text = memoryPath ∨ AdmitsFile tree working path blobs

section

variable {tree made : FileTree} {working : Location} {path blobs : Path}

/-- Where the folder of a path stands, the path leads to its place exactly when it is short
enough. -/
theorem locate_iff_isShort {location : Location}
    (parent : made.isFolder working path.parent = true) :
    made.locate working path = .ok location ↔
      path.place working = location ∧ path.IsShort ∧ path.HasShortNames := by
  obtain ⟨-, -, parentStands⟩ := FileTree.isFolder_iff_passes.mp parent
  have onTheWay (passed : List String) (within : passed <+: path.names)
      (partly : passed ≠ path.names) :
      made.at? (FileTree.destination (path.start working) passed) = some .folder := by
    obtain ⟨rest, whole⟩ := within
    have more : rest ≠ [] := by
      rintro rfl
      exact partly (by simpa using whole)
    refine parentStands _ ⟨passed, ⟨rest.dropLast, ?_⟩, rfl⟩
    rw [Path.parent, ← whole, List.dropLast_append_of_ne_nil more]
  rw [FileTree.locate_eq_ok_iff]
  constructor
  · rintro ⟨here, short, shortNames, -⟩
    exact ⟨here, short, shortNames⟩
  · rintro ⟨here, short, shortNames⟩
    exact ⟨here, short, shortNames, onTheWay⟩

section

variable (parent : made.isFolder working path.parent = true)
  (folder : made.isFolder working blobs = true)
  (aside : ∀ location, ¬ path.parent.Passes working location → ¬ blobs.Passes working location →
    made.at? location = tree.at? location)

include parent folder aside

/-- Once the folders are made, no folder stands at a location exactly when it stays free. -/
theorem ne_folder_iff_staysFree (location : Location) :
    made.at? location ≠ some .folder ↔ StaysFree tree working path blobs location := by
  obtain ⟨-, -, parentStands⟩ := FileTree.isFolder_iff_passes.mp parent
  obtain ⟨-, -, folderStands⟩ := FileTree.isFolder_iff_passes.mp folder
  constructor
  · intro noFolder
    have notParent : ¬ path.parent.Passes working location := fun passes =>
      noFolder (parentStands location passes)
    have notBlobs : ¬ blobs.Passes working location := fun passes =>
      noFolder (folderStands location passes)
    exact ⟨notParent, notBlobs, by rwa [← aside location notParent notBlobs]⟩
  · rintro ⟨notParent, notBlobs, noFolder⟩
    rwa [aside location notParent notBlobs]

/-- Once the folders are made an index opens exactly when it can be kept at its path. -/
theorem exists_openTables_iff :
    (∃ tables, openTables made working path = .ok tables) ↔
      AdmitsIndex tree working path blobs := by
  have freeIff := ne_folder_iff_staysFree parent folder aside
  by_cases inMemory : path.text = memoryPath
  · simp [openTables, AdmitsIndex, inMemory]
  simp only [openTables_eq_ok_iff inMemory, AdmitsIndex, inMemory, false_or,
    locate_iff_isShort parent]
  constructor
  · rintro ⟨tables, -, ⟨rfl, short, shortNames⟩, admits, clear, held⟩
    obtain ⟨notParent, notBlobs, -⟩ := (freeIff _).mp (ne_folder_of_tablesOf held)
    rw [aside _ notParent notBlobs] at clear held
    exact ⟨short, shortNames, notParent, notBlobs, admits,
      fun companion member => (freeIff _).mp (clear companion member), tables, held⟩
  · rintro ⟨short, shortNames, notParent, notBlobs, admits, free, tables, held⟩
    rw [← aside _ notParent notBlobs] at free held
    exact ⟨tables, _, ⟨rfl, short, shortNames⟩, admits,
      fun companion member => (freeIff _).mpr (free companion member), held⟩

end

end

section

variable (world : World) (config : Config) (base : Option Path)

/-- Nothing is in the way of the folder of the index. -/
def AdmitsParent : Prop := world.tree.Admits world.working (config.resolvedIndex base).parent

/-- Nothing is in the way of the folder of the payloads. -/
def AdmitsBlobs : Prop := world.tree.Admits world.working (config.resolvedBlobs base)

/-- The index can be kept in its file or in memory. -/
def AdmitsTables : Prop :=
  AdmitsIndex world.tree world.working (config.resolvedIndex base) (config.resolvedBlobs base)

/-- How opening a depot ends, by the first of its three paths that cannot be used. -/
inductive Outcome : Except Failure Coordinator → Prop where
  | noParent (fault : FileFault) (blocked : ¬ AdmitsParent world config base) :
      Outcome (.error (.file fault))
  | blobsNull (parent : AdmitsParent world config base)
      (null : (config.resolvedBlobs base).holdsNull = true) :
      Outcome (.error (.file .nullCharacter))
  | noBlobs (fault : StoreFault) (parent : AdmitsParent world config base)
      (noNull : (config.resolvedBlobs base).holdsNull = false)
      (blocked : ¬ AdmitsBlobs world config base) : Outcome (.error (.storeUnavailable fault))
  | indexNull (parent : AdmitsParent world config base) (blobs : AdmitsBlobs world config base)
      (null : (config.resolvedIndex base).holdsNull = true) :
      Outcome (.error (.file .nullCharacter))
  | noIndex (fault : IndexFault) (parent : AdmitsParent world config base)
      (blobs : AdmitsBlobs world config base)
      (noNull : (config.resolvedIndex base).holdsNull = false)
      (blocked : ¬ AdmitsTables world config base) : Outcome (.error (.indexUnavailable fault))
  | opened (coordinator : Coordinator) (parent : AdmitsParent world config base)
      (blobs : AdmitsBlobs world config base)
      (noNull : (config.resolvedIndex base).holdsNull = false)
      (tables : AdmitsTables world config base) : Outcome (.ok coordinator)

variable {world config base}

/-- Once both folders are made, an index opens exactly when it can be kept. -/
theorem exists_openTables_iff_admitsTables {folderTree made : FileTree}
    (folders : world.tree.makeFolders world.working (config.resolvedIndex base).parent =
      (folderTree, none))
    (blobFolders : folderTree.makeFolders world.working (config.resolvedBlobs base) =
      (made, none)) :
    (∃ tables, openTables made world.working (config.resolvedIndex base) = .ok tables) ↔
      AdmitsTables world config base := by
  obtain ⟨-, -, parent⟩ := FileTree.of_makeFolders folders
  obtain ⟨-, kept, stands⟩ := FileTree.of_makeFolders blobFolders
  refine exists_openTables_iff (kept.isFolder parent) stands fun location notParent notBlobs => ?_
  have afterParent := world.tree.at?_makeFolders notParent
  have afterBlobs := folderTree.at?_makeFolders notBlobs
  rw [folders] at afterParent
  rw [blobFolders] at afterBlobs
  exact afterBlobs.trans afterParent

/-- Opening a depot whose numbers are positive ends as its three paths say. -/
theorem outcome_openDepot (pageSize : 1 ≤ config.defaultPageSize)
    (concurrency : 1 ≤ config.fetchConcurrency) :
    Outcome world config base (openDepot world config base).1 := by
  have parentDone := world.tree.makeFolders_eq_none_iff world.working
    (config.resolvedIndex base).parent
  have parentGains := world.tree.gainsFolders_makeFolders world.working
    (config.resolvedIndex base).parent
  rcases folders : world.tree.makeFolders world.working (config.resolvedIndex base).parent with
    ⟨folderTree, _ | fault⟩
  · rw [folders] at parentDone parentGains
    have parent : AdmitsParent world config base := parentDone.mp rfl
    have blobsDone := folderTree.makeFolders_eq_none_iff world.working (config.resolvedBlobs base)
    rw [parentGains.admits_iff] at blobsDone
    have blobsNull := folderTree.makeFolders_eq_nullCharacter_iff world.working
      (config.resolvedBlobs base)
    rcases blobFolders : folderTree.makeFolders world.working (config.resolvedBlobs base) with
      ⟨made, _ | fault⟩
    · rw [blobFolders] at blobsDone
      have blobs : AdmitsBlobs world config base := blobsDone.mp rfl
      have kept := exists_openTables_iff_admitsTables folders blobFolders
      simp only [openDepot, folders, BlobStore.openAt, blobFolders, openIndex]
      cases null : (config.resolvedIndex base).holdsNull with
      | true => exact .indexNull parent blobs null
      | false =>
        cases read : openTables made world.working (config.resolvedIndex base) with
        | error fault =>
          rw [read] at kept
          exact .noIndex _ parent blobs null (by simpa using kept)
        | ok tables =>
          have admits : AdmitsTables world config base := kept.mp ⟨tables, read⟩
          simp only [Bool.false_eq_true, if_false, Except.mapError, pageSize, concurrency,
            dite_true]
          exact .opened _ parent blobs null admits
    · rw [blobFolders] at blobsDone blobsNull
      have blocked : ¬ AdmitsBlobs world config base := by
        intro admits
        cases blobsDone.mpr admits
      simp only [openDepot, folders, BlobStore.openAt, blobFolders]
      by_cases null : (config.resolvedBlobs base).holdsNull = true
      · obtain rfl : fault = .nullCharacter := by simpa using blobsNull.mpr null
        exact .blobsNull parent null
      · cases fault with
        | nullCharacter => exact absurd (blobsNull.mp rfl) null
        | problem cause text => exact .noBlobs _ parent (Bool.eq_false_iff.mpr null) blocked
        | reported message => exact .noBlobs _ parent (Bool.eq_false_iff.mpr null) blocked
  · rw [folders] at parentDone
    simp only [openDepot, folders]
    refine .noParent fault fun admits => ?_
    cases parentDone.mpr admits

section

variable {result : Except Failure Coordinator}

/-- A path of the payloads with a null character admits no folder. -/
theorem not_admitsBlobs_of_holdsNull (null : (config.resolvedBlobs base).holdsNull = true) :
    ¬ AdmitsBlobs world config base := by
  intro admits
  simp [admits.noNull] at null

/-- A depot is opened exactly when all three paths can be used. -/
theorem Outcome.opened_iff (outcome : Outcome world config base result) :
    (∃ coordinator, result = .ok coordinator) ↔
      AdmitsParent world config base ∧ AdmitsBlobs world config base ∧
        (config.resolvedIndex base).holdsNull = false ∧ AdmitsTables world config base := by
  cases outcome with
  | noParent fault blocked => simp [blocked]
  | blobsNull parent null => simp [not_admitsBlobs_of_holdsNull null]
  | noBlobs fault parent noNull blocked => simp [blocked]
  | indexNull parent blobs null => simp [null]
  | noIndex fault parent blobs noNull blocked => simp [blocked]
  | opened coordinator parent blobs noNull tables => simp [parent, blobs, noNull, tables]

/-- The store is out of reach exactly when the first path can be used, and the second can be handed
over but not used. -/
theorem Outcome.storeUnavailable_iff (outcome : Outcome world config base result) :
    (∃ fault, result = .error (.storeUnavailable fault)) ↔
      AdmitsParent world config base ∧ ¬ AdmitsBlobs world config base ∧
        (config.resolvedBlobs base).holdsNull = false := by
  cases outcome with
  | noParent fault blocked => simp [blocked]
  | blobsNull parent null => simp [null]
  | noBlobs fault parent noNull blocked => simp [parent, blocked, noNull]
  | indexNull parent blobs null => simp [blobs]
  | noIndex fault parent blobs noNull blocked => simp [blobs]
  | opened coordinator parent blobs noNull tables => simp [blobs]

/-- The index is out of reach exactly when the first two paths can be used, and the third can be
handed over but not used. -/
theorem Outcome.indexUnavailable_iff (outcome : Outcome world config base result) :
    (∃ fault, result = .error (.indexUnavailable fault)) ↔
      AdmitsParent world config base ∧ AdmitsBlobs world config base ∧
        (config.resolvedIndex base).holdsNull = false ∧ ¬ AdmitsTables world config base := by
  cases outcome with
  | noParent fault blocked => simp [blocked]
  | blobsNull parent null => simp [not_admitsBlobs_of_holdsNull null]
  | noBlobs fault parent noNull blocked => simp [blocked]
  | indexNull parent blobs null => simp [null]
  | noIndex fault parent blobs noNull blocked => simp [parent, blobs, noNull, blocked]
  | opened coordinator parent blobs noNull tables => simp [tables]

/-- Opening ends as is said exactly when the first path can be used and no null character is met. -/
theorem Outcome.endsAsSaid_iff (outcome : Outcome world config base result) :
    EndsAsSaid result ↔
      AdmitsParent world config base ∧ (config.resolvedBlobs base).holdsNull = false ∧
        (AdmitsBlobs world config base → (config.resolvedIndex base).holdsNull = false) := by
  cases outcome with
  | noParent fault blocked => simp [Coordinator.endsAsSaid_iff, blocked]
  | blobsNull parent null => simp [Coordinator.endsAsSaid_iff, null]
  | noBlobs fault parent noNull blocked =>
    simp [Coordinator.endsAsSaid_iff, parent, noNull, blocked]
  | indexNull parent blobs null => simp [Coordinator.endsAsSaid_iff, blobs, null]
  | noIndex fault parent blobs noNull blocked =>
    simp [Coordinator.endsAsSaid_iff, parent, blobs.noNull, noNull]
  | opened coordinator parent blobs noNull tables =>
    simp [Coordinator.endsAsSaid_iff, parent, blobs.noNull, noNull]

/-- Opening that does not end as is said passes on a fault of the tree. -/
theorem Outcome.of_not_endsAsSaid (outcome : Outcome world config base result)
    (otherwise : ¬ EndsAsSaid result) : ∃ fault, result = .error (.file fault) := by
  cases outcome with
  | noParent fault blocked => exact ⟨fault, rfl⟩
  | blobsNull parent null => exact ⟨_, rfl⟩
  | noBlobs fault parent noNull blocked => exact absurd (.noStore fault) otherwise
  | indexNull parent blobs null => exact ⟨_, rfl⟩
  | noIndex fault parent blobs noNull blocked => exact absurd (.noIndex fault) otherwise
  | opened coordinator parent blobs noNull tables => exact absurd (.opened coordinator) otherwise

end

variable (world config base)

/-- How opening a depot ends, by what stands in the tree. It ends as is said unless something is in
the way of the folder of the index, or a path that is reached holds a null character; then it ends
with the fault that the tree reports. -/
structure EndsByTree : Prop where
  opens : (∃ coordinator, (openDepot world config base).1 = .ok coordinator) ↔
    AdmitsParent world config base ∧ AdmitsBlobs world config base ∧
      (config.resolvedIndex base).holdsNull = false ∧ AdmitsTables world config base
  noStore : (∃ fault, (openDepot world config base).1 = .error (.storeUnavailable fault)) ↔
    AdmitsParent world config base ∧ ¬ AdmitsBlobs world config base ∧
      (config.resolvedBlobs base).holdsNull = false
  noIndex : (∃ fault, (openDepot world config base).1 = .error (.indexUnavailable fault)) ↔
    AdmitsParent world config base ∧ AdmitsBlobs world config base ∧
      (config.resolvedIndex base).holdsNull = false ∧ ¬ AdmitsTables world config base
  said : EndsAsSaid (openDepot world config base).1 ↔
    AdmitsParent world config base ∧ (config.resolvedBlobs base).holdsNull = false ∧
      (AdmitsBlobs world config base → (config.resolvedIndex base).holdsNull = false)
  otherwise : ¬ EndsAsSaid (openDepot world config base).1 →
    ∃ fault, (openDepot world config base).1 = .error (.file fault)

variable {world config base}

/-- Opening a depot whose numbers are positive ends with a depot or with a failure of the taxonomy
exactly when the folder of the index can be made and no null character is met; in every case what
stands in the tree says which of them it is. -/
theorem openDepot_endsByTree (pageSize : 1 ≤ config.defaultPageSize)
    (concurrency : 1 ≤ config.fetchConcurrency) : EndsByTree world config base := by
  have outcome : Outcome world config base (openDepot world config base).1 :=
    outcome_openDepot pageSize concurrency
  exact ⟨outcome.opened_iff, outcome.storeUnavailable_iff, outcome.indexUnavailable_iff,
    outcome.endsAsSaid_iff, outcome.of_not_endsAsSaid⟩

end

/-- A tree with a file where settings say that a folder is. -/
def fileInTheWay : World := ⟨⟨[(["blobs"], .file (.bytes [120]))]⟩, [], 0, []⟩

/-- Settings with the folder of the payloads beside the data folder. -/
def besideSettings : Config :=
  { Session.fileSettings with blobFolder := ⟨.relative, ["blobs"]⟩ }

/-- A file where the payloads should be kept puts the store out of reach. -/
theorem openDepot_endsByTree_fileInTheWay :
    1 ≤ besideSettings.defaultPageSize ∧ 1 ≤ besideSettings.fetchConcurrency ∧
      EndsByTree fileInTheWay besideSettings none ∧
      (openDepot fileInTheWay besideSettings none).1 = .error (.storeUnavailable
        (.cannotCreate ⟨.relative, ["blobs"]⟩ (.problem .occupied "blobs"))) :=
  ⟨by decide, by decide, openDepot_endsByTree (by decide) (by decide), rfl⟩

/-- A file where the index should have its folder is reported as a fault of the tree: opening does
not end as is said. -/
theorem not_endsAsSaid_fileInTheWay :
    ∃ config : Config, 1 ≤ config.defaultPageSize ∧ 1 ≤ config.fetchConcurrency ∧
      ¬ EndsAsSaid (openDepot fileInTheWay config none).1 := by
  refine ⟨{ Session.fileSettings with indexPath := ⟨.relative, ["blobs", "index"]⟩ }, by decide,
    by decide, fun said => ?_⟩
  have passedOn : (openDepot fileInTheWay
      { Session.fileSettings with indexPath := ⟨.relative, ["blobs", "index"]⟩ } none).1 =
        .error (.file (.problem .occupied "blobs")) := rfl
  rw [passedOn] at said
  cases said

end Depot.Coordinator
