import Depot.Proofs.Storing
import Depot.Proofs.Ways

/-!
# Storing does all or nothing

Whatever stands in the tree and whichever steps are made to fail: storing that fails leaves every
file as it was, and storing that succeeds adds the file of the payload alone, where nothing stood.
At every moment the place of the payload holds what it held before or the whole payload.

A tree does not have to be one that storing has made. It has to be well-formed, and the path of the
store has to lead to the store or not to lead up.
-/

namespace Depot

namespace FileTree

section

variable {tree : FileTree} {location start : Location} {names : List String}

/-- In a well-formed tree the folders in which an entry lies stand. -/
theorem WellFormed.at?_of_append (wellFormed : tree.WellFormed) (nonempty : names ≠ [])
    (stands : tree.at? (location ++ names) ≠ none) : tree.at? location = some .folder := by
  induction names using List.reverseRecOn with
  | nil => exact absurd rfl nonempty
  | append_singleton names name inductionHypothesis =>
    rw [← List.append_assoc] at stands
    have notRoot : location ++ names ++ [name] ≠ [] := by simp
    obtain ⟨entry, found⟩ := Option.ne_none_iff_exists'.mp stands
    rw [at?, if_neg notRoot] at found
    have inFolder := wellFormed.inFolder _ (mem_of_valueOf? found)
    rw [List.dropLast_concat] at inFolder
    by_cases last : names = []
    · rwa [last, List.append_nil] at inFolder
    · exact inductionHypothesis last (by simp [inFolder])

/-- In a well-formed tree names that do not lead up lead to an entry, unless one is too long. -/
theorem WellFormed.follow (wellFormed : tree.WellFormed) (noUp : ".." ∉ names)
    (stands : tree.at? (start ++ names) ≠ none) :
    tree.follow start names = .ok (start ++ names) ∨
      tree.follow start names = .error .nameTooLong := by
  induction names generalizing start with
  | nil => simp [FileTree.follow]
  | cons name rest inductionHypothesis =>
    simp only [List.mem_cons, not_or] at noUp
    rw [FileTree.follow, wellFormed.at?_of_append (List.cons_ne_nil _ _) stands]
    dsimp only
    split
    · exact .inr rfl
    · rw [if_neg (Ne.symm noUp.1)]
      have further : tree.at? (start ++ [name] ++ rest) ≠ none := by simpa using stands
      simpa using inductionHypothesis noUp.2 further

end
end FileTree

namespace BlobStore

/-- The path of a store leads to its folder, which need not stand, or does not lead up. -/
def Reaches (blobs : BlobStore) : Prop :=
  (∃ home, blobs.tree.locate blobs.working blobs.root = .ok home) ∨ ".." ∉ blobs.root.names

/-- The location of the folder of a store. -/
def home (blobs : BlobStore) : Location := blobs.root.place blobs.working

section

variable {blobs : BlobStore} {hash : String} {payload : List UInt8}

/-- The names of a digest lead to its place. -/
theorem place_pathOf (isDigits : IsDigits hash) :
    (blobs.pathOf hash).place blobs.working = place blobs.home hash := by
  simp [pathOf, shard, place, home, FileTree.onward, isDigits.isPlain.notUp,
    isDigits.shardName.isPlain.notUp]

/-- The names of its folder lead to the folder of a digest. -/
theorem place_shard (isDigits : IsDigits hash) :
    (blobs.shard hash).place blobs.working = shardPlace blobs.home hash := by
  simp [shard, shardPlace, home, FileTree.onward, isDigits.shardName.isPlain.notUp]

/-- Nothing that is missing on the way to the folder of a digest is missing at its place. -/
theorem not_passes_place (reaches : blobs.Reaches) (isDigits : IsDigits hash)
    (noFolder : blobs.tree.at? (place blobs.home hash) ≠ some .folder) :
    ¬ (blobs.shard hash).Passes blobs.working (place blobs.home hash) := by
  intro passes
  rcases Path.passes_child_iff.mp passes with ⟨names, within, here⟩ | here
  · rcases reaches with ⟨home, led⟩ | noUp
    · obtain ⟨isHome, -, -, stand⟩ := FileTree.locate_eq_ok_iff.mp led
      by_cases whole : names = blobs.root.names
      · rw [whole] at here
        have same : blobs.home = place blobs.home hash := here
        simpa [place] using congrArg List.length same
      · exact noFolder (here ▸ stand names within whole)
    · have shorter := within.length_le
      have noUpWithin : ".." ∉ names := fun member => noUp (within.subset member)
      rw [FileTree.destination_of_not_mem noUpWithin, place, home, Path.place,
        FileTree.destination_of_not_mem noUp] at here
      have longer := congrArg List.length here
      simp only [List.length_append, List.length_cons, List.length_nil] at longer
      omega
  · exact shardPlace_ne_place blobs.home hash hash ((place_shard isDigits).symm.trans here)

/-- Making the folder of a digest changes nothing at its place. -/
theorem at?_place_of_ensureFolders {made : FileTree} (reaches : blobs.Reaches)
    (isDigits : IsDigits hash)
    (makes : blobs.tree.ensureFolders blobs.working (blobs.shard hash) = .ok made) :
    made.at? (place blobs.home hash) = blobs.tree.at? (place blobs.home hash) := by
  rcases (FileTree.of_ensureFolders makes).1 (place blobs.home hash) with same | ⟨free, stands⟩
  · exact same
  · exact FileTree.at?_ensureFolders makes
      (not_passes_place reaches isDigits (by simp [free]))

/-- What is put under a temporary name in the folder of a digest is not at the place of the
digest. -/
theorem at?_place_of_holdsTemporary {made tree : FileTree} {location : Location} {number : Nat}
    {data : List UInt8} (isDigits : IsDigits hash)
    (temporary : HoldsTemporary made blobs.working
      ((blobs.shard hash).child (numberedName number)) location data tree) :
    tree.at? (place blobs.home hash) = made.at? (place blobs.home hash) := by
  have here := FileTree.place_of_locate temporary.led
  rw [Path.place_child, place_shard isDigits, FileTree.onward, if_neg (numberedName_ne_up number)]
    at here
  rw [temporary.changed, Function.update_of_ne]
  rw [← here, place_eq]
  intro same
  have named : hash = numberedName number := by simpa using same
  exact isDigits.not_isTemporary (named ▸ isTemporary_numberedName number)

/-- The path of a digest at whose place anything stands leads there, unless it is too long. -/
theorem locate_pathOf (wellFormed : blobs.tree.WellFormed) (reaches : blobs.Reaches)
    (isDigits : IsDigits hash) (stands : blobs.tree.at? (place blobs.home hash) ≠ none) :
    blobs.tree.locate blobs.working (blobs.pathOf hash) = .ok (place blobs.home hash) ∨
      blobs.tree.locate blobs.working (blobs.pathOf hash) = .error .nameTooLong := by
  have noUp : ".." ∉ [shardName hash, hash] := by
    simp [Ne.symm isDigits.isPlain.notUp, Ne.symm isDigits.shardName.isPlain.notUp]
  have names : (blobs.pathOf hash).names = blobs.root.names ++ [shardName hash, hash] := by
    simp [pathOf, shard, Path.child]
  rw [FileTree.locate]
  split
  · exact .inr rfl
  · change blobs.tree.follow (blobs.root.start blobs.working) _ = _ ∨
      blobs.tree.follow (blobs.root.start blobs.working) _ = _
    rw [names]
    rcases reaches with ⟨home, led⟩ | noUpRoot
    · obtain ⟨-, -, shortNames, stand⟩ := FileTree.locate_eq_ok_iff.mp led
      have followed : blobs.tree.follow (blobs.root.start blobs.working) blobs.root.names =
          .ok blobs.home := FileTree.follow_eq_ok_iff.mpr ⟨rfl, shortNames, stand⟩
      rw [FileTree.follow_append, followed]
      exact wellFormed.follow noUp stands
    · have isPlace : blobs.root.start blobs.working ++ (blobs.root.names ++
          [shardName hash, hash]) = place blobs.home hash := by
        simp [place, home, Path.place, FileTree.destination_of_not_mem noUpRoot]
      rw [← isPlace] at stands ⊢
      refine wellFormed.follow ?_ stands
      rw [List.mem_append, not_or]
      exact ⟨noUpRoot, noUp⟩

/-- Where examining the path of a digest finds nothing, nothing stands at its place. -/
theorem at?_place_of_examine (wellFormed : blobs.tree.WellFormed) (reaches : blobs.Reaches)
    (isDigits : IsDigits hash)
    (examined : blobs.tree.examine blobs.working (blobs.pathOf hash) = .ok none) :
    blobs.tree.at? (place blobs.home hash) = none := by
  by_contra stands
  rw [FileTree.examine] at examined
  rcases locate_pathOf wellFormed reaches isDigits stands with led | long
  · rw [FileTree.look_eq_ok_iff.mpr ⟨led, rfl⟩] at examined
    exact stands (Except.ok.inj examined)
  · rw [FileTree.look, long] at examined
    cases examined

/-- A payload that is put where nothing stood is one more file, and the others stay. -/
theorem PutsPayload.file_iff {before made after : FileTree} {working location : Location}
    {path : Path} (puts : PutsPayload before working path payload made location after)
    (free : before.at? location = none) (other : Location) (content : Content) :
    after.at? other = some (.file content) ↔
      other = location ∧ content = .bytes payload ∨ before.at? other = some (.file content) := by
  rw [puts.changed]
  by_cases here : other = location
  · subst here
    simp [free, eq_comm]
  · simp [here, puts.gains.file_iff]

/-- After each step of writing a payload its place holds what it held before or the payload. -/
theorem at?_place_of_mem_writeSteps (reaches : blobs.Reaches) (planned : PlannedFaults)
    {hash : String} (isDigits : IsDigits hash) {tree : FileTree}
    (member : tree ∈ (blobs.writeSteps planned hash payload).1) :
    tree.at? (place blobs.home hash) = blobs.tree.at? (place blobs.home hash) ∨
      tree.at? (place blobs.home hash) = some (.file (.bytes payload)) := by
  have goes := blobs.goes_writeSteps planned hash payload
  revert goes member
  rcases blobs.writeSteps planned hash payload with ⟨trees, fault⟩
  intro member goes
  have unchanged {made : FileTree}
      (makes : blobs.tree.ensureFolders blobs.working (blobs.shard hash) = .ok made) :
      made.at? (place blobs.home hash) = blobs.tree.at? (place blobs.home hash) :=
    at?_place_of_ensureFolders reaches isDigits makes
  cases goes with
  | unmade fault => cases member
  | uncreated fault makes =>
    rw [List.mem_singleton] at member
    subst member
    exact .inl (unchanged makes)
  | unwritten number fault makes creates =>
    left
    rw [← unchanged makes]
    simp only [List.mem_cons, List.not_mem_nil, or_false] at member
    rcases member with rfl | rfl | rfl
    · rfl
    · exact at?_place_of_holdsTemporary isDigits creates
    · rw [creates.at?_removeFile]
  | unrenamed number fault makes creates writes =>
    left
    rw [← unchanged makes]
    simp only [List.mem_cons, List.not_mem_nil, or_false] at member
    rcases member with rfl | rfl | rfl | rfl
    · rfl
    · exact at?_place_of_holdsTemporary isDigits creates
    · exact at?_place_of_holdsTemporary isDigits writes
    · rw [writes.at?_removeFile]
  | renamed number calm makes creates writes renames =>
    simp only [List.mem_cons, List.not_mem_nil, or_false] at member
    rcases member with rfl | rfl | rfl | rfl
    · exact .inl (unchanged makes)
    · exact .inl ((at?_place_of_holdsTemporary isDigits creates).trans (unchanged makes))
    · exact .inl ((at?_place_of_holdsTemporary isDigits writes).trans (unchanged makes))
    · obtain ⟨location, led, -, changed⟩ := writes.rename renames
      have isPlace := (FileTree.place_of_locate led).symm.trans (place_pathOf isDigits)
      right
      rw [changed, isPlace, Function.update_self]

/-- The steps of writing a payload leave no new folder off the way to the folder of the digest. -/
theorem passes_of_writeSteps (planned : PlannedFaults) (payload : List UInt8)
    {location : Location}
    (isFolder : (lastTree blobs.tree (blobs.writeSteps planned hash payload).1).at? location =
      some .folder) :
    blobs.tree.at? location = some .folder ∨
      (blobs.shard hash).Passes blobs.working location := by
  have goes := blobs.goes_writeSteps planned hash payload
  revert goes isFolder
  rcases blobs.writeSteps planned hash payload with ⟨trees, fault⟩
  intro isFolder goes
  have ofMade {made : FileTree}
      (makes : blobs.tree.ensureFolders blobs.working (blobs.shard hash) = .ok made)
      (stands : made.at? location = some .folder) :
      blobs.tree.at? location = some .folder ∨
        (blobs.shard hash).Passes blobs.working location := by
    by_contra neither
    rw [not_or] at neither
    exact neither.1 ((FileTree.at?_ensureFolders makes neither.2).symm.trans stands)
  cases goes with
  | unmade fault => exact .inl isFolder
  | uncreated fault makes => exact ofMade makes isFolder
  | unwritten number fault makes creates =>
    refine ofMade makes ?_
    rw [← creates.at?_removeFile]
    exact isFolder
  | unrenamed number fault makes creates writes =>
    refine ofMade makes ?_
    rw [← writes.at?_removeFile]
    exact isFolder
  | renamed number calm makes creates writes renames =>
    obtain ⟨place, -, -, changed⟩ := writes.rename renames
    refine ofMade makes ?_
    have stands := (congrFun changed location).symm.trans isFolder
    rw [Function.update_apply] at stands
    split at stands
    · cases stands
    · exact stands

/-- Storing a payload makes no new folder off the way to the folder of its digest. -/
theorem passes_of_store {planned : PlannedFaults} {location : Location}
    (isFolder : (blobs.store planned payload).2.tree.at? location = some .folder) :
    blobs.tree.at? location = some .folder ∨
      (blobs.shard (Sha256.hexDigest payload)).Passes blobs.working location := by
  rw [store] at isFolder
  split at isFolder
  · exact .inl isFolder
  · exact .inl isFolder
  · refine passes_of_writeSteps planned payload ?_
    revert isFolder
    rcases blobs.writeSteps planned (Sha256.hexDigest payload) payload with ⟨trees, _ | fault⟩
    · exact id
    · exact id

end

/-- What storing a payload promises, whichever of its steps are made to fail: a failure of a step
puts the store out of reach, a failure leaves every file as it was, a success adds the file of the
payload alone if nothing was found at its path, and nothing else is ever at its place. -/
structure AllOrNothing (blobs : BlobStore) (planned : PlannedFaults) (payload : List UInt8) :
    Prop where
  failing : ∀ step, planned step ≠ none →
    blobs.tree.examine blobs.working (blobs.pathOf (Sha256.hexDigest payload)) = .ok none →
    ∃ fault, (blobs.store planned payload).1 =
      .error (.storeUnavailable (.cannotWrite (Sha256.hexDigest payload) fault))
  unavailable : ∀ failure, (blobs.store planned payload).1 = .error failure →
    (∃ fault, failure = .storeUnavailable (.cannotWrite (Sha256.hexDigest payload) fault)) ∨
      ∃ fault, failure = .file fault ∧ (blobs.store planned payload).2 = blobs ∧
        blobs.tree.examine blobs.working (blobs.pathOf (Sha256.hexDigest payload)) = .error fault
  nothing : ∀ failure, (blobs.store planned payload).1 = .error failure →
    ∀ location content, (blobs.store planned payload).2.tree.at? location =
      some (.file content) ↔ blobs.tree.at? location = some (.file content)
  all : ∀ hash, (blobs.store planned payload).1 = .ok hash →
    hash = Sha256.hexDigest payload ∧
      ((∃ entry, blobs.tree.examine blobs.working (blobs.pathOf hash) = .ok (some entry)) ∧
          (blobs.store planned payload).2 = blobs ∨
        blobs.tree.at? (place blobs.home hash) = none ∧
          ∀ location content, (blobs.store planned payload).2.tree.at? location =
              some (.file content) ↔
            location = place blobs.home hash ∧ content = .bytes payload ∨
              blobs.tree.at? location = some (.file content))
  always : ∀ tree ∈ (blobs.writeSteps planned (Sha256.hexDigest payload) payload).1,
    tree.at? (place blobs.home (Sha256.hexDigest payload)) =
        blobs.tree.at? (place blobs.home (Sha256.hexDigest payload)) ∨
      tree.at? (place blobs.home (Sha256.hexDigest payload)) = some (.file (.bytes payload))

section

variable {blobs : BlobStore} {planned : PlannedFaults} {payload : List UInt8}
  {outcome : Except Failure String × BlobStore}

/-- Where nothing is found, a step that is made to fail puts the store out of reach. -/
theorem Ends.exists_fault (ends : blobs.Ends planned payload outcome) {step : WriteStep}
    (fails : planned step ≠ none)
    (vacant : blobs.tree.examine blobs.working (blobs.pathOf (Sha256.hexDigest payload)) =
      .ok none) :
    ∃ fault, outcome.1 =
      .error (.storeUnavailable (.cannotWrite (Sha256.hexDigest payload) fault)) := by
  cases ends with
  | unexamined fault examined => simp [examined] at vacant
  | found entry examined => simp [examined] at vacant
  | failed fault examined gains => exact ⟨fault, rfl⟩
  | written examined calm puts => exact absurd (calm step) fails

/-- Storing fails because the store is out of reach, or because its path cannot be examined. -/
theorem Ends.of_error (ends : blobs.Ends planned payload outcome) {failure : Failure}
    (failed : outcome.1 = .error failure) :
    (∃ fault, failure = .storeUnavailable (.cannotWrite (Sha256.hexDigest payload) fault)) ∨
      ∃ fault, failure = .file fault ∧ outcome.2 = blobs ∧
        blobs.tree.examine blobs.working (blobs.pathOf (Sha256.hexDigest payload)) =
          .error fault := by
  cases ends with
  | unexamined fault examined =>
    cases failed
    exact .inr ⟨fault, rfl, rfl, examined⟩
  | found entry examined => cases failed
  | failed fault examined gains =>
    cases failed
    exact .inl ⟨fault, rfl⟩
  | written examined calm puts => cases failed

/-- A failure leaves the files that there were. -/
theorem Ends.file_iff_of_error (ends : blobs.Ends planned payload outcome) {failure : Failure}
    (failed : outcome.1 = .error failure) (location : Location) (content : Content) :
    outcome.2.tree.at? location = some (.file content) ↔
      blobs.tree.at? location = some (.file content) := by
  cases ends with
  | unexamined fault examined => rfl
  | found entry examined => rfl
  | failed fault examined gains => exact gains.file_iff location content
  | written examined calm puts => cases failed

/-- A success finds something at the path of the payload, or adds the file of the payload alone. -/
theorem Ends.of_ok (ends : blobs.Ends planned payload outcome)
    (wellFormed : blobs.tree.WellFormed) (reaches : blobs.Reaches) {hash : String}
    (stored : outcome.1 = .ok hash) :
    hash = Sha256.hexDigest payload ∧
      ((∃ entry, blobs.tree.examine blobs.working (blobs.pathOf hash) = .ok (some entry)) ∧
          outcome.2 = blobs ∨
        blobs.tree.at? (place blobs.home hash) = none ∧
          ∀ location content, outcome.2.tree.at? location = some (.file content) ↔
            location = place blobs.home hash ∧ content = .bytes payload ∨
              blobs.tree.at? location = some (.file content)) := by
  have isDigits := isDigits_hexDigest payload
  cases ends with
  | unexamined fault examined => cases stored
  | found entry examined =>
    cases stored
    exact ⟨rfl, .inl ⟨⟨entry, examined⟩, rfl⟩⟩
  | failed fault examined gains => cases stored
  | written examined calm puts =>
    cases stored
    have isPlace := (FileTree.place_of_locate puts.led).symm.trans (place_pathOf isDigits)
    have free := at?_place_of_examine wellFormed reaches isDigits examined
    rw [isPlace] at puts
    exact ⟨rfl, .inr ⟨free, puts.file_iff free⟩⟩

/-- Storing a payload does all or nothing, whichever of its steps are made to fail, in any
well-formed tree. -/
theorem store_allOrNothing (wellFormed : blobs.tree.WellFormed) (reaches : blobs.Reaches)
    (planned : PlannedFaults) (payload : List UInt8) : blobs.AllOrNothing planned payload := by
  have ends := blobs.ends_store planned payload
  constructor
  · intro step fails vacant
    exact ends.exists_fault fails vacant
  · intro failure failed
    exact ends.of_error failed
  · intro failure failed
    exact ends.file_iff_of_error failed
  · intro hash stored
    exact ends.of_ok wellFormed reaches stored
  · intro tree member
    exact at?_place_of_mem_writeSteps reaches planned (isDigits_hexDigest payload) member

end

/-- The tree of a store in which nothing has been stored. -/
def emptyFolder : FileTree := ⟨[(["payloads"], .folder)]⟩

/-- When renaming alone fails, the payload leaves no file. -/
theorem store_allOrNothing_renaming :
    FileTree.WellFormed emptyFolder ∧
      Reaches ⟨emptyFolder, [], ⟨.relative, ["payloads"]⟩⟩ ∧
      AllOrNothing ⟨emptyFolder, [], ⟨.relative, ["payloads"]⟩⟩
        (fun step => if step = .rename then some (.reported "no space") else none) [120] ∧
      ∃ fault, (store ⟨emptyFolder, [], ⟨.relative, ["payloads"]⟩⟩
        (fun step => if step = .rename then some (.reported "no space") else none) [120]).1 =
          .error (.storeUnavailable (.cannotWrite (Sha256.hexDigest [120]) fault)) := by
  have wellFormed : emptyFolder.WellFormed := ⟨by decide, by decide, by decide⟩
  have reaches : Reaches ⟨emptyFolder, [], ⟨.relative, ["payloads"]⟩⟩ := .inr (by decide)
  have whole := store_allOrNothing wellFormed reaches
    (fun step => if step = .rename then some (.reported "no space") else none) [120]
  exact ⟨wellFormed, reaches, whole, whole.failing .rename (by decide) (by decide +kernel)⟩

end BlobStore
end Depot
