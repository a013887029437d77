import Depot.Proofs.Payloads

/-!
# What storing promises

After any run of storing, which may fail at any step, and of files being taken away, a store has
nothing but the files of payloads below its folder, each at its digest. A payload that has been
stored can be fetched until its file is taken away, and stored once more after that.
-/

namespace Depot

/-- What happens to a store: a payload is stored, with some steps made to fail, or the file of a
payload is taken away from outside. -/
inductive BlobEvent where
  | store (planned : PlannedFaults) (payload : List UInt8)
  | lose (payload : List UInt8)

/-- The payload that an event hands over. -/
def BlobEvent.given? : BlobEvent → Option (List UInt8)
  | .store _ payload => some payload
  | .lose _ => none

/-- Whether no file of a digest is taken away. -/
def BlobEvent.Spares (hash : String) (events : List BlobEvent) : Prop :=
  ∀ lost, .lose lost ∈ events → Sha256.hexDigest lost ≠ hash

namespace BlobStore

/-- The store after an event, whether storing succeeds or fails. -/
def perform (blobs : BlobStore) : BlobEvent → BlobStore
  | .store planned payload => (blobs.store planned payload).2
  | .lose payload =>
    { blobs with
      tree := blobs.tree.removeFile blobs.working (blobs.pathOf (Sha256.hexDigest payload)) }

/-- The store after events. -/
def run (blobs : BlobStore) (events : List BlobEvent) : BlobStore := events.foldl perform blobs

/-- The payloads that are kept after an event. -/
def keptAfter (blobs : BlobStore) (kept : List (List UInt8)) : BlobEvent → List (List UInt8)
  | .store planned payload =>
    if (blobs.store planned payload).1.isOk then payload :: kept else kept
  | .lose payload =>
    kept.filter fun other => Sha256.hexDigest other ≠ Sha256.hexDigest payload

section

variable {blobs : BlobStore} {home : Location} {kept : List (List UInt8)}

/-- Every event leaves a store that keeps its payloads. -/
theorem Keeps.perform (keeps : blobs.Keeps home kept) (event : BlobEvent) :
    (blobs.perform event).Keeps home (blobs.keptAfter kept event) := by
  cases event with
  | store planned payload => exact keeps.store planned payload
  | lose payload => exact keeps.removeFile (isDigits_hexDigest payload)

/-- The payloads that are kept after an event were kept before or have been handed over. -/
theorem of_mem_keptAfter {event : BlobEvent} {payload : List UInt8}
    (member : payload ∈ blobs.keptAfter kept event) :
    payload ∈ kept ∨ event.given? = some payload := by
  cases event with
  | store planned given =>
    rw [keptAfter] at member
    split at member
    · rcases List.mem_cons.mp member with rfl | before
      · exact .inr rfl
      · exact .inl before
    · exact .inl member
  | lose lost => exact .inl (List.mem_of_mem_filter member)

/-- A payload is kept until a file of its digest is taken away. -/
theorem mem_keptAfter {event : BlobEvent} {payload : List UInt8} (member : payload ∈ kept)
    (spared : BlobEvent.Spares (Sha256.hexDigest payload) [event]) :
    payload ∈ blobs.keptAfter kept event := by
  cases event with
  | store planned given =>
    rw [keptAfter]
    split
    · exact List.mem_cons_of_mem given member
    · exact member
  | lose lost =>
    refine List.mem_filter.mpr ⟨member, ?_⟩
    rw [decide_eq_true_eq]
    exact Ne.symm (spared lost List.mem_cons_self)

/-- Events leave a store that keeps what it kept and was not taken away, and nothing that was not
handed over. -/
theorem Keeps.run (keeps : blobs.Keeps home kept) (events : List BlobEvent) :
    ∃ left, (blobs.run events).Keeps home left ∧
      (∀ payload ∈ left, payload ∈ kept ++ events.filterMap BlobEvent.given?) ∧
      ∀ payload ∈ kept, BlobEvent.Spares (Sha256.hexDigest payload) events → payload ∈ left := by
  induction events generalizing blobs kept with
  | nil =>
    exact ⟨kept, keeps, fun payload member => List.mem_append_left _ member,
      fun payload member _ => member⟩
  | cons event rest inductionHypothesis =>
    obtain ⟨left, keepsLeft, fromBefore, spares⟩ := inductionHypothesis (keeps.perform event)
    refine ⟨left, keepsLeft, ?_, ?_⟩
    · intro payload member
      rw [List.filterMap_cons]
      rcases List.mem_append.mp (fromBefore payload member) with before | later
      · rcases of_mem_keptAfter before with first | given
        · exact List.mem_append_left _ first
        · rw [given]
          exact List.mem_append_right _ List.mem_cons_self
      · cases event.given? with
        | none => exact List.mem_append_right _ later
        | some given => exact List.mem_append_right _ (List.mem_cons_of_mem given later)
    · intro payload member spared
      refine spares payload (mem_keptAfter member ?_) ?_
      · intro lost first
        rw [List.mem_singleton] at first
        exact spared lost (first ▸ List.mem_cons_self)
      · intro lost later
        exact spared lost (List.mem_cons_of_mem event later)

/-- Events leave the folder of the store where it is. -/
theorem root_run (blobs : BlobStore) (events : List BlobEvent) :
    (blobs.run events).root = blobs.root := by
  induction events generalizing blobs with
  | nil => rfl
  | cons event rest inductionHypothesis =>
    have same : (blobs.perform event).root = blobs.root := by
      cases event with
      | store planned payload => rw [perform, store_snd]
      | lose payload => rfl
    exact (inductionHypothesis (blobs.perform event)).trans same

end

/-- A store gives a payload with a hash back: the payload that was stored, if none of the payloads
that it was given has the same digest. -/
def GivesBack (blobs : BlobStore) (given : List (List UInt8)) (hash : String)
    (payload : List UInt8) : Prop :=
  ∃ fetched, blobs.fetch (.text hash) = .ok fetched ∧ Sha256.hexDigest fetched = hash ∧
    ((∀ other ∈ given, Sha256.hexDigest other = hash → other = payload) → fetched = payload)

/-- What a store promises after payloads have been given to it: where its files lie, that what it
gives for a hash has that digest, that a stored payload can be fetched until it is taken away and
stored once more after that, and what it answers about a hash. -/
structure KeepsPromises (blobs : BlobStore) (home : Location) (given : List (List UInt8)) :
    Prop where
  layout : ∀ names content, names ≠ [] → blobs.tree.at? (home ++ names) = some (.file content) →
    ∃ payload hash, content = .bytes payload ∧ hash = Sha256.hexDigest payload ∧
      hash.toList.length = 64 ∧ (∀ digit ∈ hash.toList, Hex.isLowerDigit digit = true) ∧
      names = [String.ofList (hash.toList.take 2), hash]
  noTemporary : ∀ names name, blobs.tree.at? (home ++ names ++ [name]) ≠ none → ¬ IsTemporary name
  authentic : ∀ (hash : Text) payload, blobs.fetch (.text hash) = .ok payload →
    hash = Sha256.hexDigest payload
  named : ∀ planned payload hash, (blobs.store planned payload).1 = .ok hash →
    hash = Sha256.hexDigest payload ∧ Sha256.isHexDigest hash = true
  lasting : ∀ planned payload hash, (blobs.store planned payload).1 = .ok hash →
    ∀ later, BlobEvent.Spares hash later →
      ((blobs.store planned payload).2.run later).GivesBack
        (given ++ later.filterMap BlobEvent.given?) hash payload
  again : ∀ planned payload hash, (blobs.store planned payload).1 = .ok hash →
    ∀ later, BlobEvent.Spares hash later → ∀ plannedAgain,
      ((blobs.store planned payload).2.run later).store plannedAgain payload =
        (.ok hash, (blobs.store planned payload).2.run later)
  restored : ∀ planned payload hash, (blobs.store planned payload).1 = .ok hash → ∀ later,
    (((blobs.store planned payload).2.run later).store (fun _ => none) payload).1 = .ok hash ∧
      (((blobs.store planned payload).2.run later).store (fun _ => none) payload).2.GivesBack
        (given ++ later.filterMap BlobEvent.given?) hash payload
  held : ∀ hash : Text,
    blobs.holds hash = .ok true ↔ ∃ payload, blobs.fetch (.text hash) = .ok payload
  otherwise : ∀ hash : Text, (∀ payload, blobs.fetch (.text hash) ≠ .ok payload) →
    (blobs.fetch (.text hash) = .error (.notFound (.payload (.text hash))) ∧
        blobs.holds hash = .ok false) ∨
      ∃ (digest : String) (fault : FileFault), hash = digest ∧
        ¬ (blobs.pathOf digest).IsShort ∧
        blobs.fetch (.text hash) = .error (.storeUnavailable (.cannotRead digest fault)) ∧
        blobs.holds hash = .error (.file fault)

section

variable {blobs : BlobStore} {home : Location} {kept given : List (List UInt8)}

/-- A payload that was kept, or is stored, or is given later. -/
theorem of_mem_cons_append {later : List (List UInt8)} {payload other : List UInt8}
    (fromGiven : kept ⊆ given) (member : other ∈ payload :: kept ++ later) :
    other = payload ∨ other ∈ given ++ later := by
  rcases List.mem_append.mp member with before | after
  · exact (List.mem_cons.mp before).imp_right fun earlier =>
      List.mem_append_left later (fromGiven earlier)
  · exact .inr (List.mem_append_right given after)

/-- A store that was opened in an empty folder keeps no payloads. -/
theorem keeps_of_openAt {tree made : FileTree} {working : Location} {root : Path}
    (opened : openAt tree working root = (.ok blobs, made))
    (located : made.locate working root = .ok home)
    (new : ∀ names, names ≠ [] → made.at? (home ++ names) = none) : blobs.Keeps home [] := by
  rw [openAt] at opened
  split at opened
  · rename_i folders
    cases opened
    obtain ⟨noNull, -, isFolder⟩ := FileTree.of_makeFolders folders
    obtain ⟨location, stands⟩ := FileTree.isFolder_iff.mp isFolder
    obtain ⟨led, -⟩ := FileTree.look_eq_ok_iff.mp stands
    rw [located] at led
    cases led
    refine ⟨noNull, stands, ?_, fun payload member => by cases member⟩
    intro names entry named found
    rw [new names named] at found
    cases found
  · cases opened
  · cases opened

/-- A kept payload is given back. -/
theorem Keeps.givesBack (keeps : blobs.Keeps home kept) {payload : List UInt8}
    (fromGiven : ∀ other ∈ kept, other = payload ∨ other ∈ given) (member : payload ∈ kept) :
    blobs.GivesBack given (Sha256.hexDigest payload) payload := by
  cases keeps.fetched (Sha256.hexDigest payload) with
  | found stored memberStored isHash fetched held =>
    have sameDigest := (Text.ofString_inj.mp isHash).symm
    refine ⟨stored, fetched, sameDigest, fun distinct => ?_⟩
    rcases fromGiven stored memberStored with same | fromOthers
    · exact same
    · exact distinct stored fromOthers sameDigest
  | missing absent fetched held => exact absurd rfl (absent payload member)
  | outOfReach digest isHash hexadecimal long absent fetched held =>
    exact absurd rfl (absent payload member)

/-- A store that keeps payloads that it was given keeps its promises. -/
theorem Keeps.keepsPromises (keeps : blobs.Keeps home kept) (fromGiven : kept ⊆ given) :
    blobs.KeepsPromises home given where
  layout := by
    intro names content named found
    cases keeps.nothingElse names _ named found with
    | shard hash isDigits isShard isFolder => cases isFolder
    | payload payload member isPlace isFile =>
      exact ⟨payload, _, FileEntry.file.inj isFile, rfl, Sha256.length_hexDigest payload,
        fun _ digit => Sha256.isLowerDigit_of_mem_hexDigest digit, isPlace⟩
  noTemporary := by
    intro names name found
    rw [List.append_assoc] at found
    exact keeps.not_isTemporary found (by simp)
  authentic := by
    intro hash payload answered
    cases keeps.fetched hash with
    | found stored member isHash fetched held =>
      rw [answered] at fetched
      cases fetched
      exact isHash
    | missing absent fetched held =>
      rw [answered] at fetched
      cases fetched
    | outOfReach digest isHash hexadecimal long absent fetched held =>
      rw [answered] at fetched
      cases fetched
  named := by
    intro planned payload hash done
    obtain ⟨rfl, -, -⟩ := keeps.of_store_ok done
    exact ⟨rfl, Sha256.isHexDigest_hexDigest payload⟩
  lasting := by
    intro planned payload hash done later spared
    obtain ⟨rfl, -, keepsAfter⟩ := keeps.of_store_ok done
    obtain ⟨left, keepsLeft, fromBefore, spares⟩ := keepsAfter.run later
    refine keepsLeft.givesBack ?_ (spares payload List.mem_cons_self spared)
    intro other member
    exact of_mem_cons_append fromGiven (fromBefore other member)
  again := by
    intro planned payload hash done later spared plannedAgain
    obtain ⟨rfl, -, keepsAfter⟩ := keeps.of_store_ok done
    obtain ⟨left, keepsLeft, -, spares⟩ := keepsAfter.run later
    exact keepsLeft.store_of_mem (spares payload List.mem_cons_self spared) plannedAgain
  restored := by
    intro planned payload hash done later
    obtain ⟨rfl, short, keepsAfter⟩ := keeps.of_store_ok done
    obtain ⟨left, keepsLeft, fromBefore, -⟩ := keepsAfter.run later
    have sameRoot : ((blobs.store planned payload).2.run later).root = blobs.root := by
      rw [root_run, store_snd]
    rw [pathOf, shard, ← sameRoot] at short
    have doneAgain := keepsLeft.store_of_calm short (fun _ => rfl)
    obtain ⟨-, -, keepsAgain⟩ := keepsLeft.of_store_ok doneAgain
    refine ⟨doneAgain, keepsAgain.givesBack ?_ List.mem_cons_self⟩
    intro other member
    rcases List.mem_cons.mp member with same | before
    · exact .inl same
    · exact of_mem_cons_append fromGiven (fromBefore other before)
  held := by
    intro hash
    cases keeps.fetched hash with
    | found stored member isHash fetched held => simp [fetched, held]
    | missing absent fetched held => simp [fetched, held]
    | outOfReach digest isHash hexadecimal long absent fetched held => simp [fetched, held]
  otherwise := by
    intro hash unanswered
    cases keeps.fetched hash with
    | found stored member isHash fetched held => exact absurd fetched (unanswered stored)
    | missing absent fetched held => exact .inl ⟨fetched, held⟩
    | outOfReach digest isHash hexadecimal long absent fetched held =>
      exact .inr ⟨digest, _, isHash, long, fetched, held⟩

/-- After any events, a store that was opened in an empty folder keeps its promises. -/
theorem run_keepsPromises {tree made : FileTree} {working : Location} {root : Path}
    (opened : openAt tree working root = (.ok blobs, made))
    (located : made.locate working root = .ok home)
    (new : ∀ names, names ≠ [] → made.at? (home ++ names) = none) (events : List BlobEvent) :
    (blobs.run events).KeepsPromises home (events.filterMap BlobEvent.given?) := by
  have keeps := keeps_of_openAt opened located new
  obtain ⟨left, keepsLeft, fromBefore, -⟩ := keeps.run events
  exact keepsLeft.keepsPromises fromBefore

end

/-- A folder in the working folder. -/
def payloadFolder : Path := ⟨.relative, ["payloads"]⟩

/-- A payload whose file cannot be renamed, and another one that is stored and taken away. -/
def refusedAndLost : List BlobEvent :=
  [.store (fun step => if step = .rename then some (.reported "disk full") else none) [1],
    .store (fun _ => none) [2], .lose [2]]

/-- A store in a new folder keeps its promises after a payload has been refused and another one has
been lost. -/
theorem run_keepsPromises_refusedAndLost :
    ∃ blobs made, openAt .empty [] payloadFolder = (.ok blobs, made) ∧
      made.locate [] payloadFolder = .ok ["payloads"] ∧
      (∀ names, names ≠ [] → made.at? (["payloads"] ++ names) = none) ∧
      (blobs.run refusedAndLost).KeepsPromises ["payloads"] [[1], [2]] := by
  have opened : openAt .empty [] payloadFolder = (.ok _, _) := rfl
  have new : ∀ names, names ≠ [] →
      (FileTree.mk [(["payloads"], .folder)]).at? (["payloads"] ++ names) = none := by
    intro names named
    simp [FileTree.at?, valueOf?, named]
  exact ⟨_, _, opened, rfl, new, run_keepsPromises opened rfl new refusedAndLost⟩

/-- The root, written with steps up that lead nowhere else, as many as a path can hold. -/
def manySteps : Path := ⟨.single, List.replicate 1364 ".."⟩

/-- Steps up stay at the root. -/
theorem follow_replicate (tree : FileTree) (count : Nat) :
    tree.follow [] (List.replicate count "..") = .ok [] := by
  induction count with
  | zero => rfl
  | succ count inductionHypothesis =>
    rw [List.replicate_succ, FileTree.follow, FileTree.at?, if_pos rfl]
    exact inductionHypothesis

/-- The number of bytes of steps up with slashes between them. -/
theorem utf8ByteSize_intercalate_replicate (count : Nat) :
    ("/".intercalate (List.replicate (count + 1) "..")).utf8ByteSize = 3 * count + 2 := by
  induction count with
  | zero => rfl
  | succ count inductionHypothesis =>
    rw [List.replicate_succ, List.replicate_succ, String.intercalate_cons_cons,
      ← List.replicate_succ, String.utf8ByteSize_append, String.utf8ByteSize_append,
      inductionHypothesis]
    change 2 + 1 + (3 * count + 2) = _
    omega

/-- The number of bytes of the root with many steps up. -/
theorem utf8ByteSize_text_manySteps : manySteps.text.utf8ByteSize = 4092 := by
  have text : manySteps.text = "/" ++ "/".intercalate (List.replicate (1363 + 1) "..") := rfl
  rw [text, String.utf8ByteSize_append, utf8ByteSize_intercalate_replicate]
  rfl

/-- Many steps up lead to the root. -/
theorem look_manySteps (tree : FileTree) :
    tree.look [] manySteps = .ok ([], some .folder) := by
  have led : tree.locate [] manySteps = .ok [] := by
    rw [FileTree.locate, utf8ByteSize_text_manySteps, if_neg (by decide)]
    exact follow_replicate tree 1364
  exact FileTree.look_eq_ok_iff.mpr ⟨led, if_pos rfl⟩

/-- The path with many steps up holds no null character. -/
theorem noNull_manySteps : manySteps.holdsNull = false := by
  rw [Path.holdsNull, manySteps, List.any_replicate]
  decide

/-- Many steps up are a folder that need not be made. -/
theorem makeFolders_manySteps (tree : FileTree) :
    tree.makeFolders [] manySteps = (tree, none) :=
  FileTree.makeFolders_of_isFolder noNull_manySteps
    (FileTree.isFolder_iff.mpr ⟨[], look_manySteps tree⟩)

/-- A store there has every digest out of reach. -/
theorem fetch_manySteps (tree : FileTree) (payload : List UInt8) :
    ∃ fault, fetch ⟨tree, [], manySteps⟩ (.text (Sha256.hexDigest payload)) =
      .error (.storeUnavailable fault) := by
  have isDigits := isDigits_hexDigest payload
  have noNull : (pathOf ⟨tree, [], manySteps⟩ (Sha256.hexDigest payload)).holdsNull = false := by
    rw [pathOf, Path.holdsNull_child, shard, Path.holdsNull_child, noNull_manySteps,
      isDigits.shardName.noNull, isDigits.noNull]
    rfl
  have long : ¬ (pathOf ⟨tree, [], manySteps⟩ (Sha256.hexDigest payload)).IsShort := by
    have named : manySteps.names ≠ [] := by
      rw [manySteps]
      exact List.cons_ne_nil _ _
    rw [Path.IsShort, pathOf, Path.text_child_of_names (by simp [shard, Path.child]), shard,
      Path.text_child_of_names named]
    simp only [String.utf8ByteSize_append, utf8ByteSize_text_manySteps, utf8ByteSize_hexDigest,
      FileTree.pathLimit]
    omega
  exact ⟨_, fetch_of_not_isShort (Sha256.isHexDigest_hexDigest payload) noNull long⟩

/-- Where a path of almost the greatest length leads to the folder of a store, a hash of which
nothing has been stored is not reported as missing: its path is too long. -/
theorem not_found_or_missing_manySteps :
    ∃ blobs made, openAt .empty [] manySteps = (.ok blobs, made) ∧
      (∀ names, names ≠ [] → made.at? names = none) ∧
      ¬ ∀ hash : Text, (∃ payload, blobs.fetch (.text hash) = .ok payload) ∨
        blobs.fetch (.text hash) = .error (.notFound (.payload (.text hash))) := by
  have opened : openAt .empty [] manySteps = (.ok ⟨.empty, [], manySteps⟩, .empty) := by
    rw [openAt, makeFolders_manySteps]
  have new : ∀ names, names ≠ [] → FileTree.empty.at? ([] ++ names) = none := by
    intro names named
    rw [List.nil_append, FileTree.at?, if_neg named]
    rfl
  refine ⟨_, _, opened, new, ?_⟩
  intro promise
  obtain ⟨fault, unreachable⟩ := fetch_manySteps .empty []
  rcases promise (Sha256.hexDigest []) with ⟨payload, fetched⟩ | missing
  · rw [unreachable] at fetched
    cases fetched
  · rw [unreachable] at missing
    cases missing

end BlobStore
end Depot
