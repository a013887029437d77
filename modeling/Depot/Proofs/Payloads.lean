import Depot.Proofs.Storing

/-!
# Kept payloads

A store that keeps payloads still does so after another payload has been stored, whether that
succeeds or fails, and after a file has been taken away. What it gives for a hash is a kept payload
with that digest, if there is one.
-/

namespace Depot.BlobStore

section

variable {blobs : BlobStore} {home : Location} {kept : List (List UInt8)} {hash : String}

/-- What a store has below its folder stays when it keeps more payloads. -/
theorem Holds.mono {more : List (List UInt8)} {names : List String} {entry : FileEntry}
    (holds : Holds kept names entry) (kept : kept ⊆ more) : Holds more names entry := by
  cases holds with
  | shard hash isDigits named isFolder => exact .shard hash isDigits named isFolder
  | payload payload member named isFile => exact .payload payload (kept member) named isFile

/-- A store keeps its payloads in a tree in which the same stands everywhere. -/
theorem Keeps.of_at?_eq (keeps : blobs.Keeps home kept) {after : FileTree}
    (same : after.at? = blobs.tree.at?) : Keeps { blobs with tree := after } home kept where
  noNull := keeps.noNull
  stands := FileTree.FoldersKept.look (fun _ found => by rw [same, found]) keeps.stands
  nothingElse := by
    rw [same]
    exact keeps.nothingElse
  present := by
    rw [same]
    exact keeps.present

/-- A store that has a file at the digest of a payload keeps that payload too. -/
theorem Keeps.cons (keeps : blobs.Keeps home kept) {payload : List UInt8}
    (short : (blobs.pathOf (Sha256.hexDigest payload)).IsShort)
    (occupied : blobs.tree.at? (place home (Sha256.hexDigest payload)) ≠ none) :
    blobs.Keeps home (payload :: kept) where
  noNull := keeps.noNull
  stands := keeps.stands
  nothingElse := fun names entry named found =>
    (keeps.nothingElse names entry named found).mono (List.subset_cons_self payload kept)
  present := by
    intro other member
    rcases List.mem_cons.mp member with rfl | before
    · rcases keeps.at?_place (Sha256.hexDigest other) with ⟨free, -⟩ | ⟨_, -, -, -, isFolder⟩
      · exact absurd free occupied
      · exact ⟨short, isFolder, occupied⟩
    · exact keeps.present other before

/-- A store keeps its payloads when the folder of a digest is made. -/
theorem Keeps.makeShard (keeps : blobs.Keeps home kept) (isDigits : IsDigits hash)
    {after : FileTree} (changed : after.at? =
      Function.update blobs.tree.at? (shardPlace home hash) (some .folder)) :
    Keeps { blobs with tree := after } home kept where
  noNull := keeps.noNull
  stands := (FileTree.foldersKept_of_update changed (.inl rfl)).look keeps.stands
  nothingElse := by
    intro names entry named found
    by_cases isShard : names = [shardName hash]
    · subst isShard
      rw [changed, ← shardPlace, Function.update_self] at found
      exact .shard hash isDigits rfl (Option.some.inj found).symm
    · rw [changed, Function.update_of_ne (by simpa [shardPlace] using isShard)] at found
      exact keeps.nothingElse names entry named found
  present := by
    intro payload member
    obtain ⟨short, isFolder, occupied⟩ := keeps.present payload member
    refine ⟨short, ?_, ?_⟩
    · rw [changed, Function.update_apply, isFolder, ite_self]
    · rw [changed, Function.update_of_ne (shardPlace_ne_place _ _ _).symm]
      exact occupied

/-- A store in which the file of a payload is put where nothing stands keeps that payload as
well. -/
theorem Keeps.putPayload (keeps : blobs.Keeps home kept) {payload : List UInt8}
    (short : (blobs.pathOf (Sha256.hexDigest payload)).IsShort)
    (isFolder : blobs.tree.at? (shardPlace home (Sha256.hexDigest payload)) = some .folder)
    (free : blobs.tree.at? (place home (Sha256.hexDigest payload)) = none) {after : FileTree}
    (changed : after.at? = Function.update blobs.tree.at?
      (place home (Sha256.hexDigest payload)) (some (.file (.bytes payload)))) :
    Keeps { blobs with tree := after } home (payload :: kept) where
  noNull := keeps.noNull
  stands := (FileTree.foldersKept_of_update changed
    (.inr (by simp [free]))).look keeps.stands
  nothingElse := by
    intro names entry named found
    by_cases isPlace : names = [shardName (Sha256.hexDigest payload), Sha256.hexDigest payload]
    · subst isPlace
      rw [changed, ← place, Function.update_self] at found
      exact .payload payload List.mem_cons_self rfl (Option.some.inj found).symm
    · rw [changed, Function.update_of_ne (by simpa [place] using isPlace)] at found
      exact (keeps.nothingElse names entry named found).mono (List.subset_cons_self payload kept)
  present := by
    intro other member
    rw [changed, Function.update_of_ne (shardPlace_ne_place _ _ _)]
    rcases List.mem_cons.mp member with rfl | before
    · refine ⟨short, isFolder, ?_⟩
      rw [Function.update_self]
      exact Option.some_ne_none _
    · obtain ⟨otherShort, otherFolder, occupied⟩ := keeps.present other before
      refine ⟨otherShort, otherFolder, ?_⟩
      rw [Function.update_apply]
      split
      · exact Option.some_ne_none _
      · exact occupied

/-- A store from which the file of a payload is taken keeps the payloads with other digests. -/
theorem Keeps.takePayload (keeps : blobs.Keeps home kept) {after : FileTree}
    {content : Content} (isFile : blobs.tree.at? (place home hash) = some (.file content))
    (changed : after.at? = Function.update blobs.tree.at? (place home hash) none) :
    Keeps { blobs with tree := after } home
      (kept.filter fun payload => Sha256.hexDigest payload ≠ hash) where
  noNull := keeps.noNull
  stands := (FileTree.foldersKept_of_update changed
    (.inr (by simp [isFile]))).look keeps.stands
  nothingElse := by
    intro names entry named found
    by_cases isPlace : names = [shardName hash, hash]
    · subst isPlace
      rw [changed, ← place, Function.update_self] at found
      cases found
    · rw [changed, Function.update_of_ne (by simpa [place] using isPlace)] at found
      cases keeps.nothingElse names entry named found with
      | shard other isDigits isShard isFolder => exact .shard other isDigits isShard isFolder
      | payload payload member isOther otherFile =>
        refine .payload payload (List.mem_filter.mpr ⟨member, ?_⟩) isOther otherFile
        rw [decide_eq_true_eq]
        rintro rfl
        exact isPlace isOther
  present := by
    intro payload member
    obtain ⟨before, different⟩ := List.mem_filter.mp member
    rw [decide_eq_true_eq] at different
    obtain ⟨short, isFolder, occupied⟩ := keeps.present payload before
    refine ⟨short, ?_, ?_⟩
    · rw [changed, Function.update_of_ne (shardPlace_ne_place _ _ _), isFolder]
    · rw [changed, Function.update_of_ne (by simp [place, different])]
      exact occupied

/-- After a payload has been stored it is kept beside the others; a failure changes nothing that
is kept. -/
theorem Keeps.store (keeps : blobs.Keeps home kept) (planned : PlannedFaults)
    (payload : List UInt8) :
    (blobs.store planned payload).2.Keeps home
      (if (blobs.store planned payload).1.isOk then payload :: kept else kept) := by
  have isDigits := isDigits_hexDigest payload
  cases keeps.stored planned payload with
  | tooLong long isOutcome =>
    rw [isOutcome]
    exact keeps
  | already short occupied isOutcome =>
    rw [isOutcome]
    exact keeps.cons short occupied
  | stored short free calm after changed isOutcome =>
    rw [isOutcome]
    have notRoot := shardPlace_ne_nil home (Sha256.hexDigest payload)
    have madeAt := blobs.tree.at?_put notRoot .folder
    have made := keeps.makeShard isDigits madeAt
    rw [← madeAt] at changed
    refine made.putPayload short ?_ ?_ changed
    · exact blobs.tree.at?_put_self notRoot .folder
    · rw [madeAt, Function.update_of_ne (shardPlace_ne_place _ _ _).symm, free]
  | stopped short free step fault failed after changed isOutcome =>
    rw [isOutcome]
    rcases changed with same | made
    · exact keeps.of_at?_eq same
    · exact keeps.makeShard isDigits made

/-- Removing the file of a digest erases the entry at its place, if there is one. -/
theorem Keeps.removeFile_pathOf (keeps : blobs.Keeps home kept) (isDigits : IsDigits hash) :
    (blobs.tree.at? (place home hash) = none ∧
        blobs.tree.removeFile blobs.working (blobs.pathOf hash) = blobs.tree) ∨
      ∃ content, blobs.tree.at? (place home hash) = some (.file content) ∧
        blobs.tree.removeFile blobs.working (blobs.pathOf hash) =
          blobs.tree.erase (place home hash) := by
  rcases keeps.at?_place hash with ⟨free, -⟩ | ⟨payload, member, rfl, isFile, isFolder⟩
  · refine .inl ⟨free, ?_⟩
    by_cases short : (blobs.pathOf hash).IsShort
    · rw [FileTree.removeFile, keeps.look_pathOf isDigits short, free]
      split
      · rename_i looked
        split at looked <;> cases looked
      · rfl
    · rw [FileTree.removeFile, FileTree.look_of_not_isShort short]
  · refine .inr ⟨_, isFile, ?_⟩
    obtain ⟨short, -, -⟩ := keeps.present payload member
    have looked := keeps.look_shard isDigits short.parent
    rw [isFolder] at looked
    rw [place_eq] at isFile ⊢
    exact FileTree.removeFile_child looked isDigits.isPlain short isFile

/-- A store still keeps its payloads after the file of a digest has been removed, apart from those
with that digest. -/
theorem Keeps.removeFile (keeps : blobs.Keeps home kept) (isDigits : IsDigits hash) :
    Keeps { blobs with tree := blobs.tree.removeFile blobs.working (blobs.pathOf hash) } home
      (kept.filter fun payload => Sha256.hexDigest payload ≠ hash) := by
  rcases keeps.removeFile_pathOf isDigits with ⟨free, unchanged⟩ | ⟨content, isFile, erased⟩
  · have nothing : kept.filter (fun payload => Sha256.hexDigest payload ≠ hash) = kept := by
      rw [List.filter_eq_self]
      rintro payload member
      refine decide_eq_true ?_
      rintro rfl
      exact (keeps.present payload member).2.2 free
    rw [nothing, unchanged]
    exact keeps
  · rw [erased]
    exact keeps.takePayload isFile (blobs.tree.at?_erase (place_ne_nil home hash))

/-- The text of a string is read as that string. -/
theorem string?_text (hash : String) : (Datum.text hash).string? = some hash := by
  rw [Datum.string?, Datum.text?, Option.bind_some, Text.toString?, Text.encode_ofString]
  rfl

/-- What comes of asking for a hash: a kept payload with that digest, nothing, or a path that is too
long. -/
inductive Fetched (blobs : BlobStore) (kept : List (List UInt8)) (hash : Text) : Prop where
  | found (payload : List UInt8) (member : payload ∈ kept)
    (isHash : hash = Sha256.hexDigest payload)
    (fetched : blobs.fetch (.text hash) = .ok payload) (held : blobs.holds hash = .ok true)
  | missing (absent : ∀ payload ∈ kept, hash ≠ Sha256.hexDigest payload)
    (fetched : blobs.fetch (.text hash) = .error (.notFound (.payload (.text hash))))
    (held : blobs.holds hash = .ok false)
  | outOfReach (digest : String) (isHash : hash = digest)
    (hexadecimal : Sha256.isHexDigest digest = true)
    (long : ¬ (blobs.pathOf digest).IsShort)
    (absent : ∀ payload ∈ kept, hash ≠ Sha256.hexDigest payload)
    (fetched : blobs.fetch (.text hash) = .error (.storeUnavailable (.cannotRead digest
      (.problem .nameTooLong (blobs.pathOf digest).text))))
    (held : blobs.holds hash = .error (.file
      (.problem .nameTooLong (blobs.pathOf digest).text)))

/-- The bytes at the path of a digest that is not too long. -/
theorem Keeps.readBytes_pathOf (keeps : blobs.Keeps home kept) (isDigits : IsDigits hash)
    (short : (blobs.pathOf hash).IsShort) :
    blobs.tree.readBytes blobs.working (blobs.pathOf hash) =
      match blobs.tree.at? (place home hash) with
      | some (.file content) => .ok content.data
      | _ => .error (.problem .missing (blobs.pathOf hash).text) := by
  rw [FileTree.readBytes, FileTree.readContent, (keeps.noNull_pathOf isDigits).2,
    keeps.look_pathOf isDigits short]
  rcases keeps.at?_place hash with ⟨free, -⟩ | ⟨payload, -, -, isFile, isFolder⟩
  · rw [free, if_neg Bool.false_ne_true]
    rcases keeps.at?_shardPlace hash with noFolder | isFolder
    · rw [noFolder]
      rfl
    · rw [isFolder]
      rfl
  · rw [isFile, isFolder]
    rfl

/-- A digest whose path is too long is out of reach. -/
theorem fetch_of_not_isShort (hexadecimal : Sha256.isHexDigest hash = true)
    (noNull : (blobs.pathOf hash).holdsNull = false) (long : ¬ (blobs.pathOf hash).IsShort) :
    blobs.fetch (.text hash) = .error (.storeUnavailable (.cannotRead hash
      (.problem .nameTooLong (blobs.pathOf hash).text))) := by
  have read : blobs.tree.readBytes blobs.working (blobs.pathOf hash) =
      .error (.problem .nameTooLong (blobs.pathOf hash).text) := by
    rw [FileTree.readBytes, FileTree.readContent, noNull, FileTree.look_of_not_isShort long]
    rfl
  simp only [fetch, string?_text, hexadecimal, read, if_true]

/-- Every way in which asking for a hash can end. -/
theorem Keeps.fetched (keeps : blobs.Keeps home kept) (hash : Text) : Fetched blobs kept hash := by
  cases encoded : hash.encode with
  | error fault =>
    have noString : hash.toString? = none := by
      rw [Text.toString?, encoded]
      rfl
    refine .missing ?_ ?_ ?_
    · rintro payload - rfl
      rw [Text.encode_ofString] at encoded
      cases encoded
    · simp only [fetch, Datum.string?, Datum.text?, Option.bind_some, noString,
        Failure.unknownHash_text]
    · rw [holds, noString]
  | ok digest =>
    obtain rfl := (Text.encode_eq_ok_iff hash digest).mp encoded
    have isString : (Text.ofString digest).toString? = some digest := by
      rw [Text.toString?, encoded]
      rfl
    cases hexadecimal : Sha256.isHexDigest digest with
    | false =>
      refine .missing ?_ ?_ ?_
      · rintro payload - same
        rw [Text.ofString_inj] at same
        rw [same, Sha256.isHexDigest_hexDigest] at hexadecimal
        cases hexadecimal
      · simp only [fetch, string?_text, hexadecimal, Bool.false_eq_true, if_false,
          Failure.unknownHash_text]
      · simp only [holds, isString, hexadecimal, Bool.false_eq_true, if_false]
    | true =>
      have isDigits := isDigits_of_isHexDigest hexadecimal
      by_cases short : (blobs.pathOf digest).IsShort
      · have read := keeps.readBytes_pathOf isDigits short
        have examined := keeps.examine_pathOf isDigits short
        rcases keeps.at?_place digest with ⟨free, absent⟩ | ⟨payload, member, rfl, isFile, -⟩
        · rw [free] at read examined
          refine .missing ?_ ?_ ?_
          · intro payload member same
            exact absent payload member (Text.ofString_inj.mp same).symm
          · simp only [fetch, string?_text, hexadecimal, read, if_true, Failure.unknownHash_text]
          · simp only [holds, isString, hexadecimal, examined, if_true]
        · rw [isFile] at read examined
          refine .found payload member rfl ?_ ?_
          · simp only [fetch, string?_text, hexadecimal, read, Content.data, if_true]
          · simp only [holds, isString, hexadecimal, examined, if_true]
      · refine .outOfReach digest rfl hexadecimal short ?_ ?_ ?_
        · intro payload member same
          rw [Text.ofString_inj] at same
          rw [same] at short
          exact short (keeps.present payload member).1
        · exact fetch_of_not_isShort hexadecimal (keeps.noNull_pathOf isDigits).2 short
        · simp only [holds, isString, hexadecimal, examine_of_not_isShort short, if_true]

/-- A kept payload can be fetched if no other one has its digest. -/
theorem Keeps.fetch_of_mem (keeps : blobs.Keeps home kept)
    (distinct : ∀ left ∈ kept, ∀ right ∈ kept,
      Sha256.hexDigest left = Sha256.hexDigest right → left = right)
    {payload : List UInt8} (member : payload ∈ kept) :
    blobs.fetch (.text (Sha256.hexDigest payload)) = .ok payload := by
  cases keeps.fetched (Sha256.hexDigest payload) with
  | found stored memberStored isHash fetched held =>
    rw [distinct payload member stored memberStored (Text.ofString_inj.mp isHash)] at fetched ⊢
    exact fetched
  | missing absent fetched held => exact absurd rfl (absent payload member)
  | outOfReach digest isHash hexadecimal long absent fetched held =>
    exact absurd rfl (absent payload member)

/-- A payload that is not kept is missing, or out of reach if its path is too long. -/
theorem Keeps.fetch_of_absent (keeps : blobs.Keeps home kept)
    (absent : ∀ payload ∈ kept, hash ≠ Sha256.hexDigest payload) :
    blobs.fetch (.text hash) = .error (.notFound (.payload (.text hash))) ∨
      ¬ (blobs.pathOf hash).IsShort ∧
        ∃ fault, blobs.fetch (.text hash) = .error (.storeUnavailable fault) := by
  cases keeps.fetched hash with
  | found payload member isHash fetched held =>
    exact absurd (Text.ofString_inj.mp isHash) (absent payload member)
  | missing _ fetched held => exact .inl fetched
  | outOfReach digest isHash hexadecimal long _ fetched held =>
    rw [Text.ofString_inj] at isHash
    subst isHash
    exact .inr ⟨long, _, fetched⟩

/-- Storing gives the digest of the payload, whose path is not too long, and keeps the payload. -/
theorem Keeps.of_store_ok (keeps : blobs.Keeps home kept) {planned : PlannedFaults}
    {payload : List UInt8} {hash : String} (done : (blobs.store planned payload).1 = .ok hash) :
    hash = Sha256.hexDigest payload ∧ (blobs.pathOf hash).IsShort ∧
      (blobs.store planned payload).2.Keeps home (payload :: kept) := by
  have keepsAfter := keeps.store planned payload
  rw [done] at keepsAfter
  cases keeps.stored planned payload with
  | tooLong long isOutcome =>
    rw [isOutcome] at done
    cases done
  | already short occupied isOutcome =>
    rw [isOutcome] at done
    cases done
    exact ⟨rfl, short, keepsAfter⟩
  | stored short free calm after changed isOutcome =>
    rw [isOutcome] at done
    cases done
    exact ⟨rfl, short, keepsAfter⟩
  | stopped short free step fault failed after changed isOutcome =>
    rw [isOutcome] at done
    cases done

/-- Storing a kept payload once more changes nothing. -/
theorem Keeps.store_of_mem (keeps : blobs.Keeps home kept) {payload : List UInt8}
    (member : payload ∈ kept) (planned : PlannedFaults) :
    blobs.store planned payload = (.ok (Sha256.hexDigest payload), blobs) := by
  obtain ⟨short, -, occupied⟩ := keeps.present payload member
  cases keeps.stored planned payload with
  | tooLong long isOutcome => exact absurd short long
  | already _ _ isOutcome => exact isOutcome
  | stored _ free => exact absurd free occupied
  | stopped _ free => exact absurd free occupied

/-- Storing succeeds when the path of the payload is not too long and no step is made to fail. -/
theorem Keeps.store_of_calm (keeps : blobs.Keeps home kept) {planned : PlannedFaults}
    {payload : List UInt8} (short : (blobs.pathOf (Sha256.hexDigest payload)).IsShort)
    (calm : ∀ step, planned step = none) :
    (blobs.store planned payload).1 = .ok (Sha256.hexDigest payload) := by
  cases keeps.stored planned payload with
  | tooLong long isOutcome => exact absurd short long
  | already _ _ isOutcome => rw [isOutcome]
  | stored _ _ _ _ _ isOutcome => rw [isOutcome]
  | stopped _ _ step fault failed =>
    rw [calm step] at failed
    cases failed

/-- Storing that succeeds does not depend on what was made to fail. -/
theorem Keeps.store_eq_of_ok (keeps : blobs.Keeps home kept) {planned other : PlannedFaults}
    {payload : List UInt8} {hash otherHash : String}
    (done : (blobs.store planned payload).1 = .ok hash)
    (otherDone : (blobs.store other payload).1 = .ok otherHash) :
    blobs.store planned payload = blobs.store other payload := by
  have written {faults : PlannedFaults} {digest : String}
      (succeeded : (blobs.store faults payload).1 = .ok digest)
      (free : blobs.tree.at? (place home (Sha256.hexDigest payload)) = none) :
      faults = fun _ => none := by
    cases keeps.stored faults payload with
    | tooLong _ isOutcome =>
      rw [isOutcome] at succeeded
      cases succeeded
    | already _ occupied => exact absurd free occupied
    | stored _ _ calm => exact funext calm
    | stopped _ _ _ _ _ _ _ isOutcome =>
      rw [isOutcome] at succeeded
      cases succeeded
  rcases keeps.at?_place (Sha256.hexDigest payload) with ⟨free, -⟩ | ⟨present, -, -, isFile, -⟩
  · rw [written done free, written otherDone free]
  · obtain ⟨rfl, short, -⟩ := keeps.of_store_ok done
    have examined := keeps.examine_pathOf (isDigits_hexDigest payload) short
    rw [isFile] at examined
    rw [BlobStore.store, BlobStore.store, examined]

/-- Storing that fails leaves the files as they are. -/
theorem Keeps.files_of_store_error (keeps : blobs.Keeps home kept) {planned : PlannedFaults}
    {payload : List UInt8} {failure : Failure}
    (failed : (blobs.store planned payload).1 = .error failure) (location : Location)
    (content : Content) :
    (blobs.store planned payload).2.tree.at? location = some (.file content) ↔
      blobs.tree.at? location = some (.file content) := by
  cases keeps.stored planned payload with
  | tooLong _ isOutcome => rw [isOutcome]
  | already _ _ isOutcome => rw [isOutcome]
  | stored _ _ _ _ _ isOutcome =>
    rw [isOutcome] at failed
    cases failed
  | stopped _ _ _ _ _ after changed isOutcome =>
    rw [isOutcome]
    rcases changed with same | made
    · rw [same]
    · rw [made, Function.update_apply]
      split
      · rename_i isShard
        subst isShard
        -- A folder may be new there, but it was no file before.
        rcases keeps.at?_shardPlace (Sha256.hexDigest payload) with free | isFolder
        · simp [free]
        · simp [isFolder]
      · rfl

/-- Storing changes nothing of a store but its tree. -/
theorem store_snd (blobs : BlobStore) (planned : PlannedFaults) (payload : List UInt8) :
    (blobs.store planned payload).2 =
      { blobs with tree := (blobs.store planned payload).2.tree } := by
  rw [store]
  split
  · rfl
  · rfl
  · dsimp only
    split <;> rfl

end
end Depot.BlobStore
