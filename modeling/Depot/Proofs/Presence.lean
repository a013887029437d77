import Depot.Proofs.Growing
import Depot.Proofs.Payloads

/-!
# What a success of storing means

Storing succeeds without writing when anything stands at the path of the digest. If that is a file,
the payload counts as held and can be fetched; so it does after its file has been written. If it is
a folder, storing succeeds all the same, though nothing is held there and nothing can be fetched.
-/

namespace Depot.BlobStore

section

variable {blobs : BlobStore} {planned : PlannedFaults} {payload : List UInt8} {hash : String}
  {location : Location}

/-- Where a file stands at the path of a digest, the digest is held and its bytes are fetched. -/
theorem holds_of_file {content : Content} (noNull : blobs.root.holdsNull = false)
    (hexadecimal : Sha256.isHexDigest hash = true)
    (looked : blobs.tree.look blobs.working (blobs.pathOf hash) =
      .ok (location, some (.file content))) :
    blobs.holds hash = .ok true ∧ blobs.fetch (.text hash) = .ok content.data := by
  have isString : (Text.ofString hash).toString? = some hash := string?_text hash
  have pathNoNull := (noNull_pathOf noNull (isDigits_of_isHexDigest hexadecimal)).2
  constructor
  · simp [holds, isString, hexadecimal, FileTree.examine, looked]
  · simp [fetch, string?_text, hexadecimal, FileTree.readBytes, FileTree.readContent, pathNoNull,
      looked, bind, Except.bind]

/-- Where a folder stands at the path of a digest, the digest is not held and fetching fails. -/
theorem holds_of_folder (noNull : blobs.root.holdsNull = false)
    (hexadecimal : Sha256.isHexDigest hash = true)
    (isFolder : blobs.tree.isFolder blobs.working (blobs.pathOf hash) = true) :
    blobs.holds hash = .ok false ∧ blobs.fetch (.text hash) = .error
      (.storeUnavailable (.cannotRead hash (.problem .isFolder (blobs.pathOf hash).text))) := by
  obtain ⟨location, looked⟩ := FileTree.isFolder_iff.mp isFolder
  have isString : (Text.ofString hash).toString? = some hash := string?_text hash
  have pathNoNull := (noNull_pathOf noNull (isDigits_of_isHexDigest hexadecimal)).2
  constructor
  · simp [holds, isString, hexadecimal, FileTree.examine, looked]
  · simp [fetch, string?_text, hexadecimal, FileTree.readBytes, FileTree.readContent, pathNoNull,
      looked, bind, Except.bind]

/-- Storing succeeds without writing where a folder stands at the path of the digest. -/
theorem store_of_isFolder (isFolder : blobs.tree.isFolder blobs.working
      (blobs.pathOf (Sha256.hexDigest payload)) = true) :
    blobs.store planned payload = (.ok (Sha256.hexDigest payload), blobs) := by
  obtain ⟨location, looked⟩ := FileTree.isFolder_iff.mp isFolder
  simp [store, FileTree.examine, looked]

/-- The file of a payload that has been put somewhere is found at its path. -/
theorem PutsPayload.look {before made after : FileTree} {working : Location} {path : Path}
    (puts : PutsPayload before working path payload made location after) :
    after.look working path = .ok (location, some (.file (.bytes payload))) := by
  have kept : made.FoldersKept after :=
    FileTree.foldersKept_of_update puts.changed (.inr puts.noFolder)
  refine FileTree.look_eq_ok_iff.mpr ⟨kept.locate puts.led, ?_⟩
  rw [puts.changed, Function.update_self]

/-- A success of storing vouches for the payload: the digest that is given is held afterwards, and
fetching it gives some bytes. -/
def Vouches (blobs : BlobStore) (planned : PlannedFaults) (payload : List UInt8) : Prop :=
  ∀ hash, (blobs.store planned payload).1 = .ok hash →
    (blobs.store planned payload).2.holds hash = .ok true ∧
      ∃ data, (blobs.store planned payload).2.fetch (.text hash) = .ok data

/-- Storing vouches for a payload where no folder stands at the path of its digest. -/
theorem vouches_of_not_isFolder (noNull : blobs.root.holdsNull = false)
    (noFolder : blobs.tree.isFolder blobs.working
      (blobs.pathOf (Sha256.hexDigest payload)) = false) : blobs.Vouches planned payload := by
  intro hash done
  have hexadecimal := Sha256.isHexDigest_hexDigest payload
  rcases blobs.store_cases planned payload with
    ⟨failure, after, outcome, -⟩ | ⟨outcome, occupied⟩ | ⟨made, location, after, outcome, puts⟩
  · rw [outcome] at done
    cases done
  · rw [outcome] at done ⊢
    cases done
    obtain ⟨location, entry, looked⟩ := FileTree.occupied_iff.mp occupied
    cases entry with
    | folder =>
      rw [FileTree.isFolder_iff.mpr ⟨location, looked⟩] at noFolder
      cases noFolder
    | file content =>
      obtain ⟨held, fetched⟩ := holds_of_file noNull hexadecimal looked
      exact ⟨held, _, fetched⟩
  · rw [outcome] at done ⊢
    cases done
    let written : BlobStore := { blobs with tree := after }
    have writtenNoNull : written.root.holdsNull = false := noNull
    obtain ⟨held, fetched⟩ := holds_of_file writtenNoNull hexadecimal puts.look
    exact ⟨held, _, fetched⟩

/-- Storing vouches for nothing where a folder stands at the path of the digest. -/
theorem not_vouches_of_isFolder (noNull : blobs.root.holdsNull = false)
    (isFolder : blobs.tree.isFolder blobs.working
      (blobs.pathOf (Sha256.hexDigest payload)) = true) : ¬ blobs.Vouches planned payload := by
  intro vouches
  have reported : blobs.store planned payload = (.ok (Sha256.hexDigest payload), blobs) :=
    store_of_isFolder isFolder
  obtain ⟨held, -⟩ := vouches (Sha256.hexDigest payload) (by rw [reported])
  rw [reported, (holds_of_folder noNull (Sha256.isHexDigest_hexDigest payload) isFolder).1] at held
  cases held

/-- A store whose folder could once be opened has a path without a null character. -/
theorem noNull_of_openAt {before made : FileTree} {working : Location} {root : Path}
    {opened : BlobStore} (isOpened : openAt before working root = (.ok opened, made)) :
    root.holdsNull = false := by
  rw [openAt] at isOpened
  split at isOpened
  · rename_i folders
    exact (FileTree.of_makeFolders folders).1
  · cases isOpened
  · cases isOpened

/-- In a store that could once be opened, whatever has become of its tree, a success of storing
vouches for the payload exactly when no folder stands at the path of its digest. Where one stands,
storing succeeds, nothing is held, and fetching fails. -/
theorem vouches_iff {before made : FileTree} {opened : BlobStore}
    (isOpened : openAt before blobs.working blobs.root = (.ok opened, made))
    (planned : PlannedFaults) (payload : List UInt8) :
    (blobs.Vouches planned payload ↔
        blobs.tree.isFolder blobs.working (blobs.pathOf (Sha256.hexDigest payload)) = false) ∧
      (blobs.tree.isFolder blobs.working (blobs.pathOf (Sha256.hexDigest payload)) = true →
        blobs.store planned payload = (.ok (Sha256.hexDigest payload), blobs) ∧
          blobs.holds (Sha256.hexDigest payload) = .ok false ∧
          blobs.fetch (.text (Sha256.hexDigest payload)) = .error (.storeUnavailable
            (.cannotRead (Sha256.hexDigest payload)
              (.problem .isFolder (blobs.pathOf (Sha256.hexDigest payload)).text)))) := by
  have noNull := noNull_of_openAt isOpened
  refine ⟨⟨fun vouches => Bool.eq_false_iff.mpr fun isFolder => ?_,
    vouches_of_not_isFolder noNull⟩, fun isFolder => ⟨store_of_isFolder isFolder,
      holds_of_folder noNull (Sha256.isHexDigest_hexDigest payload) isFolder⟩⟩
  exact not_vouches_of_isFolder noNull isFolder vouches

end

/-- A store whose tree has one entry where the payload of a single byte belongs. -/
def occupiedStore (entry : FileEntry) : BlobStore :=
  ⟨⟨[(["payloads"], .folder), (["payloads", shardName (Sha256.hexDigest [120])], .folder),
      (["payloads", shardName (Sha256.hexDigest [120]), Sha256.hexDigest [120]], entry)]⟩, [],
    ⟨.relative, ["payloads"]⟩⟩

/-- A foreign file at the path of a digest counts as its payload. -/
theorem vouches_foreignFile :
    openAt .empty [] ⟨.relative, ["payloads"]⟩ =
        (.ok ⟨⟨[(["payloads"], .folder)]⟩, [], ⟨.relative, ["payloads"]⟩⟩,
          ⟨[(["payloads"], .folder)]⟩) ∧
      (occupiedStore (.file (.bytes [0]))).Vouches (fun _ => none) [120] := by
  let blobs : BlobStore := occupiedStore (.file (.bytes [0]))
  have isOpened : openAt .empty blobs.working blobs.root =
      (.ok ⟨⟨[(["payloads"], .folder)]⟩, [], ⟨.relative, ["payloads"]⟩⟩,
        ⟨[(["payloads"], .folder)]⟩) := rfl
  exact ⟨isOpened, (vouches_iff isOpened (fun _ => none) [120]).1.mpr (by decide +kernel)⟩

/-- Storing the payload succeeds when a folder stands at the path of its digest, and vouches for
nothing. -/
theorem not_vouches_foreignFolder : ¬ (occupiedStore .folder).Vouches (fun _ => none) [120] :=
  not_vouches_of_isFolder rfl (by decide +kernel)

end Depot.BlobStore
