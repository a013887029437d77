import Depot.Bytes.Sha256
import Depot.Failure
import Depot.File.Tree

/-!
# The payload store

Payloads are kept once each, in files named by their digests, one folder for each pair of
leading digits. A payload is written into a temporary file that is then renamed, so that a
file with a digest as its name holds nothing or the whole payload. Storing is a list of
steps on the directory tree, each of which may be made to fail; `BlobStore.writeSteps`
gives the tree after every one of them.
-/

namespace Depot

/-- A payload store: a directory tree, the working folder, and the folder of the store. -/
structure BlobStore where
  tree : FileTree
  working : Location
  root : Path

/-- The steps of writing a payload. -/
inductive WriteStep where
  | makeShard
  | createTemporary
  | writeTemporary
  | rename
  deriving DecidableEq

/-- The steps that are made to fail, and how. -/
abbrev PlannedFaults := WriteStep → Option FileFault

namespace BlobStore

/-- Opens the store in a folder, which is made if it is missing. The tree comes back with all
folders that were made. -/
def openAt (tree : FileTree) (working : Location) (root : Path) :
    Except Failure BlobStore × FileTree :=
  match tree.makeFolders working root with
  | (made, none) => (.ok ⟨made, working, root⟩, made)
  | (made, some .nullCharacter) => (.error (.file .nullCharacter), made)
  | (made, some fault) => (.error (.storeUnavailable (.cannotCreate root fault)), made)

/-- The name of the folder of a digest: its two leading digits. -/
def shardName (hash : String) : String := String.ofList (hash.toList.take 2)

/-- The folder of a digest. -/
def shard (store : BlobStore) (hash : String) : Path := store.root.child (shardName hash)

/-- The file of a digest. -/
def pathOf (store : BlobStore) (hash : String) : Path := (store.shard hash).child hash

/-- The temporary name with a number. -/
def numberedName (number : Nat) : String := ".tmp-" ++ toString number

/-- The first temporary name that nothing in a folder has. -/
def temporaryName (tree : FileTree) (working : Location) (folder : Path) : String :=
  let free (number : Nat) : Bool := !tree.occupied working (folder.child (numberedName number))
  numberedName (((List.range (tree.entries.length + 1)).find? free).getD 0)

/-- Runs steps one after the other up to the first that fails: the trees after the steps
that were done, and the fault. -/
def runSteps (planned : PlannedFaults) (tree : FileTree) :
    List (WriteStep × (FileTree → Except FileFault FileTree)) →
    List FileTree × Option FileFault
  | [] => ([], none)
  | (step, change) :: rest =>
    match planned step with
    | some fault => ([], some fault)
    | none =>
      match change tree with
      | .error fault => ([], some fault)
      | .ok next =>
        let (later, fault) := runSteps planned next rest
        (next :: later, fault)

/-- The last of a list of trees, or the tree before them. -/
def lastTree (tree : FileTree) (later : List FileTree) : FileTree := later.getLastD tree

/-- The steps that write a payload, and what came of them: the tree after each step, and the
fault of the step that failed. When writing or renaming fails, the temporary file is
removed in a last step. -/
def writeSteps (store : BlobStore) (planned : PlannedFaults) (hash : String)
    (payload : List UInt8) : List FileTree × Option FileFault :=
  let working := store.working
  let shard := store.shard hash
  match runSteps planned store.tree [(.makeShard, (·.ensureFolders working shard))] with
  | (made, some fault) => (made, some fault)
  | (made, none) =>
    let shardTree := lastTree store.tree made
    let temporary := shard.child (temporaryName shardTree working shard)
    match runSteps planned shardTree [(.createTemporary, (·.writeBytes working temporary []))] with
    | (created, some fault) => (made ++ created, some fault)
    | (created, none) =>
      let createdTree := lastTree shardTree created
      let (written, fault) := runSteps planned createdTree [
        (.writeTemporary, (·.writeBytes working temporary payload)),
        (.rename, (·.renameFile working temporary (shard.child hash)))]
      let before := made ++ created ++ written
      match fault with
      | none => (before, none)
      | some fault =>
        (before ++ [(lastTree createdTree written).removeFile working temporary], some fault)

/-- Keeps a payload and gives its digest. Nothing is written when something already stands
at the place of the payload. -/
def store (blobs : BlobStore) (planned : PlannedFaults) (payload : List UInt8) :
    Except Failure String × BlobStore :=
  let hash := Sha256.hexDigest payload
  match blobs.tree.examine blobs.working (blobs.pathOf hash) with
  | .error fault => (.error (.file fault), blobs)
  | .ok (some _) => (.ok hash, blobs)
  | .ok none =>
    let (trees, fault) := blobs.writeSteps planned hash payload
    let after := { blobs with tree := lastTree blobs.tree trees }
    match fault with
    | none => (.ok hash, after)
    | some fault => (.error (.storeUnavailable (.cannotWrite hash fault)), after)

/-- The payload of a digest. -/
def fetch (blobs : BlobStore) (hash : Datum) : Except Failure (List UInt8) :=
  match hash.string? with
  | some digest =>
    if Sha256.isHexDigest digest then
      match blobs.tree.readBytes blobs.working (blobs.pathOf digest) with
      | .ok payload => .ok payload
      | .error (.problem .missing _) => .error (.unknownHash hash)
      | .error fault => .error (.storeUnavailable (.cannotRead digest fault))
    else .error (.unknownHash hash)
  | none => .error (.unknownHash hash)

/-- Whether a payload is kept under a digest. -/
def holds (blobs : BlobStore) (hash : Text) : Except Failure Bool :=
  match hash.toString? with
  | some digest =>
    if Sha256.isHexDigest digest then
      match blobs.tree.examine blobs.working (blobs.pathOf digest) with
      | .error fault => .error (.file fault)
      | .ok (some (.file _)) => .ok true
      | .ok _ => .ok false
    else .ok false
  | none => .ok false

end BlobStore
end Depot
