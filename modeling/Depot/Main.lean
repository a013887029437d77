import Depot.Command.Run
import Depot.Index.Archive

/-!
# The command line

Reads what a command works on into a directory tree, runs the command, writes back what it
changed, and prints its report.
-/

namespace Depot.Main

/-- What a command works on: the paths whose contents it may look at or change, one of them the file
of the index. Nothing outside them has to be known to run it. -/
structure Footprint where
  named : List Path
  index : Option Path

/-- All paths of a footprint. -/
def Footprint.paths (footprint : Footprint) : List Path :=
  footprint.named ++ footprint.index.toList

/-- What a request works on, in the surroundings of a world that need not hold anything yet
but a local data folder. -/
def footprint (world : World) (environment : List (String × String)) : Request → Footprint
  | .run line =>
    let named := line.command.namedPaths.map Path.ofText
    match Command.settings world environment line.dataFolder with
    | .ok config => ⟨named ++ [config.dataFolder, config.blobFolder], some config.indexPath⟩
    | .error _ => ⟨named, none⟩
  | _ => ⟨[], none⟩

/-- The variables of the environment that commands look at. -/
def variableNames : List String :=
  "HOME" :: ["DATA_DIR", "DB", "BLOB_DIR", "PAGE_SIZE", "FETCH_CONCURRENCY"].map
    (Config.variableMark ++ ·)

/-- The location of a path as the system writes it. -/
def locationOf (text : String) : Location := (Path.ofText text).names

/-- The text of a location. -/
def textOf (location : Location) : String := (Path.mk .single location).text

/-- Puts what stands at a location into a tree, with everything below it. -/
partial def load (tree : FileTree) (location : Location) : IO FileTree := do
  let place := (← IO.currentDir) / textOf location
  if ← place.isDir then
    let mut loaded := if location.isEmpty then tree else tree.put location .folder
    for item in ← place.readDir do
      loaded ← load loaded (location ++ [item.fileName])
    return loaded
  else if ← place.pathExists then
    return tree.put location (.file (.bytes (← IO.FS.readBinFile place).toList))
  else return tree

/-- Puts the folders on the way to a location into a tree, as far as there are any. -/
def loadFolders (tree : FileTree) (location : Location) : IO FileTree := do
  let mut loaded := tree
  for length in List.range location.length do
    let folder := location.take (length + 1)
    let place := (← IO.currentDir) / textOf folder
    if (← place.isDir) && (loaded.at? folder).isNone then loaded := loaded.put folder .folder
  return loaded

/-- The location that a path leads to without looking at links. -/
def plainLocation (working : Location) (path : Path) : Location :=
  (Command.absolutePath working path.text).names

/-- The tree in which the file of an index holds tables instead of their archive. -/
def openArchive (tree : FileTree) (location : Location) : FileTree :=
  match tree.at? location with
  | some (.file (.bytes data)) =>
    match Archive.read? data with
    | some tables => tree.put location (.file (.tables tables))
    | none => tree
  | _ => tree

/-- Writes an entry of a tree to the system. -/
def saveEntry (location : Location) : FileEntry → IO Unit
  | .folder => IO.FS.createDirAll (textOf location)
  | .file content => do
    IO.FS.createDirAll (textOf location.dropLast)
    let data := match content with
      | .bytes data => data
      | .tables tables => Archive.write tables
    IO.FS.writeBinFile (textOf location) (ByteArray.mk data.toArray)

/-- Writes the entries of a tree that another one does not have. -/
def save (before after : FileTree) : IO Unit :=
  for (location, entry) in after.entries do
    if before.at? location ≠ some entry then saveEntry location entry

/-- Shows a report. -/
def display (report : Report) : IO Unit := do
  for output in report.output do
    for line in output.lines do IO.println line
  let out ← IO.getStdout
  out.write (ByteArray.mk report.payload.toArray)
  out.flush
  for remark in report.ending.remarks do IO.eprintln remark
  if report.served.isSome then IO.eprintln "No listener is built in."

/-- Runs the command that words ask for. -/
def run (words : List String) : IO UInt32 := do
  let working := locationOf (← IO.currentDir).toString
  let environment := (← variableNames.mapM fun name => do
    return (← IO.getEnv name).map fun value => (name, value)).filterMap id
  let issued ← IO.rand 0 (Nat.pow 2 128 - 2)
  let folders ← loadFolders .empty (working ++ ["data"])
  let outline : World := ⟨folders, working, issued, []⟩
  let mut tree := folders
  let footprint := footprint outline environment (CommandLine.read words)
  for path in footprint.paths do
    let location := plainLocation working path
    tree ← loadFolders tree location
    tree ← load tree location
  for path in footprint.index do tree := openArchive tree (plainLocation working path)
  let world := { outline with tree := tree }
  let (report, after) := Command.runWords .plain world environment words
  save tree after.tree
  display report
  return UInt32.ofNat report.ending.code

end Depot.Main

/-- Runs the command of the program's arguments. -/
def main (words : List String) : IO UInt32 := Depot.Main.run words
