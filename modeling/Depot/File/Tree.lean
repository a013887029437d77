import Depot.Entries
import Depot.File.Fault
import Depot.File.Path
import Depot.Index.Table

/-!
# Directory trees

A directory tree maps locations, lists of names from the root, to folders and files. A
file holds bytes or, if it is the file of an index, tables. Operations take paths and a
working folder; two dots are followed in the tree, so every folder on the way has to be
there. Names and paths have a greatest length in bytes.

`FileTree.WellFormed` says that every entry lies in a folder and that no location has two
entries.
-/

namespace Depot

/-- A place in a directory tree: the names on the way from the root. -/
abbrev Location := List String

/-- What a file holds. -/
inductive Content where
  | bytes (data : List UInt8)
  | tables (tables : Tables)
  deriving DecidableEq

/-- The bytes of a content; tables have no bytes of their own. -/
def Content.data : Content → List UInt8
  | .bytes data => data
  | .tables _ => []

/-- What stands at a location. -/
inductive FileEntry where
  | folder
  | file (content : Content)
  deriving DecidableEq

/-- The folders and files of a directory tree; the root is a folder without an entry. -/
structure FileTree where
  entries : List (Location × FileEntry)
  deriving DecidableEq

namespace FileTree

/-- The tree that has nothing but the root. -/
def empty : FileTree := ⟨[]⟩

/-- What stands at a location. -/
def at? (tree : FileTree) (location : Location) : Option FileEntry :=
  if location = [] then some .folder else valueOf? location tree.entries

/-- Every entry lies in a folder and no location has two entries. -/
structure WellFormed (tree : FileTree) : Prop where
  distinct : (tree.entries.map Prod.fst).Nodup
  notRoot : ∀ entry ∈ tree.entries, entry.1 ≠ []
  inFolder : ∀ entry ∈ tree.entries, tree.at? entry.1.dropLast = some .folder

/-- The tree with an entry put at a location. -/
def put (tree : FileTree) (location : Location) (entry : FileEntry) : FileTree :=
  ⟨insertEntry location entry tree.entries⟩

/-- The tree without the entry of a location. -/
def erase (tree : FileTree) (location : Location) : FileTree :=
  ⟨eraseEntry location tree.entries⟩

/-- The tree without the entry of a location and everything below it. -/
def eraseBelow (tree : FileTree) (location : Location) : FileTree :=
  ⟨tree.entries.filter fun entry => !location.isPrefixOf entry.1⟩

/-- The greatest number of bytes of a name. -/
def nameLimit : Nat := 255

/-- The greatest number of bytes of a path. -/
def pathLimit : Nat := 4095

/-- Follows names from a folder. Every location that is passed has to be a folder. -/
def follow (tree : FileTree) (start : Location) : List String → Except FileProblem Location
  | [] => .ok start
  | name :: rest =>
    match tree.at? start with
    | some .folder =>
      if nameLimit < name.utf8ByteSize then .error .nameTooLong
      else tree.follow (if name = ".." then start.dropLast else start ++ [name]) rest
    | some (.file _) => .error .notFolder
    | none => .error .missing

/-- The location of a path seen from a working folder. -/
def locate (tree : FileTree) (working : Location) (path : Path) :
    Except FileProblem Location :=
  if pathLimit < path.text.utf8ByteSize then .error .nameTooLong
  else tree.follow (if path.isAbsolute then [] else working) path.names

/-- What stands at a path. -/
def look (tree : FileTree) (working : Location) (path : Path) :
    Except FileProblem (Location × Option FileEntry) := do
  let location ← tree.locate working path
  .ok (location, tree.at? location)

/-- What stands at a path, if the path can be followed. -/
def look? (tree : FileTree) (working : Location) (path : Path) : Option FileEntry :=
  match tree.look working path with
  | .ok (_, found) => found
  | .error _ => none

/-- Whether a folder stands at a path. -/
def isFolder (tree : FileTree) (working : Location) (path : Path) : Bool :=
  match tree.look? working path with
  | some .folder => true
  | _ => false

/-- Whether a file stands at a path. -/
def isFile (tree : FileTree) (working : Location) (path : Path) : Bool :=
  match tree.look? working path with
  | some (.file _) => true
  | _ => false

/-- Whether anything stands at a path. -/
def occupied (tree : FileTree) (working : Location) (path : Path) : Bool :=
  (tree.look? working path).isSome

/-- What stands at a path, or a fault if the path or one of its names is too long. -/
def examine (tree : FileTree) (working : Location) (path : Path) :
    Except FileFault (Option FileEntry) :=
  match tree.look working path with
  | .ok (_, found) => .ok found
  | .error .nameTooLong => .error (.problem .nameTooLong path.text)
  | .error _ => .ok none

/-- Makes a folder where nothing stands. -/
def makeFolder (tree : FileTree) (working : Location) (path : Path) :
    Except FileProblem FileTree := do
  match ← tree.look working path with
  | (_, some _) => .error .occupied
  | (location, none) => .ok (tree.put location .folder)

/-- Makes a folder, or does nothing where a folder stands. -/
def ensureFolder (tree : FileTree) (working : Location) (path : Path) :
    Except FileFault FileTree :=
  match tree.makeFolder working path with
  | .ok made => .ok made
  | .error problem =>
    if problem ≠ .missing ∧ tree.isFolder working path then .ok tree
    else .error (.problem problem path.text)

/-- A step that may fail leaves the tree as it is when it fails. -/
def settle (tree : FileTree) : Except FileFault FileTree → FileTree × Option FileFault
  | .ok changed => (changed, none)
  | .error fault => (tree, some fault)

/-- Makes the folder of the names given in reverse, after the folders that it needs. -/
def makeReversed (tree : FileTree) (working : Location) (root : PathRoot) :
    List String → FileTree × Option FileFault
  | [] => tree.settle (tree.ensureFolder working ⟨root, []⟩)
  | name :: rest =>
    let path : Path := ⟨root, (name :: rest).reverse⟩
    match tree.makeFolder working path with
    | .error .missing =>
      match tree.makeReversed working root rest with
      | (made, none) => made.settle (made.ensureFolder working path)
      | failed => failed
    | _ => tree.settle (tree.ensureFolder working path)

/-- Makes a folder and the folders that it needs, where they are missing. What was made before
a failure stays. -/
def makeFolders (tree : FileTree) (working : Location) (path : Path) :
    FileTree × Option FileFault :=
  if path.holdsNull then (tree, some .nullCharacter)
  else tree.makeReversed working path.root path.names.reverse

/-- The tree with a folder and the folders that it needs. -/
def ensureFolders (tree : FileTree) (working : Location) (path : Path) :
    Except FileFault FileTree :=
  match tree.makeFolders working path with
  | (made, none) => .ok made
  | (_, some fault) => .error fault

/-- The content of the file at a path. -/
def readContent (tree : FileTree) (working : Location) (path : Path) :
    Except FileFault Content :=
  if path.holdsNull then .error .nullCharacter
  else
    match tree.look working path with
    | .ok (_, some (.file content)) => .ok content
    | .ok (_, some .folder) => .error (.problem .isFolder path.text)
    | .ok (_, none) => .error (.problem .missing path.text)
    | .error problem => .error (.problem problem path.text)

/-- The bytes of the file at a path. -/
def readBytes (tree : FileTree) (working : Location) (path : Path) :
    Except FileFault (List UInt8) := do
  .ok (← tree.readContent working path).data

/-- Puts a content into the file at a path, which is made if nothing stands there. -/
def writeContent (tree : FileTree) (working : Location) (path : Path) (content : Content) :
    Except FileFault FileTree :=
  if path.holdsNull then .error .nullCharacter
  else
    match tree.look working path with
    | .ok (_, some .folder) => .error (.problem .isFolder path.text)
    | .ok (location, _) => .ok (tree.put location (.file content))
    | .error problem => .error (.problem problem path.text)

/-- Writes bytes into the file at a path. -/
def writeBytes (tree : FileTree) (working : Location) (path : Path) (data : List UInt8) :
    Except FileFault FileTree :=
  tree.writeContent working path (.bytes data)

/-- Removes the file at a path, if a file stands there. -/
def removeFile (tree : FileTree) (working : Location) (path : Path) : FileTree :=
  match tree.look working path with
  | .ok (location, some (.file _)) => tree.erase location
  | _ => tree

/-- Moves a file to another path, replacing a file that stands there. -/
def renameFile (tree : FileTree) (working : Location) (source target : Path) :
    Except FileFault FileTree :=
  match tree.look working source, tree.look working target with
  | .ok (from_, some (.file content)), .ok (to_, found) =>
    if found = some .folder then .error (.problem .isFolder target.text)
    else .ok ((tree.erase from_).put to_ (.file content))
  | .error problem, _ => .error (.problem problem source.text)
  | _, .error problem => .error (.problem problem target.text)
  | _, _ => .error (.problem .missing source.text)

/-- Removes whatever stands at a path. -/
def removeAll (tree : FileTree) (working : Location) (path : Path) : FileTree :=
  match tree.locate working path with
  | .ok location => tree.eraseBelow location
  | .error _ => tree

end FileTree
end Depot
