import Depot.Failure
import Depot.Text.Integer

/-!
# Settings

Where payloads and the index are kept, the page size of searches that name none, and how
many payloads are fetched at once. Settings come from arguments or from the variables of
an environment; an empty variable counts as absent.
-/

namespace Depot

/-- What the default data folder depends on. -/
structure Surroundings where
  home : String
  /-- Whether there is a local data folder. -/
  localData : Bool
  /-- Whether the program is installed as a single file. -/
  frozen : Bool

/-- The settings of a depot. -/
structure Config where
  dataFolder : Path
  indexPath : Path
  blobFolder : Path
  defaultPageSize : Int
  fetchConcurrency : Int
  deriving DecidableEq

/-- The number of payloads that are fetched at once unless settings say otherwise. -/
def defaultFetchConcurrency : Nat := 8

namespace Surroundings

/-- The home folder; slashes at its end do not count, and nothing is left for the root. A name
that starts with a tilde would itself have to be looked up, so no folder is known by it. -/
def homeFolder (surroundings : Surroundings) : Except SettingError Path :=
  let stripped := (surroundings.home.toList.reverse.dropWhile (· == '/')).reverse
  match stripped with
  | [] => .ok (.ofText "/")
  | '~' :: _ => .error .noHome
  | _ => .ok (.ofText (String.ofList stripped))

/-- The data folder of settings that name none: the local one for a program that is not
frozen, or else one in the home folder, which has to be known in either case. -/
def dataFolder (surroundings : Surroundings) : Except SettingError Path := do
  let home ← surroundings.homeFolder
  if !surroundings.frozen && surroundings.localData then .ok (.ofText "data")
  else .ok ((home.child "Documents").child "BlobSearch")

end Surroundings

namespace Config

/-- Settings from the parts that are given. -/
def make (surroundings : Surroundings) (dataFolder indexPath blobFolder : Option Path)
    (defaultPageSize fetchConcurrency : Int) : Except SettingError Config := do
  let folder ← match dataFolder with
    | some folder => .ok folder
    | none => surroundings.dataFolder
  .ok ⟨folder, indexPath.getD (folder.child "blobsearch.db"),
    blobFolder.getD (folder.child "blobs"), defaultPageSize, fetchConcurrency⟩

/-- What the names of all variables start with. -/
def variableMark : String := "BLOBSEARCH_"

/-- The value of a variable that is present and not empty. -/
def setting? (environment : List (String × String)) (name : String) : Option String :=
  ((environment.find? fun entry => entry.1 == variableMark ++ name).map Prod.snd).filter
    (· != "")

/-- The integer in a variable. -/
def integerVariable (environment : List (String × String)) (name : String) (default : Int) :
    Except SettingError Int :=
  match setting? environment name with
  | none => .ok default
  | some text =>
    match Text.integer? text with
    | some value => .ok value
    | none => .error (.notInteger (variableMark ++ name) text)

/-- Settings from the variables of an environment. -/
def ofEnvironment (surroundings : Surroundings) (environment : List (String × String)) :
    Except SettingError Config := do
  let path (name : String) : Option Path := (setting? environment name).map Path.ofText
  let pageSize ← integerVariable environment "PAGE_SIZE" Depot.defaultPageSize
  let concurrency ← integerVariable environment "FETCH_CONCURRENCY" defaultFetchConcurrency
  make surroundings (path "DATA_DIR") (path "DB") (path "BLOB_DIR") pageSize concurrency

/-- A path seen from a base folder, if there is one. -/
def resolve (base : Option Path) (path : Path) : Path :=
  match base with
  | none => path
  | some base => base.join path

/-- The file of the index. -/
def resolvedIndex (config : Config) (base : Option Path) : Path := resolve base config.indexPath

/-- The folder of the payloads. -/
def resolvedBlobs (config : Config) (base : Option Path) : Path := resolve base config.blobFolder

end Config
end Depot
