import Depot.Command.Argument
import Depot.Command.Console
import Depot.Command.Line
import Depot.Coordinator
import Depot.File.Walk
import Depot.Json.Writer

/-!
# Running commands

A command opens the depot that its settings describe, does its work, closes the depot, and
reports what its console shows and how it ends. A failure with a title that comes up while the
command works ends it with one line and exit code 1; any other failure, and every failure
to open the depot, is passed on. So is the fault of a console that cannot show an output.
-/

namespace Depot

/-- How a command ends. -/
inductive Ending where
  | exit (code : Nat)
  /-- An argument was refused, which ends the command with exit code 2. -/
  | refused (error : ArgumentError)
  /-- A failure was passed on. -/
  | crashed (failure : Failure)

/-- A server that a command starts. -/
structure Server where
  config : Config
  host : String
  /-- The number of the socket that it listens on. -/
  socket : Int

/-- Everything that a command leaves behind outside the depot. -/
structure Report where
  /-- What the console shows. -/
  output : List Output
  /-- Bytes written to the standard output. -/
  payload : List UInt8
  served : Option Server
  ending : Ending

namespace Report

/-- A report of an exit code. -/
def exited (code : Nat) : Report := ⟨[], [], none, .exit code⟩

/-- The exit code of a command that was not understood. -/
def misuseCode : Nat := 2

/-- The report of a command that was not understood. -/
def misuse : Report := exited misuseCode

/-- The report of a refused argument. -/
def refused (error : ArgumentError) : Report := ⟨[], [], none, .refused error⟩

/-- The report of a failure that is passed on. -/
def crashed (failure : Failure) : Report := ⟨[], [], none, .crashed failure⟩

/-- The report with outputs in front. -/
def after (shown : List Output) (report : Report) : Report :=
  { report with output := shown ++ report.output }

/-- Shows outputs one after the other before a report. The first one that the console cannot show
is the end. -/
def printing (console : Console) (report : Report) : List Output → Report
  | [] => report
  | output :: rest =>
    match console.print output with
    | .error fault => crashed fault.failure
    | .ok shown => (printing console report rest).after [shown]

/-- A report of a line and an exit code. -/
def ofLine (console : Console) (line : String) (code : Nat) : Report :=
  printing console (exited code) [.line line]

/-- The line that shows a failure with a title. -/
def failureLine (title : String) (failure : Failure) : String :=
  "[red]" ++ title ++ ": " ++ failure.message ++ "[/red]"

/-- The report of a failure that came up at work. -/
def failed (console : Console) (failure : Failure) : Report :=
  match failure.title? with
  | some title => ofLine console (failureLine title failure) 1
  | none => crashed failure

/-- The report of a command whose arguments are refused. -/
def ofError (console : Console) : CommandError → Report
  | .argument error => refused error
  | .failure failure => failed console failure

end Report

/-- What a command has to say about how it ended, beyond its exit code. -/
def Ending.remarks : Ending → List String
  | .exit _ => []
  | .refused error => ["Invalid value for " ++ error.option ++ ": " ++ error.message]
  | .crashed failure => [failure.message]

/-- The exit code of an ending; a failure that was passed on counts as one. -/
def Ending.code : Ending → Nat
  | .exit code => code
  | .refused _ => Report.misuseCode
  | .crashed _ => 1

namespace Command

/-- The surroundings of a command. -/
def surroundings (world : World) (environment : List (String × String)) : Surroundings :=
  ⟨((environment.find? fun entry => entry.1 == "HOME").map Prod.snd).getD "",
    world.tree.occupied world.working (.ofText "data"), false⟩

/-- The settings of a command. A data folder that is named takes the place of all paths from
the environment. -/
def settings (world : World) (environment : List (String × String))
    (dataFolder : Option String) : Except Failure Config :=
  match Config.ofEnvironment (surroundings world environment) environment with
  | .error error => .error (.setting error)
  | .ok config =>
    match dataFolder with
    | none => .ok config
    | some folder =>
      (Config.make (surroundings world environment) (some (.ofText folder)) none none
        config.defaultPageSize config.fetchConcurrency).mapError .setting

/-- Opens the depot of settings for a piece of work and closes it afterwards. -/
def withDepot (world : World) (config : Except Failure Config)
    (work : Coordinator → Report × Coordinator) : Report × World :=
  match config with
  | .error failure => (.crashed failure, world)
  | .ok config =>
    match Coordinator.openDepot world config none with
    | (.error failure, after) => (.crashed failure, after)
    | (.ok opened, _) =>
      let (report, coordinator) := work opened
      (report, coordinator.close)

/-- The location that a text leads to when two dots drop the name before them, whatever
stands in the tree, as an absolute path. -/
def absolutePath (working : Location) (text : String) : Path :=
  let path := Path.ofText text
  let start := if path.isAbsolute then [] else working
  ⟨.single, path.names.foldl
    (fun names name => if name = ".." then names.dropLast else names ++ [name]) start⟩

/-- Stores files one after the other, up to the first failure. -/
def storeFiles (console : Console) (world : World) (coordinator : Coordinator) :
    List Path → Report × Coordinator
  | [] => (.exited 0, coordinator)
  | path :: rest =>
    match world.tree.readBytes world.working path with
    | .error fault => (.crashed (.file fault), coordinator)
    | .ok data =>
      match coordinator.store (.bytes data) with
      | (.error failure, after) => (.failed console failure, after)
      | (.ok hash, after) =>
        match console.print (.line (hash ++ "  " ++ path.text)) with
        | .error fault => (.crashed fault.failure, after)
        | .ok shown =>
          let (report, final) := storeFiles console world after rest
          (report.after [shown], final)

/-- The line that shows where a document was filed. -/
def placementLine (placement : Placement) : String :=
  "Indexed [bold]" ++ placement.indexName ++ "/" ++ placement.documentId ++ "[/bold] -> " ++
    placement.contentHash

/-- The report of a document that was filed. -/
def placementReport (console : Console) : Except Failure Placement → Report
  | .ok placement => .ofLine console (placementLine placement) 0
  | .error failure => .failed console failure

/-- Hands over a payload: to the standard output, or to a file if one is named. -/
def deliver (console : Console) (world : World) (payload : List UInt8) (output : Option String) :
    Report × World :=
  match output with
  | none => ({ Report.exited 0 with payload := payload }, world)
  | some text =>
    let path := Path.ofText text
    match world.tree.writeBytes world.working path payload with
    | .error fault => (.crashed (.file fault), world)
    | .ok tree =>
      (.ofLine console ("Wrote " ++ toString payload.length ++ " bytes to [bold]" ++ path.text ++
        "[/bold]") 0, { world with tree := tree })

/-- The cells of a document in a table of results. -/
def cells (metadata : Metadata) (size : Option Nat) : List String :=
  [metadata.documentId, metadata.contentHash, metadata.contentType.getD "",
    Json.write (.record metadata.fieldEntries)] ++ (size.map toString).toList

/-- The headers of a table of results. -/
def headers (fetch : Bool) : List String :=
  ["Id", "Hash", "Content type", "Fields"] ++ (if fetch then ["Bytes"] else [])

/-- The report of a page of results: a table and the page's numbers, or a remark that nothing
was found. -/
def pageReport (console : Console) (fetch : Bool) (page : Page (Metadata × Option Nat)) : Report :=
  if page.content.isEmpty then .ofLine console "[yellow]No matches found.[/yellow]" 0
  else
    .printing console (.exited 0)
      [.table (headers fetch) (page.content.map fun item => cells item.1 item.2),
        .line ("Page " ++ toString (page.pageNumber + 1) ++ "/" ++
          toString (max page.totalPages 1) ++ ", " ++ toString page.totalElements ++ " total")]

/-- The results of a search as rows of a table. -/
def searchRows (coordinator : Coordinator) (arguments : SearchArguments)
    (query : Option Query) (request : PageRequest) :
    Except Failure (Page (Metadata × Option Nat)) :=
  if arguments.fetch then do
    let page ← coordinator.searchAndFetch arguments.indexName query (some request) none
    .ok (page.withContent (page.content.filterMap fun item =>
      item.metadata.map fun metadata => (metadata, some item.payload.length)))
  else do
    let page ← coordinator.search arguments.indexName query (some request)
    .ok (page.withContent (page.content.map fun metadata => (metadata, none)))

/-- The order that a search asks for; an empty name asks for none. -/
def sortOrder (arguments : SearchArguments) : Option SortOrder :=
  (arguments.sort.filter (· != "")).map fun name =>
    ⟨.text name, .text (if arguments.descending then SortDirection.descending.label
      else SortDirection.ascending.label)⟩

/-- Runs a search. The query and the page are made before the depot is opened. -/
def runSearch (console : Console) (world : World) (config : Except Failure Config)
    (arguments : SearchArguments) : Report × World :=
  match config with
  | .error failure => (.crashed failure, world)
  | .ok settings =>
    match readQuery arguments.equalities arguments.present arguments.document with
    | .error error => (.ofError console error, world)
    | .ok query =>
      let size : Int := match arguments.size with
        | some size => size
        | none => settings.defaultPageSize
      match PageRequest.make arguments.page size (sortOrder arguments) with
      | .error error => (.crashed (.page error), world)
      | .ok request =>
        withDepot world config fun coordinator =>
          match searchRows coordinator arguments query request with
          | .error failure => (.failed console failure, coordinator)
          | .ok page => (pageReport console arguments.fetch page, coordinator)

/-- Runs a piece of work that looks something up and hands over its payload once the depot
is closed. The work gives the payload or the report that ends the command. -/
def runLookUp (console : Console) (world : World) (config : Except Failure Config)
    (output : Option String) (work : Coordinator → Except Report (List UInt8)) : Report × World :=
  match config with
  | .error failure => (.crashed failure, world)
  | .ok config =>
    match Coordinator.openDepot world config none with
    | (.error failure, after) => (.crashed failure, after)
    | (.ok opened, _) =>
      match work opened with
      | .error report => (report, opened.close)
      | .ok payload => deliver console opened.close payload output

/-- Runs a command whose paths can be looked up. -/
def work (console : Console) (world : World) (environment : List (String × String))
    (line : CommandLine) : Report × World :=
  let config := settings world environment line.dataFolder
  match line.command with
  | .store inputs =>
    match world.tree.filesOf world.working (inputs.map (absolutePath world.working)) with
    | .error fault => (.crashed (.file fault), world)
    | .ok [] => (.ofLine console "[yellow]No files found.[/yellow]" 0, world)
    | .ok paths =>
      withDepot world config fun coordinator => storeFiles console world coordinator paths
  | .index indexName contentHash filing =>
    match readOptions filing.documentId filing.contentType filing.fields with
    | .error error => (.ofError console error, world)
    | .ok options =>
      withDepot world config fun coordinator =>
        let (result, after) := coordinator.file indexName contentHash options
        (placementReport console result, after)
  | .put path indexName filing =>
    if world.tree.isFile world.working (.ofText path) then
      match readOptions filing.documentId filing.contentType filing.fields with
      | .error error => (.ofError console error, world)
      | .ok options =>
        withDepot world config fun coordinator =>
          match world.tree.readBytes world.working (.ofText path) with
          | .error fault => (.crashed (.file fault), coordinator)
          | .ok data =>
            let (result, after) := coordinator.storeAndFile (.bytes data) indexName options
            (placementReport console result, after)
    else (.misuse, world)
  | .get _ contentHash output =>
    runLookUp console world config output fun coordinator =>
      match coordinator.fetch (.text contentHash) with
      | .error failure => .error (.failed console failure)
      | .ok payload => .ok payload
  | .getById indexName documentId output =>
    runLookUp console world config output fun coordinator =>
      match coordinator.retrieve indexName (.text documentId) with
      | .error failure => .error (.failed console failure)
      | .ok ⟨none, _⟩ =>
        .error (.ofLine console ("[yellow]Document " ++ documentId ++ " not found in " ++
          indexName ++ ".[/yellow]") 1)
      | .ok ⟨some _, payload⟩ => .ok payload
  | .search arguments => runSearch console world config arguments
  | .createIndex indexName =>
    withDepot world config fun coordinator =>
      match coordinator.createIndex indexName with
      | (.error failure, after) => (.failed console failure, after)
      | (.ok (), after) =>
        (.ofLine console ("Index [bold]" ++ indexName ++ "[/bold] ready.") 0, after)
  | .web host socket =>
    match config with
    | .error failure => (.crashed failure, world)
    | .ok settings =>
      (.printing console { Report.exited 0 with served := some ⟨settings, host, socket⟩ }
        [.line ("Starting REST API on http://" ++ host ++ ":" ++ toString socket ++ " (data: " ++
          settings.dataFolder.text ++ ")")], world)

/-- Runs a command. A path with a null character cannot even be looked up. -/
def run (console : Console) (world : World) (environment : List (String × String))
    (line : CommandLine) : Report × World :=
  if line.namedPaths.any fun text => (Path.ofText text).holdsNull then
    (.crashed (.file .nullCharacter), world)
  else work console world environment line

/-- Does what a list of words asks for. -/
def runWords (console : Console) (world : World) (environment : List (String × String))
    (words : List String) : Report × World :=
  match CommandLine.read words with
  | .help => (.exited 0, world)
  | .misuse => (.misuse, world)
  | .run line => run console world environment line

end Command
end Depot
