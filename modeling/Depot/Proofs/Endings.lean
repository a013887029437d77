import Depot.Proofs.Inquiries
import Depot.Proofs.Showing

/-!
# How commands end

A command meets a failure while it reads its query, while it opens its depot, or at what it calls on
the open depot. A failure with a title that it meets at work or while it reads ends it with one line
and exit code 1, if the console can show the line. One that it meets while it opens its depot is not
shown but passed on, so commands report all failures with a title exactly when their depot does not
fail to open with one and their console tells of the others.
-/

namespace Depot

namespace Report

/-- A report passes on a failure with a title. -/
def PassesOn (report : Report) (failure : Failure) : Prop :=
  report.ending = .crashed failure ∧ failure.title?.isSome = true

variable {failure : Failure}

/-- Exit codes pass nothing on. -/
theorem not_passesOn_exit {report : Report} {code : Nat} (exits : report.ending = .exit code) :
    ¬ report.PassesOn failure := by
  rintro ⟨crashes, -⟩
  rw [exits] at crashes
  cases crashes

/-- A failure without a title is passed on as what it is. -/
theorem not_passesOn_crashed {cause : Failure} (untitled : cause.title? = none) :
    ¬ (crashed cause).PassesOn failure := by
  rintro ⟨crashes, titled⟩
  cases crashes
  rw [untitled] at titled
  cases titled

/-- What a console shows before a report does not change what the report passes on, and the fault
of a console has no title. -/
theorem not_passesOn_printing {console : Console} {report : Report} {outputs : List Output}
    (keeps : ¬ report.PassesOn failure) : ¬ (printing console report outputs).PassesOn failure := by
  induction outputs with
  | nil => exact keeps
  | cons output rest inductionHypothesis =>
    rw [printing]
    split
    · exact not_passesOn_crashed rfl
    · exact inductionHypothesis

/-- Lines and exit codes pass nothing on that has a title. -/
theorem not_passesOn_ofLine (console : Console) (line : String) (code : Nat) :
    ¬ (ofLine console line code).PassesOn failure :=
  not_passesOn_printing (not_passesOn_exit rfl)

/-- A failure that came up at work is passed on only without a title. -/
theorem not_passesOn_failed (console : Console) (cause : Failure) :
    ¬ (failed console cause).PassesOn failure := by
  rw [failed]
  cases isTitle : cause.title? with
  | some title => exact not_passesOn_ofLine console _ 1
  | none => exact not_passesOn_crashed isTitle

/-- Refused arguments are never failures with a title that are passed on. -/
theorem not_passesOn_ofError (console : Console) (error : CommandError) :
    ¬ (ofError console error).PassesOn failure := by
  cases error with
  | argument error =>
    rintro ⟨crashes, -⟩
    cases crashes
  | failure cause => exact not_passesOn_failed console cause

/-- Outputs in front of a report with outputs in front come first. -/
theorem after_after (first second : List Output) (report : Report) :
    (report.after second).after first = report.after (first ++ second) := by
  rw [after, after, after, List.append_assoc]

end Report

/-- A console tells of a failure: it shows the title and the message of one that has a title. -/
def Console.Tells (console : Console) (failure : Failure) : Prop :=
  ∀ title, failure.title? = some title →
    console.print (.line (Report.failureLine title failure)) =
      .ok (.line (title ++ ": " ++ failure.message))

/-- A console tells of a failure exactly when all that there is to show of it comes after what has
been shown before. -/
theorem Console.tells_iff {console : Console} {failure : Failure} (shown : List Output) :
    console.Tells failure ↔
      (Report.failed console failure).after shown = (Report.ofFailure failure).after shown := by
  rw [Tells, Report.failed, Report.ofFailure]
  cases failure.title? with
  | none => simp
  | some title =>
    simp only [Option.some.injEq, forall_eq', Report.ofLine, Report.printing]
    cases console.print (.line (Report.failureLine title failure)) with
    | error fault => simp [Report.after, Report.crashed]
    | ok output => simp [Report.after, Report.exited]

/-- A console that reads markup tells of failures with plain messages. -/
theorem Console.ReadsMarkup.tells {console : Console} (reads : console.ReadsMarkup)
    {failure : Failure} (plain : ∀ title, failure.title? = some title →
      isPlain (title ++ ": " ++ failure.message) = true) : console.Tells failure :=
  (tells_iff []).mpr (by rw [Report.failed_eq_ofFailure reads plain])

namespace Command

/-- Files are stored one after the other: each of them is read, stored and shown on a line. -/
inductive Stores (console : Console) (world : World) :
    Coordinator → List Path → Coordinator → List Output → Prop
  | nil (coordinator : Coordinator) : Stores console world coordinator [] coordinator []
  | cons {coordinator next last : Coordinator} {path : Path} {rest : List Path}
    {data : List UInt8} {hash : String} {line : Output} {shown : List Output}
    (read : world.tree.readBytes world.working path = .ok data)
    (stored : coordinator.store (.bytes data) = (.ok hash, next))
    (printed : console.print (.line (hash ++ "  " ++ path.text)) = .ok line)
    (later : Stores console world next rest last shown) :
    Stores console world coordinator (path :: rest) last (line :: shown)

/-- What a search asks for: the query that its filters make together, and a page. -/
structure AsksPage (config : Config) (arguments : SearchArguments) (query : Option Query)
    (request : PageRequest) : Prop where
  accepted : readQuery arguments.equalities arguments.present arguments.document = .ok query
  paged : PageRequest.make arguments.page
    (arguments.size.elim config.defaultPageSize fun size => size) (sortOrder arguments) =
      .ok request

/-- What a command does before it opens its depot is in order: it names files that are there, its
options are accepted, its query is read and its page is one. -/
inductive Opens (world : World) (config : Config) : Command → Prop
  | store {inputs : List String} {paths : List Path}
    (found : world.tree.filesOf world.working (inputs.map (absolutePath world.working)) =
      .ok paths) (some : paths ≠ []) : Opens world config (.store inputs)
  | index {indexName contentHash : String} {filing : FilingArguments} {options : IndexOptions}
    (accepted : readOptions filing.documentId filing.contentType filing.fields = .ok options) :
    Opens world config (.index indexName contentHash filing)
  | put {path indexName : String} {filing : FilingArguments} {options : IndexOptions}
    (isFile : world.tree.isFile world.working (.ofText path) = true)
    (accepted : readOptions filing.documentId filing.contentType filing.fields = .ok options) :
    Opens world config (.put path indexName filing)
  | get (indexName contentHash : String) (output : Option String) :
    Opens world config (.get indexName contentHash output)
  | getById (indexName documentId : String) (output : Option String) :
    Opens world config (.getById indexName documentId output)
  | search {arguments : SearchArguments} {query : Option Query} {request : PageRequest}
    (asks : AsksPage config arguments query request) : Opens world config (.search arguments)
  | createIndex (indexName : String) : Opens world config (.createIndex indexName)

/-- What a command calls on an open depot fails after the command has shown some lines. A search
with payloads fails when the search fails or a payload cannot be had for any other reason than that
it is missing or out of reach. -/
inductive Fails (console : Console) (world : World) (config : Config) (coordinator : Coordinator) :
    Command → List Output → Failure → Prop
  | store {inputs : List String} {front rest : List Path} {path : Path} {last : Coordinator}
    {shown : List Output} {data : List UInt8} {failure : Failure}
    (found : world.tree.filesOf world.working (inputs.map (absolutePath world.working)) =
      .ok (front ++ path :: rest))
    (before : Stores console world coordinator front last shown)
    (read : world.tree.readBytes world.working path = .ok data)
    (failed : (last.store (.bytes data)).1 = .error failure) :
    Fails console world config coordinator (.store inputs) shown failure
  | index {indexName contentHash : String} {filing : FilingArguments} {options : IndexOptions}
    {failure : Failure}
    (accepted : readOptions filing.documentId filing.contentType filing.fields = .ok options)
    (failed : (coordinator.file indexName contentHash options).1 = .error failure) :
    Fails console world config coordinator (.index indexName contentHash filing) [] failure
  | put {path indexName : String} {filing : FilingArguments} {options : IndexOptions}
    {data : List UInt8} {failure : Failure}
    (isFile : world.tree.isFile world.working (.ofText path) = true)
    (accepted : readOptions filing.documentId filing.contentType filing.fields = .ok options)
    (read : world.tree.readBytes world.working (.ofText path) = .ok data)
    (failed : (coordinator.storeAndFile (.bytes data) indexName options).1 = .error failure) :
    Fails console world config coordinator (.put path indexName filing) [] failure
  | get {indexName contentHash : String} {output : Option String} {failure : Failure}
    (failed : coordinator.fetch (.text contentHash) = .error failure) :
    Fails console world config coordinator (.get indexName contentHash output) [] failure
  | getById {indexName documentId : String} {output : Option String} {failure : Failure}
    (failed : coordinator.retrieve indexName (.text documentId) = .error failure) :
    Fails console world config coordinator (.getById indexName documentId output) [] failure
  | search {arguments : SearchArguments} {query : Option Query} {request : PageRequest}
    {failure : Failure} (alone : arguments.fetch = false)
    (asks : AsksPage config arguments query request)
    (failed : coordinator.search arguments.indexName query (some request) = .error failure) :
    Fails console world config coordinator (.search arguments) [] failure
  | searchAndFetch {arguments : SearchArguments} {query : Option Query} {request : PageRequest}
    {failure : Failure} (withPayloads : arguments.fetch = true)
    (asks : AsksPage config arguments query request)
    (failed : coordinator.searchAndFetch arguments.indexName query (some request) none =
      .error failure) :
    Fails console world config coordinator (.search arguments) [] failure
  | createIndex {indexName : String} {failure : Failure}
    (failed : (coordinator.createIndex indexName).1 = .error failure) :
    Fails console world config coordinator (.createIndex indexName) [] failure

/-- The moments at which a command can meet a failure with a title. -/
inductive Moment where
  | reading
  | opening
  | working
  deriving DecidableEq

/-- A command meets a failure at some moment, after it has shown some lines. -/
inductive Meets (console : Console) (world : World) (environment : List (String × String))
    (line : CommandLine) : Moment → List Output → Failure → Prop
  | reading {arguments : SearchArguments} {config : Config} {failure : Failure}
    (plain : line.namedPaths.any (fun text => (Path.ofText text).holdsNull) = false)
    (configured : settings world environment line.dataFolder = .ok config)
    (isSearch : line.command = .search arguments)
    (refused : readQuery arguments.equalities arguments.present arguments.document =
      .error (.failure failure)) : Meets console world environment line .reading [] failure
  | opening {config : Config} {failure : Failure}
    (plain : line.namedPaths.any (fun text => (Path.ofText text).holdsNull) = false)
    (configured : settings world environment line.dataFolder = .ok config)
    (opens : line.command.Opens world config)
    (failed : (Coordinator.openDepot world config none).1 = .error failure) :
    Meets console world environment line .opening [] failure
  | working {config : Config} {coordinator : Coordinator} {shown : List Output}
    {failure : Failure}
    (plain : line.namedPaths.any (fun text => (Path.ofText text).holdsNull) = false)
    (configured : settings world environment line.dataFolder = .ok config)
    (opened : (Coordinator.openDepot world config none).1 = .ok coordinator)
    (fails : line.command.Fails console world config coordinator shown failure) :
    Meets console world environment line .working shown failure

section

variable {console : Console} {world : World} {environment : List (String × String)}
  {config : Config}
  {coordinator : Coordinator} {failure : Failure} {title : String}

/-- Settings are never refused with a title. -/
theorem title?_of_settings {dataFolder : Option String}
    (refused : settings world environment dataFolder = .error failure) : failure.title? = none := by
  rw [settings] at refused
  split at refused
  · cases refused
    rfl
  · split at refused
    · cases refused
    · rename_i folder
      cases made : Config.make (surroundings world environment) (some (.ofText folder)) none none
        _ _ with
      | error error => rw [made] at refused; cases refused; rfl
      | ok config => rw [made] at refused; cases refused

/-- A failure to open the depot is the end of a command. -/
theorem fst_withDepot_of_error
    (failed : (Coordinator.openDepot world config none).1 = .error failure)
    (work : Coordinator → Report × Coordinator) :
    (withDepot world (.ok config) work).1 = .crashed failure := by
  have outcome : Coordinator.openDepot world config none =
      (.error failure, (Coordinator.openDepot world config none).2) := Prod.ext failed rfl
  rw [withDepot, outcome]

/-- A failure to open the depot is the end of a look-up. -/
theorem fst_runLookUp_of_error
    (failed : (Coordinator.openDepot world config none).1 = .error failure)
    (output : Option String) (work : Coordinator → Except Report (List UInt8)) :
    (runLookUp console world (.ok config) output work).1 = .crashed failure := by
  have outcome : Coordinator.openDepot world config none =
      (.error failure, (Coordinator.openDepot world config none).2) := Prod.ext failed rfl
  rw [runLookUp, outcome]

/-- The report of a look-up that fails is the end of the command. -/
theorem fst_runLookUp_of_report
    (opened : (Coordinator.openDepot world config none).1 = .ok coordinator)
    (output : Option String) {work : Coordinator → Except Report (List UInt8)} {report : Report}
    (failed : work coordinator = .error report) :
    (runLookUp console world (.ok config) output work).1 = report := by
  have outcome : Coordinator.openDepot world config none =
      (.ok coordinator, (Coordinator.openDepot world config none).2) := Prod.ext opened rfl
  rw [runLookUp, outcome]
  simp only [failed]

/-- Files that have been stored are shown before what is reported of the remaining ones. -/
theorem storeFiles_of_stores {last : Coordinator} {front : List Path} {shown : List Output}
    (stores : Stores console world coordinator front last shown) (rest : List Path) :
    (storeFiles console world coordinator (front ++ rest)).1 =
      (storeFiles console world last rest).1.after shown := by
  induction stores with
  | nil coordinator => rfl
  | cons read stored printed later inductionHypothesis =>
    rw [List.cons_append, storeFiles]
    simp only [read, stored, printed, inductionHypothesis, Report.after_after]
    rfl

/-- A search whose query is refused with a failure shows it. -/
theorem fst_runSearch_of_refused {arguments : SearchArguments}
    (refused : readQuery arguments.equalities arguments.present arguments.document =
      .error (.failure failure)) :
    (runSearch console world (.ok config) arguments).1 = .failed console failure := by
  rw [runSearch]
  simp only [refused]
  rfl

/-- The work of a search on an open depot. -/
def showRows (console : Console) (arguments : SearchArguments) (query : Option Query)
    (request : PageRequest) (coordinator : Coordinator) : Report × Coordinator :=
  match searchRows coordinator arguments query request with
  | .error failure => (.failed console failure, coordinator)
  | .ok page => (pageReport console arguments.fetch page, coordinator)

/-- A search that asks for something does its work on the depot that it opens. -/
theorem runSearch_of_asks {arguments : SearchArguments} {query : Option Query}
    {request : PageRequest} (asks : AsksPage config arguments query request) :
    runSearch console world (.ok config) arguments =
      withDepot world (.ok config) (showRows console arguments query request) := by
  obtain ⟨accepted, paged⟩ := asks
  rw [runSearch]
  simp only [accepted]
  cases isSize : arguments.size with
  | none =>
    rw [isSize, Option.elim_none] at paged
    simp only [paged]
    rfl
  | some size =>
    rw [isSize, Option.elim_some] at paged
    simp only [paged]
    rfl

/-- A command that stores files stores what it has found. -/
theorem work_store {inputs : List String} {paths : List Path} {dataFolder : Option String}
    (configured : settings world environment dataFolder = .ok config)
    (found : world.tree.filesOf world.working (inputs.map (absolutePath world.working)) = .ok paths)
    (some : paths ≠ []) :
    work console world environment ⟨.store inputs, dataFolder⟩ =
      withDepot world (.ok config) fun coordinator =>
        storeFiles console world coordinator paths := by
  obtain ⟨path, rest, rfl⟩ := List.exists_cons_of_ne_nil some
  rw [work]
  simp only [configured, found]

/-- A command that opens its depot is ended by a failure to open it. -/
theorem fst_work_of_opening {line : CommandLine}
    (configured : settings world environment line.dataFolder = .ok config)
    (opens : line.command.Opens world config)
    (failed : (Coordinator.openDepot world config none).1 = .error failure) :
    (work console world environment line).1 = .crashed failure := by
  obtain ⟨command, dataFolder⟩ := line
  cases opens with
  | store found some =>
    rw [work_store configured found some]
    exact fst_withDepot_of_error failed _
  | index accepted =>
    simp only [work, configured, accepted]
    exact fst_withDepot_of_error failed _
  | put isFile accepted =>
    simp only [work, configured, isFile, if_true, accepted]
    exact fst_withDepot_of_error failed _
  | get indexName contentHash output =>
    simp only [work, configured]
    exact fst_runLookUp_of_error failed output _
  | getById indexName documentId output =>
    simp only [work, configured]
    exact fst_runLookUp_of_error failed output _
  | search asks =>
    simp only [work, configured, runSearch_of_asks asks]
    exact fst_withDepot_of_error failed _
  | createIndex indexName =>
    simp only [work, configured]
    exact fst_withDepot_of_error failed _

/-- A search that fails on its open depot is shown to have failed. -/
theorem fst_work_of_rows {arguments : SearchArguments} {query : Option Query}
    {request : PageRequest} {dataFolder : Option String}
    (configured : settings world environment dataFolder = .ok config)
    (opened : (Coordinator.openDepot world config none).1 = .ok coordinator)
    (asks : AsksPage config arguments query request)
    (rows : searchRows coordinator arguments query request = .error failure) :
    (work console world environment ⟨.search arguments, dataFolder⟩).1 =
      .failed console failure := by
  simp only [work, configured, runSearch_of_asks asks]
  rw [fst_withDepot opened, showRows, rows]

/-- A failure of what a command calls on its open depot is shown after the lines that the command
has shown before. -/
theorem fst_work_of_fails {line : CommandLine} {shown : List Output}
    (configured : settings world environment line.dataFolder = .ok config)
    (opened : (Coordinator.openDepot world config none).1 = .ok coordinator)
    (fails : line.command.Fails console world config coordinator shown failure) :
    (work console world environment line).1 = (Report.failed console failure).after shown := by
  obtain ⟨command, dataFolder⟩ := line
  cases fails with
  | @store inputs front rest path last _ data _ found before read failed =>
    have ofRest : (storeFiles console world last (path :: rest)).1 = .failed console failure := by
      rw [storeFiles]
      simp only [read]
      cases stored : last.store (.bytes data) with
      | mk result next =>
        rw [stored] at failed
        obtain rfl : result = .error failure := failed
        rfl
    rw [work_store configured found (by simp), fst_withDepot opened,
      storeFiles_of_stores before, ofRest]
  | index accepted failed =>
    simp only [work, configured, accepted]
    rw [fst_withDepot opened]
    simp only [failed]
    rfl
  | put isFile accepted read failed =>
    simp only [work, configured, isFile, if_true, accepted]
    rw [fst_withDepot opened]
    simp only [read, failed]
    rfl
  | get failed =>
    simp only [work, configured]
    exact fst_runLookUp_of_report opened _ (by simp only [failed]; rfl)
  | getById failed =>
    simp only [work, configured]
    exact fst_runLookUp_of_report opened _ (by simp only [failed]; rfl)
  | @search arguments query request _ alone asks failed =>
    have rows : searchRows coordinator arguments query request = .error failure := by
      rw [searchRows, alone, failed]
      rfl
    exact fst_work_of_rows configured opened asks rows
  | @searchAndFetch arguments query request _ withPayloads asks failed =>
    have rows : searchRows coordinator arguments query request = .error failure := by
      rw [searchRows, withPayloads, failed]
      rfl
    exact fst_work_of_rows configured opened asks rows
  | @createIndex indexName _ failed =>
    simp only [work, configured]
    rw [fst_withDepot opened]
    cases made : coordinator.createIndex indexName with
    | mk result after =>
      rw [made] at failed
      obtain rfl : result = .error failure := failed
      rfl

/-- A failure with a title that a command passes on comes from opening its depot, if its work passes
none on. -/
theorem of_passesOn_withDepot {work : Coordinator → Report × Coordinator}
    (passes : (withDepot world (.ok config) work).1.PassesOn failure)
    (keeps : ∀ coordinator, ¬ (work coordinator).1.PassesOn failure) :
    (Coordinator.openDepot world config none).1 = .error failure := by
  cases opening : (Coordinator.openDepot world config none).1 with
  | error cause =>
    rw [fst_withDepot_of_error opening] at passes
    cases passes.1
    rfl
  | ok coordinator =>
    rw [fst_withDepot opening] at passes
    exact absurd passes (keeps coordinator)

/-- Handing over a payload passes on no failure with a title. -/
theorem not_passesOn_deliver (payload : List UInt8) (output : Option String) :
    ¬ (deliver console world payload output).1.PassesOn failure := by
  cases output with
  | none => exact Report.not_passesOn_exit rfl
  | some text =>
    simp only [deliver]
    split
    · exact Report.not_passesOn_crashed rfl
    · exact Report.not_passesOn_ofLine console _ 0

/-- A failure with a title that a look-up passes on comes from opening its depot, if its work passes
none on. -/
theorem of_passesOn_runLookUp {output : Option String}
    {work : Coordinator → Except Report (List UInt8)}
    (passes : (runLookUp console world (.ok config) output work).1.PassesOn failure)
    (keeps : ∀ coordinator report, work coordinator = .error report →
      ¬ report.PassesOn failure) :
    (Coordinator.openDepot world config none).1 = .error failure := by
  rw [runLookUp] at passes
  split at passes
  · rename_i cause after opening
    cases passes.1
    rw [opening]
  · rename_i coordinator after opening
    split at passes
    · rename_i report ended
      exact absurd passes (keeps coordinator report ended)
    · exact absurd passes (not_passesOn_deliver _ output)

/-- Storing files passes on no failure with a title. -/
theorem not_passesOn_storeFiles (paths : List Path) :
    ¬ (storeFiles console world coordinator paths).1.PassesOn failure := by
  induction paths generalizing coordinator with
  | nil => exact Report.not_passesOn_exit rfl
  | cons path rest inductionHypothesis =>
    rw [storeFiles]
    split
    · exact Report.not_passesOn_crashed rfl
    · split
      · exact Report.not_passesOn_failed console _
      · split
        · exact Report.not_passesOn_crashed rfl
        · exact inductionHypothesis

/-- The report of a document that is filed passes on no failure with a title. -/
theorem not_passesOn_placementReport (result : Except Failure Placement) :
    ¬ (placementReport console result).PassesOn failure := by
  cases result with
  | error cause => exact Report.not_passesOn_failed console cause
  | ok placement => exact Report.not_passesOn_ofLine console _ 0

/-- A page passes nothing on. -/
theorem not_passesOn_pageReport (fetch : Bool) (page : Page (Metadata × Option Nat)) :
    ¬ (pageReport console fetch page).PassesOn failure := by
  rw [pageReport]
  split <;> exact Report.not_passesOn_printing (Report.not_passesOn_exit rfl)

/-- A failure with a title that a search passes on comes from opening its depot. -/
theorem of_passesOn_runSearch {arguments : SearchArguments}
    (passes : (runSearch console world (.ok config) arguments).1.PassesOn failure) :
    (Command.search arguments).Opens world config ∧
      (Coordinator.openDepot world config none).1 = .error failure := by
  rw [runSearch] at passes
  simp only at passes
  split at passes
  · exact absurd passes (Report.not_passesOn_ofError console _)
  · rename_i query accepted
    split at passes
    · exact absurd passes (Report.not_passesOn_crashed rfl)
    · rename_i request paged
      have asks : AsksPage config arguments query request := by
        refine ⟨accepted, ?_⟩
        rw [← paged]
        cases arguments.size <;> rfl
      refine ⟨.search asks, of_passesOn_withDepot passes fun coordinator => ?_⟩
      split
      · exact Report.not_passesOn_failed console _
      · exact not_passesOn_pageReport _ _

/-- A command whose settings are refused passes on no failure with a title. -/
theorem not_passesOn_work_of_refused {line : CommandLine} {cause : Failure}
    (refused : settings world environment line.dataFolder = .error cause) :
    ¬ (work console world environment line).1.PassesOn failure := by
  have untitled := title?_of_settings refused
  obtain ⟨command, dataFolder⟩ := line
  rw [work]
  simp only [refused]
  cases command with
  | store inputs =>
    simp only
    split
    · exact Report.not_passesOn_crashed rfl
    · exact Report.not_passesOn_ofLine console _ 0
    · exact Report.not_passesOn_crashed untitled
  | index indexName contentHash filing =>
    simp only
    split
    · exact Report.not_passesOn_ofError console _
    · exact Report.not_passesOn_crashed untitled
  | put path indexName filing =>
    simp only
    split
    · split
      · exact Report.not_passesOn_ofError console _
      · exact Report.not_passesOn_crashed untitled
    · exact Report.not_passesOn_exit rfl
  | get indexName contentHash output => exact Report.not_passesOn_crashed untitled
  | getById indexName documentId output => exact Report.not_passesOn_crashed untitled
  | search arguments => exact Report.not_passesOn_crashed untitled
  | createIndex indexName => exact Report.not_passesOn_crashed untitled
  | web host socket => exact Report.not_passesOn_crashed untitled

/-- A failure with a title that a command passes on comes from opening its depot. -/
theorem of_passesOn_work {line : CommandLine}
    (configured : settings world environment line.dataFolder = .ok config)
    (passes : (work console world environment line).1.PassesOn failure) :
    line.command.Opens world config ∧
      (Coordinator.openDepot world config none).1 = .error failure := by
  obtain ⟨command, dataFolder⟩ := line
  rw [work] at passes
  simp only [configured] at passes
  cases command with
  | store inputs =>
    simp only at passes
    split at passes
    · exact absurd passes (Report.not_passesOn_crashed rfl)
    · exact absurd passes (Report.not_passesOn_ofLine console _ 0)
    · rename_i paths some found
      exact ⟨.store found some, of_passesOn_withDepot passes fun coordinator =>
        not_passesOn_storeFiles paths⟩
  | index indexName contentHash filing =>
    simp only at passes
    split at passes
    · exact absurd passes (Report.not_passesOn_ofError console _)
    · rename_i options accepted
      exact ⟨.index accepted, of_passesOn_withDepot passes fun coordinator =>
        not_passesOn_placementReport _⟩
  | put path indexName filing =>
    simp only at passes
    split at passes
    · rename_i isFile
      split at passes
      · exact absurd passes (Report.not_passesOn_ofError console _)
      · rename_i options accepted
        refine ⟨.put isFile accepted, of_passesOn_withDepot passes fun coordinator => ?_⟩
        split
        · exact Report.not_passesOn_crashed rfl
        · exact not_passesOn_placementReport _
    · exact absurd passes (Report.not_passesOn_exit rfl)
  | get indexName contentHash output =>
    refine ⟨.get indexName contentHash output, of_passesOn_runLookUp passes ?_⟩
    intro coordinator report ended
    split at ended
    · cases ended
      exact Report.not_passesOn_failed console _
    · cases ended
  | getById indexName documentId output =>
    refine ⟨.getById indexName documentId output, of_passesOn_runLookUp passes ?_⟩
    intro coordinator report ended
    split at ended
    · cases ended
      exact Report.not_passesOn_failed console _
    · cases ended
      exact Report.not_passesOn_ofLine console _ 1
    · cases ended
  | search arguments => exact of_passesOn_runSearch passes
  | createIndex indexName =>
    refine ⟨.createIndex indexName, of_passesOn_withDepot passes fun coordinator => ?_⟩
    split
    · exact Report.not_passesOn_failed console _
    · exact Report.not_passesOn_ofLine console _ 0
  | web host socket =>
    exact absurd passes (Report.not_passesOn_printing (Report.not_passesOn_exit rfl))

/-- A command that meets a failure with a title while it reads or works shows it after what it has
shown before, and one that it meets while it opens its depot is passed on. -/
theorem fst_run_of_meets {line : CommandLine} {moment : Moment} {shown : List Output}
    (meets : Meets console world environment line moment shown failure) :
    (run console world environment line).1 =
      if moment = .opening then .crashed failure
      else (Report.failed console failure).after shown := by
  cases meets with
  | reading plain configured isSearch refused =>
    obtain ⟨command, dataFolder⟩ := line
    obtain rfl : command = .search _ := isSearch
    rw [run, plain, if_neg (by simp), if_neg (by decide), work]
    simp only [configured]
    exact fst_runSearch_of_refused refused
  | opening plain configured opens failed =>
    rw [run, plain, if_neg (by simp), if_pos rfl]
    exact fst_work_of_opening configured opens failed
  | working plain configured opened fails =>
    rw [run, plain, if_neg (by simp), if_neg (by decide)]
    exact fst_work_of_fails configured opened fails

/-- A failure with a title that a command passes on is one that it meets while it opens its
depot. -/
theorem meets_of_passesOn {line : CommandLine}
    (passes : (run console world environment line).1.PassesOn failure) :
    Meets console world environment line .opening [] failure := by
  rw [run] at passes
  split at passes
  · exact absurd passes (Report.not_passesOn_crashed rfl)
  · rename_i plain
    cases configured : settings world environment line.dataFolder with
    | error cause => exact absurd passes (not_passesOn_work_of_refused configured)
    | ok config =>
      obtain ⟨opens, failed⟩ := of_passesOn_work configured passes
      exact .opening (Bool.eq_false_iff.mpr plain) configured opens failed

/-- Words report failures: of a failure with a title that their command meets, at whatever moment,
all that there is to show comes after what has been shown before, and is the end; and no failure
with a title is passed on. -/
structure ReportsFailures (console : Console) (world : World)
    (environment : List (String × String)) (words : List String) (line : CommandLine) : Prop where
  shows : ∀ moment shown failure title, Meets console world environment line moment shown failure →
    failure.title? = some title →
      (runWords console world environment words).1 =
        ⟨shown ++ [.line (title ++ ": " ++ failure.message)], [], none, .exit 1⟩
  keeps : ∀ failure, ¬ (runWords console world environment words).1.PassesOn failure

/-- Words that ask for a command report failures exactly when the command meets no failure with a
title while it opens its depot and the console tells of those that it meets at other moments. Any
failure that it meets while it opens its depot is passed on. A console that reads markup tells of
failures with plain messages. -/
theorem reportsFailures_iff {words : List String} {line : CommandLine}
    (understood : CommandLine.read words = .run line) :
    (ReportsFailures console world environment words line ↔
        (∀ failure, Meets console world environment line .opening [] failure →
          failure.title? = none) ∧
        ∀ moment shown failure, Meets console world environment line moment shown failure →
          moment ≠ .opening → console.Tells failure) ∧
      (∀ failure, Meets console world environment line .opening [] failure →
        (runWords console world environment words).1 = .crashed failure) ∧
      (console.ReadsMarkup → ∀ failure : Failure,
        (∀ title, failure.title? = some title →
          Console.isPlain (title ++ ": " ++ failure.message) = true) →
        console.Tells failure) := by
  have isRun : runWords console world environment words = run console world environment line := by
    rw [runWords, understood]
  have passesOn (failure : Failure)
      (meets : Meets console world environment line .opening [] failure) :
      (runWords console world environment words).1 = .crashed failure := by
    rw [isRun, fst_run_of_meets meets, if_pos rfl]
  refine ⟨⟨fun reports => ⟨?_, ?_⟩, fun conditions => ⟨?_, ?_⟩⟩, passesOn,
    fun reads failure plain => reads.tells plain⟩
  · intro failure meets
    rw [← Option.not_isSome_iff_eq_none]
    intro titled
    refine reports.keeps failure ⟨?_, titled⟩
    rw [passesOn failure meets]
    rfl
  · intro moment shown failure meets working
    rw [Console.tells_iff shown]
    cases isTitle : failure.title? with
    | none => simp only [Report.failed, Report.ofFailure, isTitle]
    | some title =>
      have shows := reports.shows moment shown failure title meets isTitle
      rw [isRun, fst_run_of_meets meets, if_neg working] at shows
      rw [shows, Report.ofFailure, isTitle]
      rfl
  · intro moment shown failure title meets isTitle
    by_cases isOpening : moment = .opening
    · subst isOpening
      cases meets with
      | opening plain configured opens failed =>
        rw [conditions.1 failure (.opening plain configured opens failed)] at isTitle
        cases isTitle
    · have told := (Console.tells_iff shown).mp (conditions.2 moment shown failure meets isOpening)
      rw [isRun, fst_run_of_meets meets, if_neg isOpening, told, Report.ofFailure, isTitle]
      rfl
  · intro failure passes
    have titled := passes.2
    rw [isRun] at passes
    rw [conditions.1 failure (meets_of_passesOn passes)] at titled
    cases titled

end

/-- Words that ask for a payload. -/
def getWords : List String := ["get", "d", "h", "--data-dir", "data"]

/-- The command that the words ask for. -/
def getLine : CommandLine := ⟨.get "d" "h" none, some "data"⟩

/-- The command that asks an empty depot for a payload meets, while it works, that the payload is
missing, and nothing else. -/
theorem of_meets_getLine {moment : Moment} {shown : List Output} {failure : Failure}
    (meets : Meets .plain Session.emptyWorld [] getLine moment shown failure) :
    moment = .working ∧ failure = .notFound (.payload (.text "h")) := by
  cases meets with
  | reading plain configured isSearch refused => cases isSearch
  | opening plain configured opens failed =>
    cases (show Except.ok _ = Except.ok _ from configured)
    cases (show Except.ok _ = Except.error failure from failed)
  | working plain configured opened fails =>
    cases (show Except.ok _ = Except.ok _ from configured)
    cases (show Except.ok _ = Except.ok _ from opened)
    cases fails with
    | get failed =>
      cases (show Except.error _ = Except.error failure from failed)
      exact ⟨rfl, rfl⟩

/-- A payload that is missing is reported. -/
theorem reportsFailures_getLine :
    CommandLine.read getWords = .run getLine ∧
      ReportsFailures .plain Session.emptyWorld [] getWords getLine ∧
      (runWords .plain Session.emptyWorld [] getWords).1 =
        ⟨[.line "NotFound: Unknown content hash: h"], [], none, .exit 1⟩ := by
  have understood : CommandLine.read getWords = .run getLine := by rfl
  obtain ⟨iff, -, plainIsTold⟩ := @reportsFailures_iff .plain Session.emptyWorld [] _ _ understood
  have tells : Console.plain.Tells (.notFound (.payload (.text "h"))) :=
    plainIsTold Console.readsMarkup_plain _ fun title isTitle => by
      cases isTitle
      decide
  have reports : ReportsFailures .plain Session.emptyWorld [] getWords getLine := by
    refine iff.mpr ⟨fun failure meets => ?_, fun moment shown failure meets _ => ?_⟩
    · cases (of_meets_getLine meets).1
    · rw [(of_meets_getLine meets).2]
      exact tells
  refine ⟨understood, reports, ?_⟩
  exact reports.shows .working [] _ "NotFound" (.working rfl rfl rfl (.get rfl)) rfl

/-- A tree with a file where the folder of the payloads should be. -/
def blockedWorld : World :=
  ⟨⟨[(["data"], .folder), (["data", "blobs"], .file (.bytes [120]))]⟩, [], 0, []⟩

/-- On no console do the words that make an index report that the folder of the payloads cannot be
made. -/
theorem not_reportsFailures_blockedWorld :
    ∃ words line, CommandLine.read words = .run line ∧
      ∀ console, ¬ ReportsFailures console blockedWorld [] words line :=
  ⟨["create-index", "d", "--data-dir", "data"], ⟨.createIndex "d", some "data"⟩, by rfl,
    fun _ reports => reports.keeps _ ⟨rfl, rfl⟩⟩

end Command
end Depot
