import Depot.Text.Basic
import Depot.Text.Numeral

/-!
# Command lines

A command line names a command and gives it options and operands in any order. A long
option takes its value after an equals sign or from the next word; short options may be
joined in one word, the last of them taking the rest of the word or the next word as its
value. Two dashes end the options. The last value of an option counts, except for options
that may be repeated.

`CommandLine.read` says what a list of words asks for: a command with its arguments, help,
or nothing that can be understood.
-/

namespace Depot

/-- The options of all commands. -/
inductive OptionName where
  | help
  | dataFolder
  | verbose
  | identifier
  | contentType
  | field
  | output
  | equality
  | present
  | query
  | page
  | size
  | sort
  | descending
  | fetch
  | host
  | socket
  deriving DecidableEq

namespace OptionName

/-- The long form of an option. -/
def long : OptionName → String
  | help => "--help"
  | dataFolder => "--data-dir"
  | verbose => "--verbose"
  | identifier => "--id"
  | contentType => "--content-type"
  | field => "--field"
  | output => "--output"
  | equality => "--eq"
  | present => "--exists"
  | query => "--query"
  | page => "--page"
  | size => "--size"
  | sort => "--sort"
  | descending => "--desc"
  | fetch => "--fetch"
  | host => "--host"
  | socket => "--port"

/-- The letter of an option that has a short form. -/
def letter? : OptionName → Option Char
  | verbose => some 'v'
  | field => some 'f'
  | output => some 'o'
  | query => some 'q'
  | _ => none

/-- Whether an option is given a value. -/
def takesValue : OptionName → Bool
  | help | verbose | descending | fetch => false
  | _ => true

end OptionName

/-- The commands. -/
inductive CommandName where
  | store
  | index
  | put
  | get
  | getById
  | search
  | createIndex
  | web
  deriving DecidableEq

namespace CommandName

/-- The word of a command. -/
def word : CommandName → String
  | store => "store"
  | index => "index"
  | put => "put"
  | get => "get"
  | getById => "get-id"
  | search => "search"
  | createIndex => "create-index"
  | web => "web"

/-- The command of a word. -/
def ofWord? (word : String) : Option CommandName :=
  [store, index, put, get, getById, search, createIndex, web].find? fun name => name.word == word

/-- The options that a command knows. -/
def options : CommandName → List OptionName
  | store => [.help, .dataFolder, .verbose]
  | index | put =>
    [.help, .dataFolder, .verbose, .identifier, .contentType, .field]
  | get | getById => [.help, .dataFolder, .output]
  | search =>
    [.help, .dataFolder, .verbose, .equality, .present, .query, .page, .size, .sort,
      .descending, .fetch]
  | createIndex => [.help, .dataFolder]
  | web => [.help, .dataFolder, .host, .socket]

end CommandName

/-- An option that was given, with its value if it takes one. -/
abbrev GivenOption := OptionName × String

/-- What one word with options holds: options that are complete, and one that takes the next
word as its value. -/
structure OptionWord where
  complete : List GivenOption
  pending : Option OptionName

namespace OptionWord

/-- Puts an option in front of what a word holds. -/
def cons (option : GivenOption) (word : OptionWord) : OptionWord :=
  { word with complete := option :: word.complete }

/-- The options of a word after its dash, one letter each. -/
def ofLetters? (known : List OptionName) : List Char → Option OptionWord
  | [] => some ⟨[], none⟩
  | letter :: rest =>
    match known.find? fun name => name.letter? == some letter with
    | none => none
    | some name =>
      if name.takesValue then
        if rest.isEmpty then some ⟨[], some name⟩
        else some ⟨[(name, String.ofList rest)], none⟩
      else (ofLetters? known rest).map (cons (name, ""))

/-- The option of a word in its long form. -/
def ofLong? (known : List OptionName) (text : List Char) : Option OptionWord :=
  match known.find? fun name => name.long.toList == text.takeWhile (· ≠ '=') with
  | none => none
  | some name =>
    match text.dropWhile (· ≠ '='), name.takesValue with
    | _ :: value, true => some ⟨[(name, String.ofList value)], none⟩
    | _ :: _, false => none
    | [], true => some ⟨[], some name⟩
    | [], false => some ⟨[(name, "")], none⟩

/-- What a word that starts with a dash holds. -/
def read? (known : List OptionName) : List Char → Option OptionWord
  | '-' :: '-' :: rest => ofLong? known ('-' :: '-' :: rest)
  | '-' :: letters => ofLetters? known letters
  | _ => none

end OptionWord

/-- Whether a word holds options: it starts with a dash and goes on after it. -/
def isOptionWord (word : String) : Bool :=
  match word.toList with
  | '-' :: _ :: _ => true
  | _ => false

/-- The options and the operands of a command's words. -/
def scanWords (known : List OptionName) :
    List String → Option (List GivenOption × List String)
  | [] => some ([], [])
  | word :: rest =>
    if word = "--" then some ([], rest)
    else if isOptionWord word then
      match OptionWord.read? known word.toList with
      | none => none
      | some ⟨complete, none⟩ =>
        (scanWords known rest).map fun (options, operands) => (complete ++ options, operands)
      | some ⟨complete, some name⟩ =>
        match rest with
        | [] => none
        | value :: later =>
          (scanWords known later).map fun (options, operands) =>
            (complete ++ (name, value) :: options, operands)
    else (scanWords known rest).map fun (options, operands) => (options, word :: operands)

/-- What a document is filed with. -/
structure FilingArguments where
  documentId : Option Text
  contentType : Option Text
  fields : List Text

/-- What is searched for, and how it is shown. -/
structure SearchArguments where
  indexName : String
  equalities : List Text
  present : List Text
  document : Option Text
  page : Nat
  size : Option Nat
  sort : Option String
  descending : Bool
  fetch : Bool

/-- A command with its arguments. -/
inductive Command where
  | store (inputs : List String)
  | index (indexName contentHash : String) (filing : FilingArguments)
  | put (path indexName : String) (filing : FilingArguments)
  | get (indexName contentHash : String) (output : Option String)
  | getById (indexName documentId : String) (output : Option String)
  | search (arguments : SearchArguments)
  | createIndex (indexName : String)
  | web (host : String) (socket : Int)

/-- The paths that a command names. -/
def Command.namedPaths : Command → List String
  | store inputs => inputs
  | put path _ _ => [path]
  | get _ _ output | getById _ _ output => output.toList
  | _ => []

/-- A command and the data folder that it works on, if one is named. -/
structure CommandLine where
  command : Command
  dataFolder : Option String

/-- The paths that a command line names. -/
def CommandLine.namedPaths (line : CommandLine) : List String :=
  line.command.namedPaths ++ line.dataFolder.toList

/-- What a list of words asks for. -/
inductive Request where
  | help
  | misuse
  | run (line : CommandLine)

namespace CommandLine

/-- The values of an option, in order. -/
def values (options : List GivenOption) (name : OptionName) : List String :=
  (options.filter fun option => option.1 == name).map Prod.snd

/-- The last value of an option. -/
def value? (options : List GivenOption) (name : OptionName) : Option String :=
  (values options name).getLast?

/-- Whether an option is given. -/
def isGiven (options : List GivenOption) (name : OptionName) : Bool :=
  !(values options name).isEmpty

/-- The integer that an option is given, if any; the outer nothing stands for a value that
is no numeral. -/
def integer? (options : List GivenOption) (name : OptionName) : Option (Option Int) :=
  match value? options name with
  | none => some none
  | some text => (Text.numeral? text).map some

/-- The natural that an option is given, if any, which must not be below `least`. -/
def natural? (options : List GivenOption) (name : OptionName) (least : Nat) :
    Option (Option Nat) :=
  match integer? options name with
  | none => none
  | some none => some none
  | some (some value) => if (least : Int) ≤ value then some (some value.toNat) else none

/-- The values of an option as texts, in order. -/
def texts (options : List GivenOption) (name : OptionName) : List Text :=
  (values options name).map Text.ofString

/-- The last value of an option as a text. -/
def text? (options : List GivenOption) (name : OptionName) : Option Text :=
  (texts options name).getLast?

/-- What a document is filed with. -/
def filing (options : List GivenOption) : FilingArguments :=
  ⟨text? options .identifier, text? options .contentType, texts options .field⟩

/-- The search that options ask for in an index. -/
def searchOf? (options : List GivenOption) (indexName : String) : Option Command := do
  let page ← natural? options .page 0
  let size ← natural? options .size 1
  some (.search {
    indexName := indexName
    equalities := texts options .equality
    present := texts options .present
    document := text? options .query
    page := page.getD 0
    size := size
    sort := value? options .sort
    descending := isGiven options .descending
    fetch := isGiven options .fetch })

/-- The command of a name with its options and operands. -/
def commandOf? (name : CommandName) (options : List GivenOption) (operands : List String) :
    Option Command :=
  match name, operands with
  | .store, first :: rest => some (.store (first :: rest))
  | .index, [indexName, contentHash] => some (.index indexName contentHash (filing options))
  | .put, [path, indexName] => some (.put path indexName (filing options))
  | .get, [indexName, contentHash] =>
    some (.get indexName contentHash (value? options .output))
  | .getById, [indexName, documentId] =>
    some (.getById indexName documentId (value? options .output))
  | .search, [indexName] => searchOf? options indexName
  | .createIndex, [indexName] => some (.createIndex indexName)
  | .web, [] =>
    (integer? options .socket).map fun socket =>
      .web ((value? options .host).getD "127.0.0.1") (socket.getD 8040)
  | _, _ => none

/-- What the words after a command's name ask for. Help is given whatever else is missing,
as long as all options are known. -/
def readCommand (name : CommandName) (words : List String) : Request :=
  match scanWords name.options words with
  | none => .misuse
  | some (options, operands) =>
    if isGiven options .help then .help
    else
      match commandOf? name options operands with
      | none => .misuse
      | some command => .run ⟨command, value? options .dataFolder⟩

/-- The words in front of a command's name, which may only ask for help: whether they do, and
the words from the name on. Nothing stands for an option that is not known. -/
def scanLeading (helped : Bool) : List String → Option (Bool × List String)
  | [] => some (helped, [])
  | word :: rest =>
    if word = "--" then some (helped, rest)
    else if word = OptionName.help.long then scanLeading true rest
    else if isOptionWord word then none
    else some (helped, word :: rest)

/-- Whether words start with a request for help and with nothing that is not known. -/
def asksForHelp (words : List String) : Bool :=
  match scanLeading false words with
  | some (helped, _) => helped
  | none => false

/-- What a list of words asks for. Words that name no command may still ask for help. -/
def read (words : List String) : Request :=
  match scanLeading false words with
  | some (true, _) => .help
  | some (false, word :: rest) =>
    match CommandName.ofWord? word with
    | some name => readCommand name rest
    | none => if asksForHelp (word :: rest) then .help else .misuse
  | _ => .misuse

end CommandLine
end Depot
