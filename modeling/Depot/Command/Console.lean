import Depot.Failure

/-!
# Consoles

A command shows what it has to say on a console, as lines and tables of texts with markup. How a
console reads markup is its own affair: it may leave out, replace or refuse what stands in a text.
Commands therefore take the console as a parameter. Two are given here: one that records outputs
with their markup, and one that knows the marks of commands alone and drops them.
-/

namespace Depot

/-- What a command shows: a line or a table. -/
inductive Output where
  | line (text : String)
  | table (headers : List String) (rows : List (List String))
  deriving DecidableEq

/-- Why a console cannot show an output, in its own words. -/
structure ConsoleFault where
  family : String
  message : String

/-- The failure of a command whose output cannot be shown. -/
def ConsoleFault.failure (fault : ConsoleFault) : Failure := .foreign fault.family fault.message

/-- A console shows an output with markup as one without, or cannot show it. How lines are broken
to fit a screen is left out. -/
structure Console where
  print : Output → Except ConsoleFault Output

namespace Console

/-- The console that keeps outputs as they are handed over. -/
def recording : Console := ⟨.ok⟩

/-- The marks that commands put into their lines. -/
def tags : List (List Char) :=
  ["[red]", "[/red]", "[yellow]", "[/yellow]", "[bold]", "[/bold]"].map String.toList

/-- The characters of a line without the marks of commands. -/
def withoutTags : List Char → List Char
  | [] => []
  | char :: rest =>
    match tags.find? fun tag => tag.isPrefixOf (char :: rest) with
    | some tag => withoutTags (rest.drop (tag.length - 1))
    | none => char :: withoutTags rest
termination_by text => text.length
decreasing_by
  all_goals simp only [List.length_cons, List.length_drop]; omega

/-- The console that drops the marks of commands and shows everything else as it is. -/
def plain : Console where
  print
    | .line text => .ok (.line (String.ofList (withoutTags text.toList)))
    | .table headers rows => .ok (.table headers rows)

end Console

/-- The lines that an output takes, with tabs between the cells of a table. -/
def Output.lines : Output → List String
  | .line text => [text]
  | .table headers rows => (headers :: rows).map fun row => "\t".intercalate row

end Depot
