/-!
# Paths

A path is a root and a list of names. Reading a path from text drops empty names and
single dots; two dots stay, since what they lead to depends on the directory tree.
Exactly two leading slashes are a root of their own.
-/

namespace Depot

/-- Where a path starts. -/
inductive PathRoot where
  | relative
  | single
  | double
  deriving DecidableEq

/-- The text in front of the names of a path. -/
def PathRoot.text : PathRoot → String
  | relative => ""
  | single => "/"
  | double => "//"

/-- A path in normal form. -/
structure Path where
  root : PathRoot
  names : List String
  deriving DecidableEq

namespace Path

/-- Splits characters at every slash. -/
def splitSlashes : List Char → List (List Char)
  | [] => [[]]
  | char :: rest =>
    if char = '/' then [] :: splitSlashes rest
    else
      match splitSlashes rest with
      | [] => [[char]]
      | first :: others => (char :: first) :: others

/-- The root that the leading slashes of a text stand for. -/
def rootOf : List Char → PathRoot
  | '/' :: '/' :: '/' :: _ => .single
  | '/' :: '/' :: _ => .double
  | '/' :: _ => .single
  | _ => .relative

/-- The names of a text, without the empty ones and single dots. -/
def namesOf (text : List Char) : List String :=
  ((splitSlashes text).map String.ofList).filter fun name => name != "" && name != "."

/-- The path that a text denotes. -/
def ofText (text : String) : Path := ⟨rootOf text.toList, namesOf text.toList⟩

/-- The text of a path; the path without root and names is a single dot. -/
def text (path : Path) : String :=
  if path.root = .relative ∧ path.names = [] then "."
  else path.root.text ++ "/".intercalate path.names

/-- Whether a path starts at a root. -/
def isAbsolute (path : Path) : Bool := path.root != .relative

/-- A path seen from another one; an absolute path stands for itself. -/
def join (base path : Path) : Path :=
  if path.isAbsolute then path else ⟨base.root, base.names ++ path.names⟩

/-- The path of an entry of a folder. -/
def child (folder : Path) (name : String) : Path := ⟨folder.root, folder.names ++ [name]⟩

/-- The folder of a path; a path without names is its own folder. -/
def parent (path : Path) : Path := ⟨path.root, path.names.dropLast⟩

/-- Whether a path holds a null character, which no name in a directory tree can. -/
def holdsNull (path : Path) : Bool := path.names.any fun name => name.toList.contains '\x00'

/-- The folder of an entry. -/
@[simp] theorem parent_child (folder : Path) (name : String) :
    (folder.child name).parent = folder := by
  simp [child, parent]

end Path
end Depot
