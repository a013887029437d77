import Depot.Text.Quoted

/-!
# Faults of file operations

A file operation fails for one of five reasons, which are reported with their number and
the path that was given, or because the path holds a null character and names nothing.
-/

namespace Depot

/-- Why a file operation failed. -/
inductive FileProblem where
  | missing
  | occupied
  | notFolder
  | isFolder
  | nameTooLong
  deriving DecidableEq

namespace FileProblem

/-- The number of a problem. -/
def number : FileProblem → Nat
  | missing => 2
  | occupied => 17
  | notFolder => 20
  | isFolder => 21
  | nameTooLong => 36

/-- The description of a problem. -/
def description : FileProblem → String
  | missing => "No such file or directory"
  | occupied => "File exists"
  | notFolder => "Not a directory"
  | isFolder => "Is a directory"
  | nameTooLong => "File name too long"

end FileProblem

/-- A failed file operation. -/
inductive FileFault where
  | problem (problem : FileProblem) (path : String)
  /-- The path holds a null character. -/
  | nullCharacter
  | reported (message : String)
  deriving DecidableEq

/-- The wording of a failed file operation. -/
def FileFault.message : FileFault → String
  | .problem cause path =>
    "[Errno " ++ toString cause.number ++ "] " ++ cause.description ++ ": " ++
      Text.quoted path
  | .nullCharacter => "embedded null byte"
  | .reported message => message

end Depot
