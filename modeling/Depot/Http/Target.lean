import Depot.Bytes.Encoding
import Depot.File.Path
import Depot.Text.Utf8

/-!
# Targets of requests

A target is a path and, after a question mark, parameters. Both may hold escapes: a percent
sign and two hexadecimal digits stand for a byte, and the bytes are read as UTF-8. A percent
sign without two digits after it stands for itself.
-/

namespace Depot.Http

/-- The bytes of characters with escapes. -/
def escapedBytes : List Char → List UInt8
  | [] => []
  | char :: rest =>
    let plain := Utf8.write (String.singleton char) ++ escapedBytes rest
    if char = '%' then
      match rest with
      | high :: low :: later =>
        match Hex.digitValue? high, Hex.digitValue? low with
        | some upper, some lower => UInt8.ofNat (16 * upper + lower) :: escapedBytes later
        | _, _ => plain
      | _ => plain
    else plain

/-- The text that escapes stand for. -/
def unescape (text : List Char) : String := Utf8.readLossy (escapedBytes text)

/-- The components of a path without those that are dots: a single dot is dropped, two dots
drop the component before them, but never the empty one that a path starts with. -/
def dropDots (components : List (List Char)) : List (List Char) :=
  components.foldl (fun kept component =>
    if component = ['.'] then kept
    else if component = ['.', '.'] then (if kept = [[]] then kept else kept.dropLast)
    else kept ++ [component]) []

/-- Where a request goes. -/
structure Target where
  path : String
  parameters : List (String × String)
  deriving DecidableEq

namespace Target

/-- What comes after the first occurrence of a mark, if there is one. -/
def after? (mark : Char) (text : List Char) : Option (List Char) :=
  match text.dropWhile (· ≠ mark) with
  | [] => none
  | _ :: rest => some rest

/-- Whether a character may stand in the name of a scheme. -/
def isSchemeChar (char : Char) : Bool :=
  char.isAlphanum || char == '+' || char == '.' || char == '-'

/-- A text that starts with the name of a scheme and a colon, without them. -/
def withoutScheme (text : List Char) : List Char :=
  match text.takeWhile isSchemeChar, text.dropWhile isSchemeChar with
  | first :: _, ':' :: rest => if first.isAlpha then rest else text
  | _, _ => text

/-- A path that starts with two slashes names a host first, which is left out. -/
def withoutHost : List Char → List Char
  | '/' :: '/' :: rest => rest.dropWhile (· ≠ '/')
  | path => path

/-- A path that starts with one slash and holds no dots. -/
def plainPath (text : List Char) : List Char :=
  ['/'].intercalate (dropDots ([] :: Path.splitSlashes (text.dropWhile (· = '/'))))

/-- The path of a target. Its dots are dropped before its escapes are read. -/
def readPath (text : List Char) : String := unescape (plainPath (withoutHost text))

/-- A parameter: a name and, after an equals sign, its value. Plus signs stand for spaces. -/
def readParameter (text : List Char) : String × String :=
  let spaced := text.map fun char => if char = '+' then ' ' else char
  (unescape (spaced.takeWhile (· ≠ '=')), unescape ((after? '=' spaced).getD []))

/-- Parameters with ampersands between them; what is empty is no parameter. -/
def readParameters (text : List Char) : List (String × String) :=
  ((text.splitOn '&').filter fun part => !part.isEmpty).map readParameter

/-- The target that a text denotes. Its scheme and what follows a number sign are left out. -/
def ofText (text : String) : Target :=
  let whole := withoutScheme (text.toList.takeWhile (· ≠ '#'))
  ⟨readPath (whole.takeWhile (· ≠ '?')), readParameters ((after? '?' whole).getD [])⟩

/-- The target at another path, in which every character stands for itself. -/
def withPath (target : Target) (path : String) : Target :=
  { target with path := String.ofList (plainPath path.toList) }

end Target
end Depot.Http
