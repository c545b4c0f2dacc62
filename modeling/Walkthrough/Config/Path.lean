import Walkthrough.Text.Pieces
/-!
Paths in their plain form: no empty and no `.` parts, and one slash at the root, or two where
exactly two were given.
-/

namespace Walkthrough.Path

open Text

def isSlash (letter : Char) : Bool :=
  letter = '/'

def root (text : List Char) : List Char :=
  let slashes := (text.takeWhile isSlash).length
  if slashes = 0 then [] else if slashes = 2 then ['/', '/'] else ['/']

def parts (text : List Char) : List (List Char) :=
  (cut isSlash text).filter fun part => part != [] && part != ['.']

def plainChars (text : List Char) : List Char :=
  match root text ++ ['/'].intercalate (parts text) with
  | [] => ['.']
  | path => path

def plain (text : String) : String :=
  String.ofList (plainChars text.toList)

/-- The parts that lead to where the path points, each `..` taking back the part before it. -/
def placeFrom (reached : List (List Char)) : List (List Char) → List (List Char)
  | [] => reached.reverse
  | part :: rest =>
      if part = ['.', '.'] then placeFrom reached.tail rest else placeFrom (part :: reached) rest

def place (text : String) : List (List Char) :=
  placeFrom [] (parts text.toList)

end Walkthrough.Path
