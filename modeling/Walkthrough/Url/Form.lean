import Walkthrough.Url.Percent
import Walkthrough.Text.Pieces
/-!
Parameters in the query of a URL: letters, digits and four signs stand for themselves, a space is
written as a plus sign, and every other byte as two hexadecimal digits.
-/

namespace Walkthrough.Url

open Text

def isPlainSign (letter : Char) : Bool :=
  letter.toNat < 128 &&
    (letter.isAlphanum || letter = '_' || letter = '.' || letter = '-' || letter = '~')

def encodeLetter (letter : Char) : List Char :=
  if isPlainSign letter then [letter]
  else if letter = ' ' then ['+']
  else escapeLetter letter

def encodeText (text : String) : String :=
  String.ofList (text.toList.flatMap encodeLetter)

def encodeParameters (parameters : List (String × String)) : String :=
  "&".intercalate (parameters.map fun parameter =>
    encodeText parameter.1 ++ "=" ++ encodeText parameter.2)

def decodeText (text : List Char) : String :=
  String.ofList (decodePercent (text.map fun letter => if letter = '+' then ' ' else letter))

def readParameters (query : List Char) : List (String × String) :=
  ((cut (· = '&') query).filter fun piece => !piece.isEmpty).map fun piece =>
    match breakAt ['='] piece with
    | some (name, value) => (decodeText name, decodeText value)
    | none => (decodeText piece, "")

end Walkthrough.Url
