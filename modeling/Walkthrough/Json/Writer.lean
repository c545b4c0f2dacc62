import Walkthrough.Json
import Walkthrough.Text.Quoted
/-!
Writing a dynamic value as a JSON text. How a floating number is written is for the caller to say.
-/

namespace Walkthrough.Json

def escapedLetter (letter : Char) : List Char :=
  if letter = '"' || letter = '\\' then ['\\', letter]
  else if letter.toNat < 32 then '\\' :: 'u' :: Text.hexDigits 4 letter.toNat
  else [letter]

def writtenText (content : String) : String :=
  String.ofList ('"' :: content.toList.flatMap escapedLetter ++ ['"'])

mutual

def written (real : Float → String) : Json → String
  | null => "null"
  | bool truth => if truth then "true" else "false"
  | int number => toString number
  | float number => real number
  | text content => writtenText content
  | list items => "[" ++ writtenItems real items ++ "]"
  | object fields => "\x7b" ++ writtenFields real fields ++ "\x7d"

def writtenItems (real : Float → String) : List Json → String
  | [] => ""
  | [item] => written real item
  | item :: rest => written real item ++ "," ++ writtenItems real rest

def writtenFields (real : Float → String) : List (String × Json) → String
  | [] => ""
  | [(name, value)] => writtenText name ++ ":" ++ written real value
  | (name, value) :: rest =>
      writtenText name ++ ":" ++ written real value ++ "," ++ writtenFields real rest

end

end Walkthrough.Json
