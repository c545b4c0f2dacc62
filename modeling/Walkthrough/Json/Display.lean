import Walkthrough.Json
import Walkthrough.Decimal.Shortest
import Walkthrough.Text.Quoted
/-!
The text of a dynamic value in a message. A text stands for itself at the top and in quotes inside
a list or an object.
-/

namespace Walkthrough.Json

mutual

def quotedForm : Json → String
  | null => "None"
  | bool true => "True"
  | bool false => "False"
  | int number => toString number
  | float number => Decimal.floatText number
  | text content => Text.quoted content
  | list items => "[" ++ joinItems items ++ "]"
  | object fields => "\x7b" ++ joinFields fields ++ "\x7d"

def joinItems : List Json → String
  | [] => ""
  | [item] => quotedForm item
  | item :: rest => quotedForm item ++ ", " ++ joinItems rest

def joinFields : List (String × Json) → String
  | [] => ""
  | [(name, value)] => Text.quoted name ++ ": " ++ quotedForm value
  | (name, value) :: rest =>
      Text.quoted name ++ ": " ++ quotedForm value ++ ", " ++ joinFields rest

end

def display : Json → String
  | text content => content
  | value => quotedForm value

end Walkthrough.Json
