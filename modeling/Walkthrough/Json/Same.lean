import Walkthrough.Json
import Walkthrough.Decimal.Binary64
/-!
When two dynamic values count as equal: numbers and truth values by their number, lists item by
item, objects field by field in any order.
-/

namespace Walkthrough.Json

open Walkthrough.Decimal

def wholeEquals (number : Int) (other : Float) : Bool :=
  match Binary64.ofFloat other with
  | .finite value => value.isWhole && value.truncated == number
  | _ => false

def numberEquals : Json → Json → Bool
  | int left, int right => left == right
  | int left, float right => wholeEquals left right
  | float left, int right => wholeEquals right left
  | float left, float right => left == right
  | _, _ => false

def asNumber : Json → Json
  | bool truth => int (if truth then 1 else 0)
  | value => value

mutual

def same : Json → Json → Bool
  | null, null => true
  | text left, text right => left == right
  | list left, list right => sameItems left right
  | object left, object right => left.length == right.length && sameFields left right
  | left, right => numberEquals (asNumber left) (asNumber right)

def sameItems : List Json → List Json → Bool
  | [], [] => true
  | left :: lefts, right :: rights => same left right && sameItems lefts rights
  | _, _ => false

def sameFields : List (String × Json) → List (String × Json) → Bool
  | [], _ => true
  | (name, value) :: rest, others =>
      (match Fields.lookup others name with
        | some other => same value other
        | none => false) && sameFields rest others

end

end Walkthrough.Json
