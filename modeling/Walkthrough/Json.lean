import Walkthrough.Fields
/-!
Dynamic values: what a request carries, what a server answers and what a script in the page
returns. Whole numbers and floating ones are kept apart, and the fields of an object keep their
order.
-/

namespace Walkthrough

inductive Json where
  | null
  | bool (truth : Bool)
  | int (number : Int)
  | float (number : Float)
  | text (content : String)
  | list (items : List Json)
  | object (fields : List (String × Json))
deriving Inhabited, Repr

namespace Json

/-! Two values are the same value if they are built alike; doubles are compared bit by bit. -/

mutual

def decideEq : (left right : Json) → Decidable (left = right)
  | null, null => .isTrue rfl
  | bool left, bool right => decidable_of_iff (left = right) (by simp)
  | int left, int right => decidable_of_iff (left = right) (by simp)
  | float left, float right => decidable_of_iff (left = right) (by simp)
  | text left, text right => decidable_of_iff (left = right) (by simp)
  | list left, list right =>
      match decideItems left right with
      | .isTrue same => .isTrue (by rw [same])
      | .isFalse distinct => .isFalse (by simp [distinct])
  | object left, object right =>
      match decideFields left right with
      | .isTrue same => .isTrue (by rw [same])
      | .isFalse distinct => .isFalse (by simp [distinct])
  | null, bool _ | null, int _ | null, float _ | null, text _ | null, list _ | null, object _
  | bool _, null | bool _, int _ | bool _, float _ | bool _, text _ | bool _, list _
  | bool _, object _ | int _, null | int _, bool _ | int _, float _ | int _, text _
  | int _, list _ | int _, object _ | float _, null | float _, bool _ | float _, int _
  | float _, text _ | float _, list _ | float _, object _ | text _, null | text _, bool _
  | text _, int _ | text _, float _ | text _, list _ | text _, object _ | list _, null
  | list _, bool _ | list _, int _ | list _, float _ | list _, text _ | list _, object _
  | object _, null | object _, bool _ | object _, int _ | object _, float _ | object _, text _
  | object _, list _ => .isFalse (by simp)

def decideItems : (left right : List Json) → Decidable (left = right)
  | [], [] => .isTrue rfl
  | [], _ :: _ => .isFalse (by simp)
  | _ :: _, [] => .isFalse (by simp)
  | left :: lefts, right :: rights =>
      match decideEq left right, decideItems lefts rights with
      | .isTrue first, .isTrue rest => .isTrue (by rw [first, rest])
      | .isFalse first, _ => .isFalse (by simp [first])
      | _, .isFalse rest => .isFalse (by simp [rest])

def decideFields : (left right : List (String × Json)) → Decidable (left = right)
  | [], [] => .isTrue rfl
  | [], _ :: _ => .isFalse (by simp)
  | _ :: _, [] => .isFalse (by simp)
  | (name, left) :: lefts, (other, right) :: rights =>
      match (inferInstance : Decidable (name = other)), decideEq left right,
          decideFields lefts rights with
      | .isTrue named, .isTrue first, .isTrue rest => .isTrue (by rw [named, first, rest])
      | .isFalse named, _, _ => .isFalse (by simp [named])
      | _, .isFalse first, _ => .isFalse (by simp [first])
      | _, _, .isFalse rest => .isFalse (by simp [rest])

end

instance : DecidableEq Json := decideEq

/-- Empty values, zeros, `false` and `null` count as false. -/
def truthy : Json → Bool
  | null => false
  | bool truth => truth
  | int number => number != 0
  | float number => number != 0
  | text content => content != ""
  | list items => !items.isEmpty
  | object fields => !fields.isEmpty

def kindName : Json → String
  | null => "NoneType"
  | bool _ => "bool"
  | int _ => "int"
  | float _ => "float"
  | text _ => "str"
  | list _ => "list"
  | object _ => "dict"

def ofOption (value : Option String) : Json :=
  match value with
  | some content => text content
  | none => null

def ofNat (number : Nat) : Json :=
  int number

def texts (items : List String) : Json :=
  list (items.map text)

def pairs (fields : List (String × String)) : Json :=
  object (fields.map fun field => (field.1, text field.2))

end Json

end Walkthrough
