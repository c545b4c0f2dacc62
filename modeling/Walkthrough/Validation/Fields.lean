import Walkthrough.Validation.Scalar
/-!
Reading the fields of an object. A field may be spelled in several ways; the first spelling in its
list that the object has is used, and every other key of the object is refused.
-/

namespace Walkthrough.Validation

/-- Issues of both sides, those of the left side first. -/
def also {α β : Type} (builder : Checked (α → β)) (value : Checked α) : Checked β :=
  match builder, value with
  | .ok build, .ok found => .ok (build found)
  | .ok _, .error issues => .error issues
  | .error issues, .ok _ => .error issues
  | .error earlier, .error later => .error (earlier ++ later)

structure Spelling where
  name : String
  others : List String

def Spelling.all (spelling : Spelling) : List String :=
  spelling.name :: spelling.others

/-- The key under which the object has the field, and its value. -/
def Spelling.find (spelling : Spelling) (fields : List (String × Json)) : Option (String × Json) :=
  spelling.all.findSome? fun key => (Fields.lookup fields key).map fun value => (key, value)

def located {α : Type} (key : String) (value : Json) : Except Defect α → Checked α
  | .ok found => .ok found
  | .error defect => .error [⟨[.field key], defect, value⟩]

def required {α : Type} (spelling : Spelling) (read : String → Json → Checked α)
    (fields : List (String × Json)) : Checked α :=
  match spelling.find fields with
  | some (key, value) => read key value
  | none => .error [⟨[.field spelling.name], .missing, .object fields⟩]

def optional {α : Type} (spelling : Spelling) (default : α) (read : String → Json → Checked α)
    (fields : List (String × Json)) : Checked α :=
  match spelling.find fields with
  | some (key, value) => read key value
  | none => .ok default

/-- A text, or nothing where it is absent, null or blank. -/
def blankAsNone : Json → Except Defect (Option String)
  | .null => .ok none
  | .text content => .ok (if Text.allBlank content then none else some content)
  | _ => .error .notText

def scalar {α : Type} (read : Json → Except Defect α) (key : String) (value : Json) : Checked α :=
  located key value (read value)

def unknownKeys (spellings : List Spelling) (fields : List (String × Json)) : Checked Unit :=
  let used := spellings.filterMap fun spelling => (spelling.find fields).map Prod.fst
  match fields.filter fun field => !used.contains field.1 with
  | [] => .ok ()
  | extra => .error (extra.map fun field => ⟨[.field field.1], .unknownField, field.2⟩)

def textMapping (key : String) (value : Json) : Checked (List (String × String)) :=
  match value with
  | .object fields =>
      let read := fields.map fun field =>
        match readText field.2 with
        | .ok content => (some (field.1, content), none)
        | .error defect =>
            (none, some (Issue.mk [.field key, .field field.1] defect field.2))
      match read.filterMap Prod.snd with
      | [] => .ok (read.filterMap Prod.fst)
      | issues => .error issues
  | _ => .error [⟨[.field key], .notMapping, value⟩]

/-- Every item of a list, its issues placed under its position. -/
def items {α : Type} (read : Json → Checked α) : Nat → List Json → Checked (List α)
  | _, [] => .ok []
  | position, item :: rest =>
      let first := match read item with
        | .ok value => Except.ok value
        | .error issues => .error (issues.map (Issue.inside (.index position)))
      also (also (.ok List.cons) first) (items read (position + 1) rest)

end Walkthrough.Validation
