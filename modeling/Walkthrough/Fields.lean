/-!
Named values in order: the fields of an object, of a table in a file, or of a set of settings.
-/

namespace Walkthrough.Fields

variable {α : Type}

def lookup (fields : List (String × α)) (name : String) : Option α :=
  (fields.find? fun field => field.1 == name).map Prod.snd

def assign (fields : List (String × α)) (name : String) (value : α) : List (String × α) :=
  match fields with
  | [] => [(name, value)]
  | field :: rest =>
      if field.1 == name then (name, value) :: rest else field :: assign rest name value

theorem lookup_assign_same (fields : List (String × α)) (name : String) (value : α) :
    lookup (assign fields name value) name = some value := by
  induction fields with
  | nil => simp [assign, lookup]
  | cons field rest ih =>
      unfold assign
      split
      · simp [lookup]
      · next other =>
          simp only [lookup, List.find?_cons, other] at ih ⊢
          exact ih

theorem lookup_assign_other (fields : List (String × α)) {name other : String}
    (distinct : other ≠ name) (value : α) :
    lookup (assign fields name value) other = lookup fields other := by
  induction fields with
  | nil => simp [assign, lookup, distinct.symm]
  | cons field rest ih =>
      unfold assign
      split
      · next same =>
          simp only [beq_iff_eq] at same
          simp [lookup, same, distinct.symm]
      · simp only [lookup, List.find?_cons] at ih ⊢
        split
        · rfl
        · exact ih

end Walkthrough.Fields
