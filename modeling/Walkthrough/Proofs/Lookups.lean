import Mathlib.Data.List.Nodup
import Walkthrough.Fields
/-!
Looking fields up. An object answers with the first field of a name, and two objects behind each
other with the first one that knows the name. Where names are distinct, every field is found, and
fields that are assigned go before those that were there.
-/

namespace Walkthrough.Fields

variable {α : Type}

theorem lookup_append (first second : List (String × α)) (name : String) :
    lookup (first ++ second) name = (lookup first name).or (lookup second name) := by
  simp only [lookup, List.find?_append, Option.map_or]

theorem lookup_nil (name : String) : lookup ([] : List (String × α)) name = none := rfl

theorem lookup_cons (field : String × α) (rest : List (String × α)) (name : String) :
    lookup (field :: rest) name = if field.1 = name then some field.2 else lookup rest name := by
  unfold lookup
  by_cases same : field.1 = name <;> simp [same]

def names (fields : List (String × α)) : List String :=
  fields.map Prod.fst

theorem lookup_eq_none_iff {fields : List (String × α)} {name : String} :
    lookup fields name = none ↔ name ∉ names fields := by
  simp only [lookup, names, Option.map_eq_none_iff, List.find?_eq_none, beq_iff_eq, List.mem_map,
    not_exists, not_and]

theorem lookup_of_mem {fields : List (String × α)} {name : String} {value : α}
    (distinct : (names fields).Nodup) (member : (name, value) ∈ fields) :
    lookup fields name = some value := by
  induction fields with
  | nil => cases member
  | cons field rest ih =>
      obtain ⟨fresh, others⟩ := List.nodup_cons.1 distinct
      rcases List.mem_cons.1 member with rfl | later
      · simp [lookup]
      · have other : field.1 ≠ name := by
          intro same
          exact fresh (List.mem_map.2 ⟨_, later, same.symm⟩)
        simpa [lookup, other] using ih others later

theorem mem_of_lookup {fields : List (String × α)} {name : String} {value : α}
    (found : lookup fields name = some value) : (name, value) ∈ fields := by
  obtain ⟨⟨known, _⟩, first, rfl⟩ := Option.map_eq_some_iff.1 found
  obtain rfl : known = name := by simpa using List.find?_some first
  exact List.mem_of_find?_eq_some first

theorem lookup_eq_some_iff {fields : List (String × α)} {name : String} {value : α}
    (distinct : (names fields).Nodup) :
    lookup fields name = some value ↔ (name, value) ∈ fields :=
  ⟨mem_of_lookup, lookup_of_mem distinct⟩

theorem mem_names_assign {fields : List (String × α)} {name other : String} {value : α} :
    other ∈ names (assign fields name value) ↔ other = name ∨ other ∈ names fields := by
  rw [← not_iff_not, not_or, ← lookup_eq_none_iff, ← lookup_eq_none_iff]
  by_cases same : other = name
  · subst same
    simp [lookup_assign_same]
  · simp [lookup_assign_other fields same, same]

theorem nodup_names_assign {fields : List (String × α)} {name : String} {value : α}
    (distinct : (names fields).Nodup) : (names (assign fields name value)).Nodup := by
  induction fields with
  | nil => simp [assign, names]
  | cons field rest ih =>
      obtain ⟨fresh, others⟩ := List.nodup_cons.1 distinct
      unfold assign
      split
      · next same =>
          rw [beq_iff_eq] at same
          subst same
          exact distinct
      · next different =>
          refine List.nodup_cons.2 ⟨?_, ih others⟩
          intro member
          rcases mem_names_assign.1 member with same | known
          · simp [same] at different
          · exact fresh known

/-- Fields of distinct names, assigned one after the other, go before what was there. -/
theorem lookup_foldl_assign {fields lower : List (String × α)} {name : String}
    (distinct : (names fields).Nodup) :
    lookup (fields.foldl (fun given field => assign given field.1 field.2) lower) name =
      (lookup fields name).or (lookup lower name) := by
  -- on the fields, for any lower ones: each assignment is below the later ones
  induction fields generalizing lower with
  | nil => simp [lookup]
  | cons field rest ih =>
      obtain ⟨fresh, others⟩ := List.nodup_cons.1 distinct
      rw [List.foldl_cons, ih others]
      by_cases same : field.1 = name
      · subst same
        rw [lookup_eq_none_iff.2 fresh, lookup_assign_same]
        simp [lookup]
      · rw [lookup_assign_other _ (Ne.symm same)]
        simp [lookup, same]

theorem nodup_names_foldl_assign {fields lower : List (String × α)}
    (distinct : (names lower).Nodup) :
    (names (fields.foldl (fun given field => assign given field.1 field.2) lower)).Nodup := by
  induction fields generalizing lower with
  | nil => exact distinct
  | cons field rest ih => exact ih (nodup_names_assign distinct)

theorem assign_of_not_mem {fields : List (String × α)} {name : String}
    (fresh : name ∉ names fields) (value : α) :
    assign fields name value = fields ++ [(name, value)] := by
  induction fields with
  | nil => rfl
  | cons field rest ih =>
      simp only [names, List.map_cons, List.mem_cons, not_or] at fresh
      unfold assign
      have other : ¬ (field.1 == name) = true := fun same => fresh.1 (beq_iff_eq.1 same).symm
      rw [if_neg other, ih fresh.2, List.cons_append]

theorem foldl_assign_of_nodup {fields lower : List (String × α)}
    (distinct : (names (lower ++ fields)).Nodup) :
    fields.foldl (fun given field => assign given field.1 field.2) lower = lower ++ fields := by
  induction fields generalizing lower with
  | nil => simp
  | cons field rest ih =>
      have fresh : field.1 ∉ names lower := by
        intro known
        simp only [names, List.map_append, List.nodup_append] at distinct
        exact distinct.2.2 _ known field.1 (by simp) rfl
      rw [List.foldl_cons, assign_of_not_mem fresh, ih (by simpa using distinct)]
      simp

theorem filter_name {fields : List (String × α)} {name : String} {value : α}
    (distinct : (names fields).Nodup) (member : (name, value) ∈ fields) :
    (fields.filter fun field => field.1 == name) = [(name, value)] := by
  induction fields with
  | nil => cases member
  | cons field rest ih =>
      obtain ⟨fresh, others⟩ := List.nodup_cons.1 distinct
      rcases List.mem_cons.1 member with rfl | later
      · have alone : (rest.filter fun field => field.1 == name) = [] := by
          rw [List.filter_eq_nil_iff]
          intro other there same
          rw [beq_iff_eq] at same
          exact fresh (List.mem_map.2 ⟨other, there, same⟩)
        simp [alone]
      · have other : field.1 ≠ name := by
          intro same
          exact fresh (List.mem_map.2 ⟨_, later, same.symm⟩)
        simpa [other] using ih others later

end Walkthrough.Fields
