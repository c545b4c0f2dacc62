import Mathlib.Data.List.Sort
/-!
What comes before what in a list. In a list without repetitions this is a strict order, and a list
that goes through some of the items in that order is a part of the whole list.
-/

namespace Walkthrough

variable {α : Type} {order front rest : List α} {item other first second third : α}

/-- The one item stands somewhere before the other one. -/
def Before (order : List α) (first second : α) : Prop :=
  [first, second].Sublist order

instance [DecidableEq α] (order : List α) (first second : α) :
    Decidable (Before order first second) :=
  inferInstanceAs (Decidable ([first, second].Sublist order))

theorem Before.mem_left (before : Before order first second) : first ∈ order :=
  before.subset List.mem_cons_self

theorem Before.mem_right (before : Before order first second) : second ∈ order :=
  before.subset (List.mem_cons_of_mem _ List.mem_cons_self)

theorem before_iff_mem_front (distinct : (front ++ item :: rest).Nodup) :
    Before (front ++ item :: rest) other item ↔ other ∈ front := by
  constructor
  · intro before
    obtain ⟨earlier, later, parts, ahead, behind⟩ := List.sublist_append_iff.1 before
    cases earlier with
    | nil =>
        rw [List.nil_append] at parts
        subst parts
        have distinct_rest := List.nodup_cons.1 (List.nodup_append.1 distinct).2.1
        -- the item is not repeated in the rest
        have tail : [item].Sublist rest := by
          cases behind with
          | cons _ inside => exact (List.sublist_cons_self _ _).trans inside
          | cons_cons _ inside => exact inside
        exact absurd (List.singleton_sublist.1 tail) distinct_rest.1
    | cons _ _ =>
        obtain rfl := (List.cons.inj parts).1
        exact ahead.subset List.mem_cons_self
  · intro member
    exact (List.singleton_sublist.2 member).append (List.singleton_sublist.2 List.mem_cons_self)

theorem before_iff_mem_rest (distinct : (front ++ item :: rest).Nodup) :
    Before (front ++ item :: rest) item other ↔ other ∈ rest := by
  constructor
  · intro before
    have absent : item ∉ front := by
      intro member
      exact (List.nodup_append.1 distinct).2.2 item member item List.mem_cons_self rfl
    obtain ⟨earlier, later, parts, ahead, behind⟩ := List.sublist_append_iff.1 before
    cases earlier with
    | nil =>
        rw [List.nil_append] at parts
        subst parts
        cases behind with
        | cons _ inside => exact inside.subset (List.mem_cons_of_mem _ List.mem_cons_self)
        | cons_cons _ inside => exact inside.subset List.mem_cons_self
    | cons _ _ =>
        obtain rfl := (List.cons.inj parts).1
        exact absurd (ahead.subset List.mem_cons_self) absent
  · intro member
    exact ((List.singleton_sublist.2 member).cons_cons item).trans (List.sublist_append_right _ _)

theorem Before.ne (distinct : order.Nodup) (before : Before order first second) :
    first ≠ second :=
  distinct.forall_sublist before

theorem Before.trans (distinct : order.Nodup) (before : Before order first second)
    (after : Before order second third) : Before order first third := by
  obtain ⟨front, rest, rfl⟩ := List.mem_iff_append.1 after.mem_left
  rw [before_iff_mem_front distinct] at before
  rw [before_iff_mem_rest distinct] at after
  exact (List.singleton_sublist.2 before).append
    (List.singleton_sublist.2 (List.mem_cons_of_mem _ after))

theorem Before.asymm (distinct : order.Nodup) (before : Before order first second) :
    ¬Before order second first :=
  fun after => (before.trans distinct after).ne distinct rfl

theorem pairwise_before (order : List α) : order.Pairwise (Before order) :=
  List.pairwise_iff_forall_sublist.2 id

theorem sublist_of_ascending (distinct : order.Nodup) {part : List α} (subset : part ⊆ order)
    (ascending : part.Pairwise (Before order)) : part.Sublist order := by
  have antisymm : Std.Antisymm (Before order) :=
    ⟨fun _ _ before after => absurd after (before.asymm distinct)⟩
  have part_distinct : part.Nodup := ascending.imp fun before => before.ne distinct
  exact List.sublist_of_subperm_of_pairwise (List.subperm_of_subset part_distinct subset) ascending
    (pairwise_before order)

theorem filterMap_getElem?_range' (front rest : List α) :
    (List.range' front.length rest.length).filterMap (fun number =>
      (front ++ rest)[number]?) = rest := by
  induction rest generalizing front with
  | nil => simp
  | cons item rest ih =>
      have moved := ih (front ++ [item])
      rw [List.append_assoc, List.singleton_append, List.length_append, List.length_singleton]
        at moved
      rw [List.length_cons, List.range'_succ, List.filterMap_cons, moved]
      simp

end Walkthrough
