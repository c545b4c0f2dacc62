import Walkthrough.Proofs.Asking
import Walkthrough.Guide.Trigger
/-!
Controls that stay rendered. While they do, looking them up always finds the same groups, marking a
step as completed marks its whole group or fails before it marks anything, and taking the marks off
again never fails.
-/

namespace Walkthrough

/-- Controls with their keys, and where they are found. -/
structure Rendering where
  rootSelector : String
  roots : List Element
  controls : List Element
  key : Element → Option String

namespace Rendering

def root (rendering : Rendering) : Option Element :=
  if rendering.rootSelector = "" then none else rendering.roots.head?

def group (rendering : Rendering) (key : String) : List Element :=
  rendering.controls.filter fun element => rendering.key element == some key

/-- The turn finds the controls rendered, and no call for the marks on them fails. -/
def Steady (rendering : Rendering) (turn : Turn) : Prop :=
  match turn with
  | ⟨.settings, tuning⟩ => tuning.contentRootSelector = .text rendering.rootSelector
  | ⟨.page (.query selector root), reply⟩ =>
      (root = none → selector = rendering.rootSelector → reply = .ok rendering.roots) ∧
      (root = rendering.root → selector = Control.controlSelector →
        reply = .ok rendering.controls)
  | ⟨.page (.attributes element), reply⟩ =>
      element ∈ rendering.controls → ∃ attributes, reply = .ok attributes ∧
        Control.key? attributes = rendering.key element
  | ⟨.page (.markCompleted _), reply⟩ | ⟨.page (.clearCompleted _), reply⟩
  | ⟨.page (.completionEvent ..), reply⟩ | ⟨.page .settle, reply⟩ => reply = .ok ()
  | _ => True

theorem mem_group {rendering : Rendering} {key : String} {element : Element} :
    element ∈ rendering.group key ↔
      element ∈ rendering.controls ∧ rendering.key element = some key := by
  simp [group]

theorem key_eq_of_mem {rendering : Rendering} {key other : String} {element : Element}
    (member : element ∈ rendering.group key) (again : element ∈ rendering.group other) :
    key = other := by
  have same := (mem_group.1 member).2.symm.trans (mem_group.1 again).2
  exact Option.some.inj same

end Rendering

namespace Control

open Run

theorem Groups.get_add (groups : Groups) (key other : String) (element : Element) :
    (groups.add key element).get other =
      if other = key then groups.get key ++ [element] else groups.get other := by
  induction groups with
  | nil =>
      by_cases same : other = key
      · simp [add, get, same]
      · simp [add, get, same, Ne.symm same]
  | cons group rest ih =>
      unfold add
      by_cases here : group.1 = key
      · subst here
        by_cases same : other = group.1
        · simp [get, same]
        · simp [get, same, Ne.symm same]
      · rw [if_neg here]
        have unlike : (group.1 == key) = false := by simpa using here
        simp only [get, List.find?_cons, unlike] at ih ⊢
        by_cases found : group.1 = other
        · subst found
          simp [here]
        · have unlike : (group.1 == other) = false := by simpa using found
          simp only [unlike]
          exact ih

variable {α : Type} {rendering : Rendering} {before after : Records} {trace : List Turn}

theorem steady_append {first second : List Turn}
    (steady : ∀ turn ∈ first ++ second, rendering.Steady turn) :
    (∀ turn ∈ first, rendering.Steady turn) ∧ ∀ turn ∈ second, rendering.Steady turn :=
  List.forall_mem_append.1 steady

theorem held_page_bind {call : PageCall} {next : call.Answer → Run α} {result : Except Fault α}
    (fits : call.Answer → Prop) (held : (Run.page call >>= next).Held before trace after result)
    (steady : ∀ turn ∈ trace, rendering.Steady turn)
    (answers : ∀ reply, rendering.Steady ⟨.page call, reply⟩ →
      ∃ answer, reply = .ok answer ∧ fits answer) :
    ∃ answer rest, fits answer ∧ (next answer).Held before rest after result ∧
      trace = ⟨.page call, .ok answer⟩ :: rest ∧ ∀ turn ∈ rest, rendering.Steady turn := by
  rcases held_bind.1 held with ⟨answer, _, _, rest, asked, tail, rfl⟩ | ⟨fault, failed, -⟩
  · obtain ⟨rfl, rfl⟩ := held_page.1 asked
    obtain ⟨_, same, fits⟩ := answers _ ((steady_append steady).1 _ List.mem_cons_self)
    cases same
    exact ⟨answer, rest, fits, tail, rfl, (steady_append steady).2⟩
  · obtain ⟨rfl, -⟩ := held_page.1 failed
    obtain ⟨_, same, -⟩ := answers _ (steady _ List.mem_cons_self)
    cases same

theorem held_duty_bind {call : PageCall} {next : call.Answer → Run α} {result : Except Fault α}
    (done : call.Answer) (held : (Run.page call >>= next).Held before trace after result)
    (steady : ∀ turn ∈ trace, rendering.Steady turn)
    (answers : ∀ reply, rendering.Steady ⟨.page call, reply⟩ → reply = .ok done) :
    ∃ rest, (next done).Held before rest after result ∧
      trace = ⟨.page call, .ok done⟩ :: rest ∧ ∀ turn ∈ rest, rendering.Steady turn := by
  obtain ⟨_, rest, rfl, tail, same, steady⟩ :=
    held_page_bind (· = done) held steady fun reply sure => ⟨done, answers reply sure, rfl⟩
  exact ⟨rest, tail, same, steady⟩

theorem held_groupAll {groups : Groups} {elements : List Element} {result : Except Fault Groups}
    (held : (groupAll groups elements).Held before trace after result)
    (steady : ∀ turn ∈ trace, rendering.Steady turn)
    (rendered : ∀ element ∈ elements, element ∈ rendering.controls) :
    ∃ all, result = .ok all ∧ ∀ key, all.get key =
      groups.get key ++ elements.filter fun element => rendering.key element == some key := by
  induction elements generalizing groups before trace with
  | nil =>
      obtain ⟨-, -, rfl⟩ := held_pure.1 held
      exact ⟨groups, rfl, by simp⟩
  | cons element rest ih =>
      obtain ⟨here, later⟩ := List.forall_mem_cons.1 rendered
      obtain ⟨attributes, _, key, tail, -, steady⟩ :=
        held_page_bind _ held steady fun _ answered => answered here
      split at tail
      · next own found =>
          obtain ⟨all, rfl, told⟩ := ih tail steady later
          refine ⟨all, rfl, ?_⟩
          intro other
          rw [told, Groups.get_add, List.filter_cons, ← key, found]
          by_cases same : other = own
          · subst same
            simp
          · simp [same, Ne.symm same]
      -- a control without a key belongs to no group
      · next none =>
          obtain ⟨all, rfl, told⟩ := ih tail steady later
          refine ⟨all, rfl, ?_⟩
          intro other
          rw [told, List.filter_cons, ← key, none]
          simp

theorem held_contentRoot {result : Except Fault (Option Element)}
    (held : contentRoot.Held before trace after result)
    (steady : ∀ turn ∈ trace, rendering.Steady turn) : result = .ok rendering.root := by
  obtain ⟨tuning, rest, tail, rfl⟩ := held_settings_bind.1 held
  obtain ⟨given, steady⟩ := List.forall_mem_cons.1 steady
  have given : tuning.contentRootSelector = .text rendering.rootSelector := given
  dsimp only at tail
  rw [given] at tail
  unfold Rendering.root
  by_cases whole : rendering.rootSelector = ""
  · rw [whole] at tail
    obtain ⟨-, -, rfl⟩ := held_pure.1 tail
    rw [if_pos whole]
  · rw [if_neg whole]
    have truthy : (Json.text rendering.rootSelector).truthy = true := by
      simpa [Json.truthy] using whole
    rw [truthy] at tail
    obtain ⟨_, ended, -, -⟩ :=
      held_duty_bind rendering.roots tail steady fun _ answered => answered.1 rfl rfl
    obtain ⟨-, -, rfl⟩ := held_pure.1 ended
    rfl

theorem held_groups {result : Except Fault Groups}
    (held : groups.Held before trace after result)
    (steady : ∀ turn ∈ trace, rendering.Steady turn) :
    ∃ all, result = .ok all ∧ ∀ key, all.get key = rendering.group key := by
  rcases held_bind.1 held with ⟨root, _, _, _, found, tail, rfl⟩ | ⟨fault, failed, -⟩
  · have same := held_contentRoot found (steady_append steady).1
    cases same
    obtain ⟨_, rest, -, steady⟩ := held_duty_bind rendering.controls tail
      (steady_append steady).2 fun _ answered => answered.2 rfl rfl
    exact held_groupAll rest steady fun _ member => member
  · have same := held_contentRoot failed steady
    cases same

def Stray (key : String) (fault : Fault) : Prop :=
  ∃ details, fault = .guide (.consistency ("Step not found for unique ID: " ++ key) details)

theorem held_groupOf {key : String} {result : Except Fault (List Element)}
    (held : (groupOf (some key)).Held before trace after result)
    (steady : ∀ turn ∈ trace, rendering.Steady turn) :
    (∃ fault, result = .error fault ∧
      (key ≠ "" → rendering.group key = [] ∧ Stray key fault)) ∨
    result = .ok (rendering.group key) ∧ rendering.group key ≠ [] := by
  unfold groupOf at held
  split at held
  · next none => cases none
  · next empty =>
      cases empty
      obtain ⟨-, -, rfl⟩ := held_throw.1 held
      exact .inl ⟨_, rfl, fun named => absurd rfl named⟩
  · next own _ same =>
      cases same
      rcases held_bind.1 held with ⟨all, _, _, _, found, rest, rfl⟩ | ⟨fault, failed, -⟩
      · obtain ⟨_, same, told⟩ := held_groups found (steady_append steady).1
        cases same
        dsimp only at rest
        rw [told] at rest
        split at rest
        · next none =>
            obtain ⟨-, -, rfl⟩ := held_throw.1 rest
            exact .inl ⟨_, rfl, fun _ => ⟨by simpa using none, _, rfl⟩⟩
        · next some =>
            obtain ⟨-, -, rfl⟩ := held_pure.1 rest
            exact .inr ⟨rfl, by simpa using some⟩
      · obtain ⟨_, same, -⟩ := held_groups failed steady
        cases same

def announces (asked : Request) : Prop :=
  asked = .page .settle ∨ ∃ control, asked = .page (.completionEvent control "completed")

theorem held_markCompleted {key : String} {result : Except Fault (List Element)}
    (held : (markCompleted (some key)).Held before trace after result)
    (steady : ∀ turn ∈ trace, rendering.Steady turn) :
    (∃ fault, result = .error fault ∧ (∀ turn ∈ trace, turn.asked.looks = true) ∧
      (key ≠ "" → rendering.group key = [] ∧ Stray key fault)) ∨
    ∃ seeking later, result = .ok (rendering.group key) ∧ rendering.group key ≠ [] ∧
      trace = seeking ++ ⟨.page (.markCompleted (rendering.group key)), .ok ()⟩ :: later ∧
      (∀ turn ∈ seeking, turn.asked.looks = true) ∧ ∀ turn ∈ later, announces turn.asked := by
  rcases held_bind.1 held with ⟨controls, seeking, _, _, found, tail, rfl⟩ | ⟨fault, failed, rfl⟩
  · have looks := found.asked (groupOf_looks _)
    rcases held_groupOf found (steady_append steady).1 with ⟨_, same, -⟩ | ⟨same, there⟩
    · cases same
    · cases same
      -- from here on no call fails, so the group that was found is marked
      obtain ⟨_, marked, rfl, onward⟩ :=
        held_duty_bind _ tail (steady_append steady).2 fun _ answered => answered
      obtain ⟨closing, settled, rfl, last⟩ :=
        held_duty_bind _ marked onward fun _ answered => answered
      have told : result = .ok (rendering.group key) ∧
          ∀ turn ∈ closing, announces turn.asked := by
        dsimp only at settled
        split at settled
        · next none => exact absurd none there
        · next first others some =>
            obtain ⟨_, ended, rfl, -⟩ := held_duty_bind _ settled last fun _ answered => answered
            obtain ⟨rfl, -, rfl⟩ := held_pure.1 ended
            rw [some]
            exact ⟨rfl, by simp [announces]⟩
      exact .inr ⟨seeking, _, told.1, there, rfl, looks,
        List.forall_mem_cons.2 ⟨.inl rfl, told.2⟩⟩
  · rcases held_groupOf failed steady with ⟨_, same, none⟩ | ⟨same, -⟩
    · cases same
      exact .inl ⟨fault, rfl, failed.asked (groupOf_looks _), none⟩
    · cases same

theorem held_clearCompleted {key : String} {result : Except Fault (List Element)}
    (held : (clearCompleted key).Held before trace after result)
    (steady : ∀ turn ∈ trace, rendering.Steady turn) :
    result = .ok (rendering.group key) ∧ ∃ seeking later, trace = seeking ++ later ∧
      (∀ turn ∈ seeking, turn.asked.looks = true) ∧
      later = if rendering.group key = [] then []
        else [⟨.page (.clearCompleted (rendering.group key)), .ok ()⟩] := by
  rcases held_bind.1 held with ⟨all, seeking, _, _, found, tail, rfl⟩ | ⟨fault, failed, -⟩
  · have looks := found.asked groups_looks
    obtain ⟨_, same, told⟩ := held_groups found (steady_append steady).1
    cases same
    have steady := (steady_append steady).2
    dsimp only at tail
    rw [told key] at tail
    split at tail
    · next there =>
        have there : rendering.group key ≠ [] := by simpa using there
        rw [if_neg there]
        obtain ⟨_, ended, rfl, -⟩ :=
          held_duty_bind _ tail steady fun _ answered => answered
        obtain ⟨rfl, -, rfl⟩ := held_pure.1 ended
        exact ⟨rfl, seeking, _, rfl, looks, rfl⟩
    · next gone =>
        have gone : rendering.group key = [] := by simpa using gone
        obtain ⟨rfl, -, rfl⟩ := held_pure.1 tail
        rw [if_pos gone]
        exact ⟨rfl, seeking, [], rfl, looks, rfl⟩
  · obtain ⟨_, same, -⟩ := held_groups failed steady
    cases same

end Control

end Walkthrough
