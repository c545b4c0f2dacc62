import Walkthrough.Proofs.Upkeep
import Walkthrough.Proofs.Validity
/-!
The steps that a container holds. A step that is read from the attributes of a control has no inner
actions, so there is no multi-step among them, and what every other step keeps up is kept up on a
tour of the container.
-/

namespace Walkthrough

namespace Step

/-- A control is never read as a multi-step. -/
theorem body_of_attributes {attributes : List (String × String)} {step : Step}
    (told : ofAttributes attributes = .ok step) : step.body = .single := by
  obtain ⟨_, _, -, parts, finished⟩ := parts_of_read told
  obtain ⟨-, _, -, rfl⟩ := Draft.finish_ok finished
  exact (Except.ok.inj parts.body).symm

end Step

namespace Guide

open Run

variable {before after : Records} {trace : List Turn}

theorem body_of_child {selector : String} {attributes : List (String × String)} {step : Step}
    (read : child? selector attributes = .ok (some step)) : step.body = .single := by
  unfold child? at read
  split at read
  · split at read
    · cases read
    · split at read
      · next found =>
          cases read
          exact Step.body_of_attributes found
      · cases read
  · cases read

theorem body_of_readChildren {selector : String} {elements : List Element} {steps : List Step}
    (held : (readChildren selector elements).Held before trace after (.ok steps)) :
    ∀ step ∈ steps, step.body = .single := by
  induction elements generalizing before trace after steps with
  | nil =>
      obtain ⟨-, -, same⟩ := held_pure.1 held
      cases same
      simp
  | cons element rest ih =>
      obtain ⟨attributes, _, _, _, -, tail, -⟩ := held_bind_ok.1 held
      split at tail
      · obtain ⟨-, -, same⟩ := held_throw.1 tail
        cases same
      · exact ih tail
      · next step read =>
          obtain ⟨others, _, _, _, later, ended, -⟩ := held_bind_ok.1 tail
          obtain ⟨-, -, same⟩ := held_pure.1 ended
          cases same
          exact List.forall_mem_cons.2 ⟨body_of_child read, ih later⟩

theorem held_children_ok {inside : Element} {selector : String} {steps : List Step}
    (held : (children inside selector).Held before trace after (.ok steps)) :
    steps ≠ [] ∧ ∀ step ∈ steps, step.body = .single := by
  obtain ⟨elements, _, _, _, -, tail, -⟩ := held_bind_ok.1 held
  obtain ⟨read, _, _, _, reading, ended, -⟩ := held_bind_ok.1 tail
  split at ended
  · obtain ⟨-, -, same⟩ := held_throw.1 ended
    cases same
  · next filled =>
      obtain ⟨-, -, same⟩ := held_pure.1 ended
      cases same
      exact ⟨by simpa using filled, body_of_readChildren reading⟩

def tour (step : Step) (showOnly : Bool) : Run Unit := do
  let steps ← children (← container step.target) step.target
  if showOnly then showAll step.key 0 steps else doAll step.key 0 steps

theorem walk_eq_tour (step : Step) (showOnly : Bool) :
    walk step showOnly =
      (tour step showOnly >>= fun _ => discard (Control.markCompleted (some step.key))) := by
  cases showOnly <;> simp [walk, tour, bind_assoc]

theorem tour_leads {calm : Turn → Prop} {whole lost : Invariant} (lasting : Lasting calm whole)
    (loses : whole.Implies lost)
    (prepares : ∀ child : Step, child.body = .single →
      (prepare child).Leads calm whole whole lost)
    (shows : ∀ child : Step, child.body = .single → ∀ patience,
      (showAttempts child patience 0).Leads calm whole whole lost)
    (does : ∀ child : Step, child.body = .single → ∀ isLast patience,
      (doAttempts child isLast patience 0).Leads calm whole whole lost)
    (step : Step) (showOnly : Bool) : (tour step showOnly).Leads calm whole whole lost := by
  have looking {α : Type} {run : Run α} (looks : run.Asks (·.looks)) :
      run.Leads calm whole whole lost :=
    (keeps_of_passes lasting (passes_of_looks looks)).leads loses
  refine leads_bind (looking (container_looks _)) fun inside => ?_
  refine leads_bind_held (looking (children_looks _ _)) fun _ _ _ steps found => ?_
  obtain ⟨-, single⟩ := held_children_ok found
  split
  · rw [showAll_eq_touring]
    exact touring_leads lasting loses (fun child member => prepares child (single child member))
      (fun child member _ => shows child (single child member)) 0
  · rw [doAll_eq_touring]
    exact touring_leads lasting loses (fun child member => prepares child (single child member))
      (fun child member => does child (single child member)) 0

end Guide

end Walkthrough
