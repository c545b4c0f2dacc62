import Walkthrough.Proofs.Upkeep
/-!
Properties that the parts of a run hand on to the whole. Nearly all of a run is put together from
few parts that touch the records: the runs of single steps, the way back to idle, and the completion
by objectives. What these parts have in common is a property of the attempts at a step, of the tours
of a container and of the calls made of them.
-/

namespace Walkthrough

def Step.hasObjectives (step : Step) : Bool :=
  match step.objectives with
  | none | some "" => false
  | some _ => true

namespace Guide

open Run

/-- Runs that leave the records alone have the property, and so has what is put together from runs
with the property. -/
structure Composes (property : (α : Type) → Run α → Prop) : Prop where
  spared : ∀ {α : Type} {run : Run α}, run.Asks (·.spares) → property α run
  reached : ∀ (key : String) (position : Nat), property Unit (Run.setIndex key position)
  bind : ∀ {α β : Type} {run : Run α} {next : α → Run β}, property α run →
    (∀ value, property β (next value)) → property β (run >>= next)
  outcome : ∀ {α : Type} {run : Run α}, property α run → property _ (Run.outcome run)

namespace Composes

variable {property : (α : Type) → Run α → Prop} {step : Step}

theorem pure {α : Type} (composes : Composes property) (value : α) :
    property α (Pure.pure value) :=
  composes.spared (asks_pure value)

theorem throw {α : Type} (composes : Composes property) (fault : Fault) :
    property α (MonadExcept.throw fault) :=
  composes.spared (asks_throw fault)

theorem passing {α : Type} {run : Run α} (composes : Composes property)
    (passes : run.Asks (·.passes)) : property α run :=
  composes.spared (asks_spares passes)

theorem looking {α : Type} {run : Run α} (composes : Composes property)
    (looks : run.Asks (·.looks)) : property α run :=
  composes.passing (passes_of_looks looks)

theorem discard {α : Type} {run : Run α} (composes : Composes property) (parts : property α run) :
    property Unit (Functor.discard run) := by
  have mapped : property Unit (run >>= fun _ => Pure.pure ()) :=
    composes.bind parts fun _ => composes.pure ()
  rw [bind_pure_comp] at mapped
  exact mapped

theorem status (composes : Composes property) (key : String) : property _ (Run.status key) :=
  composes.spared (asks_status rfl)

/-! Attempts. -/

section

variable (composes : Composes property) (runs : ∀ mode, property Unit (runStep step mode))
  (resets : property _ (Run.reset step.key))

include composes

include runs in
theorem showThenDo : property Bool (Guide.showThenDo step) := by
  refine composes.bind (runs .preview) fun _ => ?_
  refine composes.bind (composes.looking settings_looks) fun _ => ?_
  refine composes.bind (composes.passing (pause_passes _)) fun _ => ?_
  refine composes.bind (composes.looking (ready_looks step)) fun _ => ?_
  split
  · exact composes.bind (runs .commit) fun _ => composes.pure _
  · exact composes.pure _

include resets

theorem recover (attempt : Nat) (fault : Fault) :
    property Unit (Guide.recover step attempt fault) := by
  unfold Guide.recover
  split
  · exact composes.throw _
  · exact composes.bind (composes.discard resets) fun _ =>
      composes.discard (composes.passing (retryPause_passes _))

include runs

theorem showAttempts (patience attempt : Nat) :
    property Unit (Guide.showAttempts step patience attempt) := by
  induction patience generalizing attempt with
  | zero => exact composes.pure ()
  | succ patience ih =>
      refine composes.bind (composes.looking (mayAttempt_looks _)) fun allowed => ?_
      split
      · exact composes.pure ()
      · refine composes.bind (composes.looking (ready_looks step)) fun passed => ?_
        split
        · refine composes.bind (composes.passing (retryPause_passes _)) fun again => ?_
          split
          · exact ih _
          · exact composes.pure ()
        · refine composes.bind (composes.outcome (runs .preview)) fun result => ?_
          split
          · exact composes.bind (recover composes resets _ _) fun _ => ih _
          · exact composes.bind (composes.looking settings_looks) fun _ =>
              composes.passing (pause_passes _)

theorem doAttempts (isLast : Bool) (patience attempt : Nat) :
    property Unit (Guide.doAttempts step isLast patience attempt) := by
  induction patience generalizing attempt with
  | zero => exact composes.pure ()
  | succ patience ih =>
      refine composes.bind (composes.looking (mayAttempt_looks _)) fun allowed => ?_
      split
      · exact composes.pure ()
      · refine composes.bind (composes.looking (ready_looks step)) fun passed => ?_
        split
        · refine composes.bind (composes.passing (retryPause_passes _)) fun again => ?_
          split
          · exact ih _
          · exact composes.pure ()
        · refine composes.bind (composes.outcome (showThenDo composes runs)) fun result => ?_
          split
          · split
            · exact composes.pure ()
            · exact composes.passing (pauseAfter_passes step)
          · have waits := composes.outcome (composes.passing (retryPause_passes (attempt + 1)))
            refine composes.bind waits fun waited => ?_
            split
            · exact ih _
            · exact composes.bind (recover composes resets _ _) fun _ => ih _
          · exact composes.bind (recover composes resets _ _) fun _ => ih _

end

/-! Tours. -/

section

variable (composes : Composes property)
  (runs : ∀ (step : Step) (mode : Mode), property Unit (runStep step mode))
  (resets : ∀ key, property _ (Run.reset key))
  (completes : ∀ step, property _ (completeByObjectives step))

include composes resets completes

theorem prepare (step : Step) : property Bool (Guide.prepare step) := by
  refine composes.bind (composes.looking (objectivesMet_looks step)) fun met => ?_
  split
  · refine composes.bind (composes.status _) fun _ => ?_
    dsimp only
    split
    · exact composes.bind (composes.discard (completes step)) fun _ => composes.pure _
    · exact composes.pure _
  · refine composes.bind (composes.status _) fun _ => ?_
    dsimp only
    split
    · exact composes.bind (composes.discard (resets step.key)) fun _ => composes.pure _
    · exact composes.pure _

theorem touring {attempts : Step → Bool → Nat → Run Unit} (sequence : String) (steps : List Step)
    (tries : ∀ step isLast patience, property Unit (attempts step isLast patience))
    (position : Nat) : property Unit (Guide.touring sequence attempts position steps) :=
  touring_of_each property (composes.pure ()) composes.bind (composes.reached _)
    (composes.looking patience_looks)
    (fun step _ => prepare composes resets completes step) (fun step _ => tries step) position

include runs

theorem walk (step : Step) (showOnly : Bool) : property Unit (Guide.walk step showOnly) := by
  have marks : property Unit (Functor.discard (Control.markCompleted (some step.key))) := by
    apply composes.discard
    exact composes.spared
      (asks_mono (Control.markCompleted_keepsBooks _) Request.spares_of_keepsBooks)
  refine composes.bind (composes.looking (container_looks _)) fun inside => ?_
  refine composes.bind (composes.looking (children_looks _ _)) fun steps => ?_
  dsimp only
  split
  · rw [showAll_eq_touring]
    refine composes.bind (touring composes resets completes _ _ ?_ 0) fun _ => marks
    exact fun child _ most => showAttempts composes (runs child) (resets child.key) most 0
  · rw [doAll_eq_touring]
    refine composes.bind (touring composes resets completes _ _ ?_ 0) fun _ => marks
    exact fun child isLast most => doAttempts composes (runs child) (resets child.key) isLast most 0

end

/-! Calls. -/

section

variable (composes : Composes property)

include composes

theorem reportRun (step : Step) (requirements : Assessment) (result : Except Fault Unit) :
    property Outcome (Guide.reportRun step requirements result) := by
  unfold Guide.reportRun
  dsimp only
  split
  · exact composes.bind (composes.status _) fun _ => composes.pure _
  · split
    · exact composes.throw _
    · exact composes.bind (composes.status _) fun _ => composes.pure _
  · exact composes.bind (composes.status _) fun _ => composes.pure _

theorem unlessMet {next : Run Outcome}
    (completes : step.hasObjectives = true → property _ (completeByObjectives step))
    (others : property Outcome next) :
    property Outcome
      (objectivesMet step >>= fun met => if met then completeByObjectives step else next) := by
  cases aims : step.hasObjectives with
  | true =>
      refine composes.bind (composes.looking (objectivesMet_looks step)) fun met => ?_
      split
      · exact completes aims
      · exact others
  | false =>
      have unmet : objectivesMet step = Pure.pure false := by
        unfold objectivesMet
        split
        · rfl
        · rfl
        · next objectives given =>
            unfold Step.hasObjectives at aims
            rw [given] at aims
            simp_all
      rw [unmet, pure_bind]
      exact others

theorem runMultistep
    (completes : step.hasObjectives = true → property _ (completeByObjectives step))
    (acts : ∀ actions delay assessment,
      property _ (runActions step.key actions delay assessment)) :
    property Outcome (Guide.runMultistep step) := by
  refine unlessMet composes completes ?_
  refine composes.bind (composes.status _) fun status => ?_
  dsimp only
  split
  · exact composes.pure _
  · refine composes.bind (composes.looking (check_looks step)) fun assessment => ?_
    split
    · split
      · exact acts _ _ _
      · exact composes.throw _
    · exact composes.pure _

theorem trigger (mode : Mode)
    (completes : step.hasObjectives = true → property _ (completeByObjectives step))
    (acts : ∀ actions delay assessment,
      property _ (runActions step.key actions delay assessment))
    (sequence : step.body = .single → step.isSequence = true →
      property _ (runSequence step (mode == .preview)))
    (single : property _ (runStep step mode)) : property Outcome (Guide.trigger step mode) := by
  refine unlessMet composes completes ?_
  refine composes.bind (composes.status _) fun status => ?_
  dsimp only
  split
  · exact composes.pure _
  · cases body : step.body with
    | multiple actions delay => exact runMultistep composes completes acts
    | single =>
        refine composes.bind (composes.looking (check_looks step)) fun assessment => ?_
        split
        · refine composes.bind (composes.outcome ?_) fun _ => reportRun composes _ _ _
          unfold runPlain
          split
          · next isSequence => exact composes.discard (sequence body isSequence)
          · exact single
        · exact composes.pure _

end

end Composes

end Guide

end Walkthrough
