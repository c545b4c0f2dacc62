import Walkthrough.Proofs.Tours
/-!
What a preview leaves undone. In preview no call acts for the user, which are the clicks, the new
values and their events, and the ways to other pages. This is so for the action of the step itself
and for those of all the steps inside a container, on every attempt, whatever the page, the facts,
the settings and the records answer, and whatever fails.
-/

namespace Walkthrough

/-- Requests that announce nothing but previews and do not act for the user. -/
def Request.refrains : Request → Bool
  | page call => !call.commits
  | announce command => command.mode == .preview
  | _ => true

theorem Request.refrains_of_keepsBooks (request : Request) (keeps : request.keepsBooks = true) :
    request.refrains = true := by
  cases request with
  | page call => cases call <;> simp_all [keepsBooks, PageCall.works, refrains, PageCall.commits]
  | announce command => cases keeps
  | _ => rfl

theorem Request.refrains_of_acts (request : Request) (acts : request.acts .preview = true) :
    request.refrains = true := by
  cases request with
  | page call =>
      cases call with
      | click | setValue | formEvents | pushRoute | openExternal => cases acts
      | _ => rfl
  | announce command => cases acts
  | _ => rfl

theorem Request.refrains_of_looks (request : Request) (looks : request.looks = true) :
    request.refrains = true :=
  refrains_of_keepsBooks request (keepsBooks_of_looks request looks)

namespace Run

variable {α : Type}

theorem refrains_of_looks {run : Run α} (looks : run.Asks (·.looks)) :
    run.Asks (·.refrains) :=
  asks_mono looks Request.refrains_of_looks

theorem pause_refrains (delay : Amount) : (pause delay).Asks (·.refrains) := by
  refine asks_bind (asks_ofMisuse _) fun positive => ?_
  split
  · exact asks_bind (asks_ofMisuse _) fun _ => ⟨rfl, fun _ => trivial⟩
  · exact asks_pure _

theorem status_refrains (key : String) : (status key).Asks (·.refrains) :=
  asks_status rfl

theorem reset_refrains (key : String) : (reset key).Asks (·.refrains) :=
  asks_reset rfl rfl

theorem moveTo_refrains (key : String) (status : Status) :
    (moveTo key status).Asks (·.refrains) :=
  asks_discard (asks_move rfl)

end Run

/-! Actions. -/

namespace Command

open Run

theorem perform_refrains (action : Action) (target : String) (value : Option String) :
    (perform ⟨action, target, value, .preview⟩).Asks (·.refrains) :=
  asks_bind (asks_ask rfl) fun _ => asks_mono (carryOut_acts _) Request.refrains_of_acts

end Command

namespace Guide

open Run

variable {step : Step} {before after : Records} {trace : List Turn}

theorem mark_refrains (key : String) :
    (discard (Control.markCompleted (some key))).Asks (·.refrains) :=
  asks_discard (asks_mono (Control.markCompleted_keepsBooks _) Request.refrains_of_keepsBooks)

theorem failing_refrains {α : Type} {run : Run α} (key : String)
    (asks : run.Asks (·.refrains)) : (failing key run).Asks (·.refrains) :=
  asks_tryCatch asks fun _ => asks_bind (asks_discard (asks_move rfl)) fun _ => asks_throw _

theorem completeByObjectives_refrains (step : Step) :
    (completeByObjectives step).Asks (·.refrains) :=
  asks_completeByObjectives rfl Request.refrains_of_keepsBooks rfl rfl

theorem runStep_refrains (step : Step) : (runStep step .preview).Asks (·.refrains) := by
  refine asks_bind (asks_begin rfl rfl rfl) fun _ => asks_bind ?_ fun _ => asks_pure _
  refine failing_refrains _ (asks_bind (asks_discard ?_) fun _ => moveTo_refrains _ _)
  exact Command.perform_refrains _ _ _

/-! Sequences. -/

theorem retryPause_refrains (attempt : Nat) : (retryPause attempt).Asks (·.refrains) := by
  refine asks_bind (refrains_of_looks settings_looks) fun _ => ?_
  refine asks_bind (asks_ofMisuse _) fun reached => ?_
  split
  · exact asks_pure _
  · exact asks_bind (pause_refrains _) fun _ => asks_pure _

theorem recover_refrains (step : Step) (attempt : Nat) (fault : Fault) :
    (recover step attempt fault).Asks (·.refrains) := by
  unfold recover
  split
  · exact asks_throw _
  · exact asks_bind (asks_discard (reset_refrains _)) fun _ =>
      asks_discard (retryPause_refrains _)

/-- By induction on the patience: an attempt that is not the last one is followed by another one
with less of it. -/
theorem showAttempts_refrains (step : Step) (patience attempt : Nat) :
    (showAttempts step patience attempt).Asks (·.refrains) := by
  induction patience generalizing attempt with
  | zero => exact asks_pure _
  | succ patience ih =>
      refine asks_bind (refrains_of_looks (mayAttempt_looks _)) fun allowed => ?_
      split
      · exact asks_pure _
      · refine asks_bind (refrains_of_looks (ready_looks step)) fun passed => ?_
        split
        · refine asks_bind (retryPause_refrains _) fun again => ?_
          split
          · exact ih _
          · exact asks_pure _
        · refine asks_bind (asks_outcome (runStep_refrains step)) fun result => ?_
          split
          -- A preview that failed is repeated as a preview.
          · exact asks_bind (recover_refrains step _ _) fun _ => ih _
          · exact asks_bind (refrains_of_looks settings_looks) fun _ => pause_refrains _

theorem prepare_refrains (step : Step) : (prepare step).Asks (·.refrains) :=
  asks_prepare rfl Request.refrains_of_keepsBooks rfl rfl

theorem showAll_refrains (sequence : String) (steps : List Step) (position : Nat) :
    (showAll sequence position steps).Asks (·.refrains) := by
  rw [showAll_eq_touring]
  exact touring_of_each (fun _ run => run.Asks (·.refrains)) (asks_pure _) asks_bind
    (fun _ => asks_ask rfl) (refrains_of_looks patience_looks) (fun step _ => prepare_refrains step)
    (fun step _ _ most => showAttempts_refrains step most 0) position

theorem walk_refrains (step : Step) : (walk step true).Asks (·.refrains) := by
  refine asks_bind (refrains_of_looks (container_looks _)) fun inside => ?_
  refine asks_bind (refrains_of_looks (children_looks _ _)) fun steps => ?_
  exact asks_bind (showAll_refrains _ _ _) fun _ => mark_refrains _

theorem leaving_refrains {α : Type} {run : Run α} (selector : String)
    (asks : run.Asks (·.refrains)) : (leaving selector run).Asks (·.refrains) := by
  refine asks_bind (asks_outcome asks) fun result => asks_bind (asks_ask rfl) fun _ => ?_
  split
  · exact asks_pure _
  · exact asks_throw _

theorem runSequence_refrains (step : Step) : (runSequence step true).Asks (·.refrains) := by
  refine asks_bind (asks_ask rfl) fun active => ?_
  split
  · exact asks_pure _
  · refine asks_bind (asks_ask rfl) fun _ => asks_bind (leaving_refrains _ ?_) fun _ => asks_pure _
    refine asks_bind (asks_begin rfl rfl rfl) fun _ => ?_
    exact asks_bind (failing_refrains _ (walk_refrains step)) fun _ => moveTo_refrains _ _

/-! Triggers. -/

theorem runPlain_refrains (step : Step) : (runPlain step .preview).Asks (·.refrains) := by
  unfold runPlain
  split
  · exact asks_discard (runSequence_refrains step)
  · exact runStep_refrains step

theorem trigger_refrains (single : step.body = .single) :
    (trigger step .preview).Asks (·.refrains) := by
  refine asks_bind (refrains_of_looks (objectivesMet_looks step)) fun met => ?_
  split
  · exact completeByObjectives_refrains step
  · refine asks_bind (status_refrains _) fun status => ?_
    dsimp only
    split
    · exact asks_pure _
    · rw [single]
      refine asks_bind (refrains_of_looks (check_looks step)) fun requirements => ?_
      split
      · exact asks_bind (asks_outcome (runPlain_refrains step)) fun _ => asks_reportRun rfl
      · exact asks_pure _

/-- Whatever it meets on its way, a trigger in preview of a step that is no multi-step makes no
call that acts for the user, and announces no command but previews. For a sequence this goes for
all the steps inside its container, however often they are attempted. -/
theorem trigger_preview_commits_nothing {result : Except Fault Outcome}
    (single : step.body = .single)
    (held : (trigger step .preview).Held before trace after result) :
    ∀ turn ∈ trace,
      (∀ call, turn.asked = .page call → call.commits = false) ∧
      (∀ command, turn.asked = .announce command → command.mode = .preview) := by
  intro turn member
  have refrains : turn.asked.refrains = true := held.asked (trigger_refrains single) turn member
  constructor
  · intro call asked
    rw [asked] at refrains
    simpa [Request.refrains] using refrains
  · intro command asked
    rw [asked] at refrains
    simpa [Request.refrains] using refrains

theorem crossroads_preview :
    ∃ outcome, (crossroads.outcome (trigger detours .preview) ⟨[], []⟩).1 = .ok outcome ∧
      outcome.executed = true := by
  simp only [trigger, runPlain, runSequence, walk, container, Selector.resolve]
  exact ⟨_, rfl, rfl⟩

theorem detours_preview_commits_nothing :
    ∃ trace after outcome, detours.body = .single ∧
      (trigger detours .preview).Held ⟨[], []⟩ trace after (.ok outcome) ∧
      outcome.executed = true ∧
      ∀ turn ∈ trace, ∀ call, turn.asked = .page call → call.commits = false := by
  obtain ⟨trace, held, -⟩ := crossroads.held (trigger detours .preview) ⟨[], []⟩
  obtain ⟨outcome, result, executed⟩ := crossroads_preview
  rw [result] at held
  refine ⟨trace, _, outcome, rfl, held, executed, fun turn member => ?_⟩
  exact (trigger_preview_commits_nothing rfl held turn member).1

end Guide

end Walkthrough
