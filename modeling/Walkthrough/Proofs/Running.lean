import Walkthrough.Proofs.Course
import Walkthrough.Proofs.Contents
import Walkthrough.Proofs.Gates
/-!
Which steps are running once a call is over. A call from a state of rest ends in a state of rest,
by whatever it ends, unless it runs a multi-step: settling the page after the last inner action,
and pausing between two of them, are not guarded as the actions are, and if they fail the
multi-step is left running.
-/

namespace Walkthrough.Guide

open Run

def Free (key : String) : Invariant :=
  fun _ statuses => statuses key ≠ .running

abbrev Frees {α : Type} (key : String) (run : Run α) : Prop :=
  run.Keeps (fun _ => True) (Free key)

theorem lasting_free (key : String) : Lasting (fun _ => True) (Free key) :=
  fun _ _ _ _ _ kept => kept

variable {α β : Type} {key other : String} {step : Step} {before after : Records}
variable {trace : List Turn}

theorem frees_of_held {run : Run α}
    (free : ∀ ⦃before trace after result⦄, run.Held before trace after result →
      before.status key ≠ .running → after.status key ≠ .running) : Frees key run :=
  fun _ _ _ _ _ held _ kept => free held kept

theorem free_of_frees {run : Run α} {result : Except Fault α} (frees : Frees key run)
    (held : run.Held before trace after result) (free : before.status key ≠ .running) :
    after.status key ≠ .running :=
  @frees [] _ _ _ _ held (fun _ _ => trivial) free

theorem frees_of_spares {run : Run α} (asks : run.Asks (·.spares)) : Frees key run := by
  apply frees_of_held
  intro before trace after result held free
  rw [held.spared asks]
  exact free

theorem frees_of_looks {run : Run α} (looks : run.Asks (·.looks)) : Frees key run :=
  keeps_of_passes (lasting_free key) (passes_of_looks looks)

theorem frees_status (other : String) : Frees key (Run.status other) :=
  keeps_status (lasting_free key) other

/-- A running step may leave that status, so it is not running after a move to another one, even
if that is refused. -/
theorem free_of_moves {move : Move} {reply : Except GuideError StepState}
    (moves : before.Moves move reply after) (other : move.status ≠ .running) :
    after.status move.step ≠ .running := by
  rcases moves.cases with ⟨-, -, -, status⟩ | ⟨refused, -, rfl⟩
  · rw [status]
    exact other
  · intro running
    rw [running] at refused
    cases status : move.status with
    | running => exact other status
    | _ => simp [status, Status.mayBecome, Status.next] at refused

theorem frees_move (move : Move) (other : move.status ≠ .running) :
    Frees key (Run.move move) := by
  apply frees_of_held
  intro before trace after result held free
  obtain ⟨reply, moves, -, -⟩ := held_move.1 held
  by_cases same : key = move.step
  · subst same
    exact free_of_moves moves other
  · rw [moves.sameBut.status same]
    exact free

theorem frees_reset (other : String) : Frees key (Run.reset other) := by
  apply frees_of_held
  intro before trace after result held free
  obtain ⟨-, idle, same, -⟩ := held_reset held
  by_cases here : key = other
  · subst here
    rw [idle]
    exact Status.noConfusion
  · rw [same.status here]
    exact free

theorem frees_runStep (step : Step) (mode : Mode) : Frees key (runStep step mode) := by
  apply frees_of_held
  intro before trace after result held free
  obtain ⟨progress, course, -⟩ := course_of_held held
  by_cases same : key = step.key
  · subst same
    exact course.not_running free
  · rw [course.sameBut.status same]
    exact free

theorem frees_begin {own : String} (distinct : key ≠ own) : Frees key (begin own) := by
  apply frees_of_held
  intro before trace after result held free
  rcases held_begin held with ⟨-, rfl, -⟩ | ⟨-, -, -, same⟩
  · exact free
  · rw [same.status distinct]
    exact free

theorem frees_completeByObjectives (step : Step) : Frees key (completeByObjectives step) := by
  apply frees_of_held
  intro before trace after result held free
  have shortcut := shortcut_of_held held
  by_cases same : key = step.key
  · subst same
    rw [shortcut.status_eq]
    cases result <;> exact Status.noConfusion
  · rw [shortcut.sameBut.status same]
    exact free

/-! Sequences. -/

theorem frees_prepare (step : Step) : Frees key (prepare step) :=
  (prepare_leads (lasting_free key) (.refl _) ((frees_reset _).leads (.refl _))
    ((frees_completeByObjectives step).leads (.refl _))).keeps

theorem mended_free (step : Step) :
    Mended (fun _ => True) (Free key) (Free key) step :=
  mended_of_keeps (lasting_free key) (frees_runStep step) (frees_reset step.key)

theorem frees_walk (step : Step) (showOnly : Bool) : Frees key (walk step showOnly) := by
  rw [walk_eq_tour]
  have touring : Frees key (tour step showOnly) := by
    apply (tour_leads (lasting_free key) (.refl _) _ _ _ step showOnly).keeps
    · exact fun child _ => (frees_prepare child).leads (.refl _)
    · exact fun child _ patience => showAttempts_leads (mended_free child) patience 0
    · exact fun child _ isLast patience => doAttempts_leads (mended_free child) isLast patience 0
  exact keeps_bind touring fun _ => keeps_discard (frees_of_spares (markCompleted_spares _))

theorem frees_enclosed_other (step : Step) (showOnly : Bool) (distinct : key ≠ step.key) :
    Frees key (enclosed step showOnly) := by
  refine keeps_bind (frees_begin distinct) fun _ => keeps_bind ?_ fun _ => ?_
  · apply frees_of_held
    intro before trace after result held free
    rcases held_failing held with ⟨_, walked, -⟩ | ⟨_, _, middle, _, failed, moves, -, -⟩
    · exact free_of_frees (frees_walk step showOnly) walked free
    · rw [moves.sameBut.status distinct]
      exact free_of_frees (frees_walk step showOnly) failed free
  · exact keeps_discard (frees_move _ Status.noConfusion)

theorem frees_enclosed_own (step : Step) (showOnly : Bool) :
    Frees step.key (enclosed step showOnly) := by
  apply frees_of_held
  intro before trace after result held free
  -- whether the walk succeeds or fails, the last turn moves the sequence elsewhere
  rcases held_bind.1 held with ⟨_, _, _, _, -, inner, -⟩ | ⟨_, refused, -⟩
  · rcases held_bind.1 inner with ⟨_, _, _, _, -, ended, -⟩ | ⟨_, failed, -⟩
    · obtain ⟨_, moves, -, -⟩ := held_moveTo.1 ended
      exact free_of_moves moves Status.noConfusion
    · rcases held_failing failed with ⟨_, _, same⟩ | ⟨_, _, _, _, _, moves, -, -⟩
      · cases same
      · exact free_of_moves moves Status.noConfusion
  · rcases held_begin refused with ⟨running, -, -⟩ | ⟨-, same, -⟩
    · exact absurd running free
    · cases same

theorem frees_runSequence (step : Step) (showOnly : Bool) :
    Frees key (runSequence step showOnly) := by
  have frees : Frees key (enclosed step showOnly) := by
    by_cases same : key = step.key
    · subst same
      exact frees_enclosed_own step showOnly
    · exact frees_enclosed_other step showOnly same
  exact runSequence_keeps (lasting_free key) frees

/-! Multi-steps, for other steps. -/

theorem frees_failAt (own : String) (index : Nat) (message : String) :
    Frees key (failAt own index message) :=
  keeps_bind (keeps_discard (frees_move _ Status.noConfusion)) fun _ => keeps_pure _

theorem frees_runInner (own : String) (delay : Amount) (actions : List InnerAction)
    (index : Nat) : Frees key (runInner own delay index actions) := by
  induction actions generalizing index with
  | nil => exact keeps_pure _
  | cons inner rest ih =>
      have passing {γ : Type} {run : Run γ} (passes : run.Asks (·.passes)) : Frees key run :=
        keeps_of_passes (lasting_free key) passes
      refine keeps_bind (keeps_ask (lasting_free key) rfl) fun _ => ?_
      refine keeps_bind (frees_of_looks (obstacle_looks _ _)) fun found => ?_
      split
      · exact keeps_bind (frees_failAt _ _ _) fun _ => keeps_pure _
      · refine keeps_bind (keeps_outcome (passing (showThenDoInner_passes inner))) fun acted => ?_
        split
        · exact keeps_bind (frees_failAt _ _ _) fun _ => keeps_pure _
        · split
          · exact keeps_bind (passing (pause_passes delay)) fun _ => ih _
          · exact ih _

theorem frees_runActions {own : String} (distinct : key ≠ own) (actions : List InnerAction)
    (delay : Option Nat) (requirements : Assessment) :
    Frees key (runActions own actions delay requirements) := by
  refine keeps_bind (frees_of_looks (delayOf_looks delay)) fun wait => ?_
  refine keeps_bind (frees_begin distinct) fun _ => ?_
  refine keeps_bind (frees_runInner _ _ _ _) fun failure => ?_
  split
  · exact keeps_pure _
  · refine keeps_bind (frees_of_spares (asks_page rfl)) fun _ => ?_
    exact keeps_bind (keeps_discard (frees_move _ Status.noConfusion)) fun _ => keeps_pure _

theorem frees_runMultistep (distinct : isMultiple step = true → key ≠ step.key) :
    Frees key (runMultistep step) := by
  refine keeps_bind (frees_of_looks (objectivesMet_looks step)) fun met => ?_
  split
  · exact frees_completeByObjectives step
  · refine keeps_bind (frees_status _) fun status => ?_
    dsimp only
    split
    · exact keeps_pure _
    · refine keeps_bind (frees_of_looks (check_looks step)) fun requirements => ?_
      split
      · cases body : step.body with
        | single => exact keeps_throw _
        | multiple actions delay =>
            exact frees_runActions (distinct (by simp [isMultiple, body])) _ _ _
      · exact keeps_pure _

theorem frees_trigger (mode : Mode) (distinct : isMultiple step = true → key ≠ step.key) :
    Frees key (trigger step mode) :=
  trigger_keeps (lasting_free key) mode (frees_completeByObjectives step)
    (fun multiple => frees_runMultistep fun _ => distinct multiple) (frees_runSequence step _)
    (frees_runStep step mode)

/-! The running multi-step itself. -/

/-- The run was broken off by a failure of the page to settle, by a failure of a pause, or by an
amount that is no number. -/
def BrokenOff (trace : List Turn) (fault : Fault) : Prop :=
  (∃ earlier, trace = earlier ++ [⟨.page .settle, .error fault⟩]) ∨
  (∃ earlier length, trace = earlier ++ [⟨.pause length, .error fault⟩]) ∨
  ∃ cause, fault = .misuse cause

theorem BrokenOff.prepend {fault : Fault} (first : List Turn) (broken : BrokenOff trace fault) :
    BrokenOff (first ++ trace) fault := by
  rcases broken with ⟨earlier, rfl⟩ | ⟨earlier, length, rfl⟩ | misuse
  · exact .inl ⟨first ++ earlier, by rw [List.append_assoc]⟩
  · exact .inr (.inl ⟨first ++ earlier, length, by rw [List.append_assoc]⟩)
  · exact .inr (.inr misuse)

def Breaks (run : Run α) : Prop :=
  ∀ ⦃before trace after fault⦄, run.Held before trace after (.error fault) → BrokenOff trace fault

theorem breaks_of_returns {run : Run α} (returns : run.Returns) : Breaks run := by
  intro before trace after fault held
  obtain ⟨value, same⟩ := returns held
  cases same

theorem breaks_bind {run : Run α} {next : α → Run β} (first : Breaks run)
    (second : ∀ value, Breaks (next value)) : Breaks (run >>= next) := by
  intro before trace after fault held
  rcases held_bind.1 held with ⟨value, opening, _, _, -, rest, rfl⟩ | ⟨other, failed, same⟩
  · exact (second value rest).prepend opening
  · cases same
    exact first failed

theorem breaks_ofMisuse (value : Except Misuse α) : Breaks (ofMisuse value) := by
  intro before trace after fault held
  obtain ⟨-, -, same⟩ := held_ofMisuse.1 held
  cases value with
  | ok value => cases same
  | error cause =>
      cases same
      exact .inr (.inr ⟨cause, rfl⟩)

theorem breaks_pause (delay : Amount) : Breaks (Run.pause delay) := by
  refine breaks_bind (breaks_ofMisuse _) fun positive => ?_
  split
  · refine breaks_bind (breaks_ofMisuse _) fun length => ?_
    intro before trace after fault held
    obtain ⟨reply, _, _, -, rest, rfl⟩ := Dialogue.held_ask_iff.1 held
    obtain ⟨rfl, -, rfl⟩ := Dialogue.held_done_iff.1 rest
    exact .inr (.inl ⟨[], length, rfl⟩)
  · exact breaks_of_returns (returns_pure _)

theorem settings_returns : Run.settings.Returns :=
  returns_ask _

theorem breaks_obstacle (inner : InnerAction) (index : Nat) : Breaks (obstacle inner index) := by
  unfold obstacle
  split
  · exact breaks_of_returns (returns_pure _)
  · exact breaks_of_returns (returns_pure _)
  · refine breaks_bind (breaks_of_returns settings_returns) fun tuning => ?_
    refine breaks_bind ?_ fun assessment => ?_
    · refine breaks_bind (breaks_ofMisuse _) fun seconds => ?_
      split
      · exact breaks_of_returns (returns_pure _)
      · exact breaks_of_returns (returns_bind (Requirement.evaluateTimed_returns _ _) fun _ =>
          returns_pure _)
    · split
      · exact breaks_of_returns (returns_pure _)
      · split <;> exact breaks_of_returns (returns_pure _)

/-- The step is running afterwards exactly if the run was broken off. -/
def RunsOnlyBroken (key : String) (trace : List Turn) (after : Records) :
    Except Fault α → Prop
  | .ok _ => after.status key ≠ .running
  | .error fault => after.status key = .running ∧ BrokenOff trace fault

theorem RunsOnlyBroken.prepend {result : Except Fault α} (first : List Turn)
    (only : RunsOnlyBroken key trace after result) :
    RunsOnlyBroken key (first ++ trace) after result := by
  cases result with
  | ok value => exact only
  | error fault => exact ⟨only.1, only.2.prepend first⟩

def InnerEnd (key : String) (trace : List Turn) (after : Records) :
    Except Fault (Option Outcome) → Prop
  | .ok none => after.status key = .running
  | .ok (some _) => after.status key = .error
  | .error fault => after.status key = .running ∧ BrokenOff trace fault

theorem InnerEnd.prepend {result : Except Fault (Option Outcome)} (first : List Turn)
    (ends : InnerEnd key trace after result) : InnerEnd key (first ++ trace) after result := by
  match result with
  | .ok none | .ok (some _) => exact ends
  | .error fault => exact ⟨ends.1, ends.2.prepend first⟩

/-- A running step takes every move to another status, so a run that ends with such a move ends
well, with the move written down. -/
theorem written_of_last_move {move : Move} {value : α} {result : Except Fault α}
    (running : before.status move.step = .running)
    (may : Status.running.mayBecome move.status = true)
    (held : (discard (Run.move move) >>= fun _ => pure value).Held before trace after result) :
    trace = [⟨.move move, .ok (Store.moved (before.store.get move.step) move)⟩] ∧
      after = before.write move.step (Store.moved (before.store.get move.step) move) ∧
      result = .ok value := by
  have accepted : (before.status move.step).mayBecome move.status = true := by
    rw [running]
    exact may
  rcases held_bind.1 held with ⟨_, _, _, _, moved, ended, rfl⟩ | ⟨fault, refused, -⟩
  · obtain ⟨rfl, rfl, rfl⟩ := held_pure.1 ended
    obtain ⟨inner, moved, -⟩ := held_discard.1 moved
    obtain ⟨reply, moves, rfl, -⟩ := held_move.1 moved
    obtain ⟨rfl, rfl⟩ := moves.of_mayBecome accepted
    exact ⟨rfl, rfl, rfl⟩
  · obtain ⟨inner, moved, same⟩ := held_discard.1 refused
    obtain ⟨reply, moves, -, rfl⟩ := held_move.1 moved
    obtain ⟨rfl, -⟩ := moves.of_mayBecome accepted
    cases same

theorem held_last_move {move : Move} {value : α} {result : Except Fault α}
    (running : before.status move.step = .running)
    (may : Status.running.mayBecome move.status = true)
    (held : (discard (Run.move move) >>= fun _ => pure value).Held before trace after result) :
    result = .ok value ∧ after.status move.step = move.status := by
  obtain ⟨-, rfl, same⟩ := written_of_last_move running may held
  exact ⟨same, Records.write_status _ _ _⟩

theorem held_failAt {index : Nat} {message : String} {result : Except Fault Outcome}
    (running : before.status key = .running)
    (held : (failAt key index message).Held before trace after result) :
    (∃ outcome, result = .ok outcome) ∧ after.status key = .error := by
  obtain ⟨same, status⟩ := held_last_move running (by rfl) held
  exact ⟨⟨_, same⟩, status⟩

theorem held_failing_inner {index : Nat} {message : String}
    {result : Except Fault (Option Outcome)} (running : before.status key = .running)
    (held : (failAt key index message >>= fun outcome => pure (some outcome)).Held
      before trace after result) : InnerEnd key trace after result := by
  rcases held_bind.1 held with ⟨_, _, _, _, failed, ended, -⟩ | ⟨fault, failed, -⟩
  · obtain ⟨-, rfl, rfl⟩ := held_pure.1 ended
    exact (held_failAt running failed).2
  · obtain ⟨⟨_, same⟩, -⟩ := held_failAt running failed
    cases same

theorem held_setIndex_bind {index : Nat} {next : Run α} {result : Except Fault α}
    (held : (Run.setIndex key index >>= fun _ => next).Held before trace after result) :
    ∃ middle rest, middle.status = before.status ∧ next.Held middle rest after result ∧
      trace = ⟨.setIndex key index, ()⟩ :: rest := by
  obtain ⟨_, middle, rest, answered, tail, rfl⟩ := Dialogue.held_ask_iff.1 held
  exact ⟨middle, rest, Records.status_of_idles rfl answered, tail, rfl⟩

theorem held_rest_inner {delay : Amount} {more : Bool} {next : Run (Option Outcome)}
    {result : Except Fault (Option Outcome)} (running : before.status key = .running)
    (goesOn : ∀ {before trace}, before.status key = .running →
      next.Held before trace after result → InnerEnd key trace after result)
    (held : (if more then Run.pause delay >>= fun _ => next else next).Held
      before trace after result) : InnerEnd key trace after result := by
  split at held
  · rcases held_bind.1 held with ⟨_, first, _, _, paused, last, rfl⟩ | ⟨fault, failed, rfl⟩
    · obtain rfl := paused.spared (asks_spares (pause_passes delay))
      exact (goesOn running last).prepend first
    · obtain rfl := failed.spared (asks_spares (pause_passes delay))
      exact ⟨running, breaks_pause delay failed⟩
  · exact goesOn running held

/-- By induction on the inner actions, before each of which the step is running. -/
theorem held_runInner {delay : Amount} {actions : List InnerAction} {index : Nat}
    {result : Except Fault (Option Outcome)} (running : before.status key = .running)
    (held : (runInner key delay index actions).Held before trace after result) :
    InnerEnd key trace after result := by
  induction actions generalizing before trace index with
  | nil =>
      obtain ⟨-, rfl, rfl⟩ := held_pure.1 held
      exact running
  | cons inner rest ih =>
      -- the index is written down, which leaves the status alone
      obtain ⟨indexed, turns, same, body, rfl⟩ := held_setIndex_bind held
      rw [← same] at running
      apply InnerEnd.prepend [_]
      have looks := asks_spares (passes_of_looks (obstacle_looks inner index))
      rcases held_bind.1 body with ⟨found, first, _, second, looked, next, rfl⟩ | ⟨fault, failed, rfl⟩
      · apply InnerEnd.prepend
        obtain rfl := looked.spared looks
        cases found with
        | some message => exact held_failing_inner running next
        | none =>
            obtain ⟨acted, first, _, second, acts, last, rfl⟩ := held_outcome_bind.1 next
            apply InnerEnd.prepend
            obtain rfl := acts.spared (asks_spares (showThenDoInner_passes inner))
            cases acted with
            | error fault => exact held_failing_inner running last
            | ok _ => exact held_rest_inner running (fun running held => ih running held) last
      · obtain rfl := failed.spared looks
        exact ⟨running, breaks_obstacle inner index failed⟩

theorem delayOf_returns (delay : Option Nat) : (delayOf delay).Returns := by
  unfold delayOf
  split
  · exact returns_pure _
  · exact returns_bind settings_returns fun _ => returns_pure _

theorem held_settling {wait : Amount} {actions : List InnerAction} {last : Int}
    {done : Outcome} {result : Except Fault Outcome} (running : before.status key = .running)
    (held : (runInner key wait 0 actions >>= fun failure =>
      match failure with
      | some failed => pure failed
      | none => Run.page .settle >>= fun _ =>
          discard (Run.move ⟨key, .completed, none, some last⟩) >>= fun _ => pure done).Held
      before trace after result) : RunsOnlyBroken key trace after result := by
  rcases held_bind.1 held with ⟨failure, first, inside, _, inner, rest, rfl⟩ | ⟨fault, failed, rfl⟩
  · have ends := held_runInner running inner
    apply RunsOnlyBroken.prepend
    cases failure with
    | some failed =>
        obtain ⟨-, rfl, rfl⟩ := held_pure.1 rest
        have status : after.status key = .error := ends
        simp [RunsOnlyBroken, status]
    | none =>
        have running : inside.status key = .running := ends
        rcases held_bind.1 rest with ⟨_, _, _, _, settled, moved, rfl⟩ | ⟨fault, failed, rfl⟩
        · obtain ⟨-, rfl⟩ := held_page.1 settled
          apply RunsOnlyBroken.prepend
          obtain ⟨rfl, status⟩ := held_last_move running (by rfl) moved
          have status : after.status key = .completed := status
          simp [RunsOnlyBroken, status]
        · obtain ⟨rfl, rfl⟩ := held_page.1 failed
          exact ⟨running, .inl ⟨[], rfl⟩⟩
  · exact held_runInner running failed

theorem held_runActions {actions : List InnerAction} {delay : Option Nat}
    {requirements : Assessment} {result : Except Fault Outcome}
    (free : before.status key ≠ .running)
    (held : (runActions key actions delay requirements).Held before trace after result) :
    RunsOnlyBroken key trace after result := by
  rcases held_bind.1 held with ⟨wait, first, _, second, delayed, body, rfl⟩ | ⟨fault, failed, rfl⟩
  · obtain rfl := delayed.looked (delayOf_looks delay)
    apply RunsOnlyBroken.prepend
    rcases held_bind.1 body with ⟨_, opening, begun, rest, beginning, inner, rfl⟩ | ⟨fault, refused, rfl⟩
    · apply RunsOnlyBroken.prepend
      rcases held_begin beginning with ⟨running, -⟩ | ⟨-, -, running, -⟩
      · exact absurd running free
      · exact held_settling running inner
    · rcases held_begin refused with ⟨running, -⟩ | ⟨-, same, -⟩
      · exact absurd running free
      · cases same
  · obtain ⟨value, same⟩ := delayOf_returns delay failed
    cases same

def OnlyBroken (key : String) (run : Run α) : Prop :=
  ∀ ⦃before trace after result⦄, run.Held before trace after result →
    before.status key ≠ .running → RunsOnlyBroken key trace after result

theorem onlyBroken_pure (value : α) : OnlyBroken key (pure value : Run α) := by
  intro before trace after result held free
  obtain ⟨-, rfl, rfl⟩ := held_pure.1 held
  exact free

theorem onlyBroken_bind {run : Run α} {next : α → Run β} (returns : run.Returns)
    (frees : Frees key run) (second : ∀ value, OnlyBroken key (next value)) :
    OnlyBroken key (run >>= next) := by
  intro before trace after result held free
  rcases held_bind.1 held with ⟨value, first, _, _, head, rest, rfl⟩ | ⟨fault, failed, rfl⟩
  · exact (second value rest (free_of_frees frees head free)).prepend first
  · obtain ⟨value, same⟩ := returns failed
    cases same

theorem onlyBroken_looks {run : Run α} {next : α → Run β} (returns : run.Returns)
    (looks : run.Asks (·.looks)) (second : ∀ value, OnlyBroken key (next value)) :
    OnlyBroken key (run >>= next) :=
  onlyBroken_bind returns (frees_of_looks looks) second

theorem status_returns (key : String) : (Run.status key).Returns :=
  returns_bind (returns_bind (returns_ask _) fun _ => returns_pure _) fun _ => returns_pure _

theorem onlyBroken_completeByObjectives (multiple : isMultiple step = true) :
    OnlyBroken step.key (completeByObjectives step) := by
  intro before trace after result held free
  obtain ⟨outcome, rfl⟩ := (shortcut_of_held held).returns multiple
  exact free_of_frees (frees_completeByObjectives step) held free

theorem onlyBroken_gated {go : Status → Run Outcome} (multiple : isMultiple step = true)
    (behind : ∀ status, OnlyBroken step.key (go status)) : OnlyBroken step.key (gated step go) := by
  refine onlyBroken_looks (objectivesMet_returns step) (objectivesMet_looks step) fun met => ?_
  split
  · exact onlyBroken_completeByObjectives multiple
  · refine onlyBroken_bind (status_returns _) (frees_status _) fun status => ?_
    split
    · exact onlyBroken_pure _
    · exact behind status

theorem onlyBroken_runMultistep (multiple : isMultiple step = true) :
    OnlyBroken step.key (runMultistep step) := by
  refine onlyBroken_gated multiple fun status => ?_
  refine onlyBroken_looks (check_returns step) (check_looks step) fun requirements => ?_
  split
  · cases body : step.body with
    | single => simp [isMultiple, body] at multiple
    | multiple actions delay =>
        intro before trace after result held free
        exact held_runActions free held
  · exact onlyBroken_pure _

theorem onlyBroken_trigger (mode : Mode) (multiple : isMultiple step = true) :
    OnlyBroken step.key (trigger step mode) := by
  refine onlyBroken_gated multiple fun status => ?_
  cases body : step.body with
  | single => simp [isMultiple, body] at multiple
  | multiple actions delay => exact onlyBroken_runMultistep multiple

/-! Calls. -/

/-- What may be called to run a step. -/
inductive Call where
  | trigger (step : Step) (mode : Mode)
  | runStep (step : Step) (mode : Mode)
  | runSequence (step : Step) (showOnly : Bool)
  | runMultistep (step : Step)

namespace Call

def run : Call → Run Unit
  | trigger step mode => discard (Guide.trigger step mode)
  | runStep step mode => Guide.runStep step mode
  | runSequence step showOnly => discard (Guide.runSequence step showOnly)
  | runMultistep step => discard (Guide.runMultistep step)

def multiple? : Call → Option Step
  | trigger step _ | runMultistep step => if isMultiple step then some step else none
  | runStep .. | runSequence .. => none

end Call

theorem frees_call (call : Call) (others : ∀ step, call.multiple? = some step → key ≠ step.key) :
    Frees key call.run := by
  cases call with
  | trigger step mode =>
      exact keeps_discard (frees_trigger mode fun multiple => others step (if_pos multiple))
  | runStep step mode => exact frees_runStep step mode
  | runSequence step showOnly => exact keeps_discard (frees_runSequence step showOnly)
  | runMultistep step =>
      exact keeps_discard (frees_runMultistep fun multiple => others step (if_pos multiple))

theorem onlyBroken_discard {run : Run α} (only : OnlyBroken key run) :
    OnlyBroken key (discard run) := by
  intro before trace after result held free
  obtain ⟨inner, inside, rfl⟩ := held_discard.1 held
  have ends := only inside free
  cases inner with
  | ok value => exact ends
  | error fault => exact ends

theorem onlyBroken_call (call : Call) (multiple : call.multiple? = some step) :
    OnlyBroken step.key call.run := by
  cases call with
  | trigger own mode =>
      obtain ⟨multiple, same⟩ := Option.ite_none_right_eq_some.1 multiple
      cases same
      exact onlyBroken_discard (onlyBroken_trigger mode multiple)
  | runMultistep own =>
      obtain ⟨multiple, same⟩ := Option.ite_none_right_eq_some.1 multiple
      cases same
      exact onlyBroken_discard (onlyBroken_runMultistep multiple)
  | runStep | runSequence => cases multiple

def AtRest (records : Records) : Prop :=
  ∀ key, records.status key ≠ .running

/-- A call from a state of rest leaves a step running exactly if it runs that step as a multi-step
and fails, and then it was broken off between or after the inner actions. In every other case it
ends in a state of rest, also by a failure. -/
theorem running_after_call_iff (call : Call) {result : Except Fault Unit}
    (rest : AtRest before) (held : call.run.Held before trace after result) (key : String) :
    after.status key = .running ↔
      ∃ step fault, call.multiple? = some step ∧ key = step.key ∧ result = .error fault ∧
        BrokenOff trace fault := by
  constructor
  -- only the multi-step that the call runs can be left running
  · intro running
    by_cases own : ∃ step, call.multiple? = some step ∧ key = step.key
    · obtain ⟨step, multiple, rfl⟩ := own
      have ends := onlyBroken_call call multiple held (rest step.key)
      cases result with
      | ok value => exact absurd running ends
      | error fault => exact ⟨step, fault, multiple, rfl, rfl, ends.2⟩
    · have others : ∀ step, call.multiple? = some step → key ≠ step.key :=
        fun step multiple same => own ⟨step, multiple, same⟩
      exact absurd running (free_of_frees (frees_call call others) held (rest key))
  · rintro ⟨step, fault, multiple, rfl, rfl, -⟩
    exact (onlyBroken_call call multiple held (rest step.key)).1

def visit : Step where
  action := .multistep
  target := "/"
  value := none
  requirements := none
  objectives := none
  hints := none
  identity := .ofStep "visit"
  custom := []
  body := .multiple [⟨.navigate, "/", none, none⟩] none

def unsettled : Scene where
  page
    | .settle => .error (.page "gone")
    | .pushRoute _ => .ok ()
    | _ => .error (.page "empty")
  tuning := Scene.unhurried 3

theorem running_after_visit :
    ∃ trace, AtRest ⟨[], []⟩ ∧
      (Call.trigger visit .commit).run.Held ⟨[], []⟩ trace
        (unsettled.outcome (Call.trigger visit .commit).run ⟨[], []⟩).2
        (.error (.page "gone")) ∧
      ∃ step fault, (Call.trigger visit .commit).multiple? = some step ∧
        "step-visit" = step.key ∧ (.error (.page "gone") : Except Fault Unit) = .error fault ∧
        BrokenOff trace fault := by
  obtain ⟨trace, held, -⟩ := unsettled.held (Call.trigger visit .commit).run ⟨[], []⟩
  have result : (unsettled.outcome (Call.trigger visit .commit).run ⟨[], []⟩).1 =
      .error (.page "gone") := by rfl
  rw [result] at held
  have rest : AtRest ⟨[], []⟩ := fun key => Status.noConfusion
  exact ⟨trace, rest, held, (running_after_call_iff _ rest held "step-visit").1 (by rfl)⟩

end Walkthrough.Guide
