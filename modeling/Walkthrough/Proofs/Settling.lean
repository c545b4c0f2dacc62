import Walkthrough.Proofs.Choreography
import Walkthrough.Proofs.Confinement
/-!
Where the attempts at a step leave it. Each phase leads from one status to another, and a run of
phases leads where its phases lead one after the other. However often an attempt fails, the way
back to idle follows it; so attempts that come to their end leave an idle step completed if one of
its commitments came to its end, and idle otherwise. This is so whatever the settings allow.
-/

namespace Walkthrough.Guide

open Run

variable {α : Type} {step : Step} {before middle after : Records} {first trace : List Turn}
variable {phases more : List Phase}

/-! Statuses. -/

namespace Phase

def lead (status : Status) : Phase → Status
  | check _ | rest _ | wait _ | run _ (.refused _) => status
  | run _ (.broke _) | run _ (.late _) => .error
  | run .commit .ended => .completed
  | run .preview .ended | reset => .idle

def done : Phase → Bool
  | run .commit .ended => true
  | _ => false

def still : Phase → Bool
  | check _ | rest _ | wait _ => true
  | run .. | reset => false

theorem lead_of_still {phase : Phase} (still : phase.still = true) (status : Status) :
    lead status phase = status := by
  cases phase with
  | check | rest | wait => rfl
  | run | reset => cases still

theorem undone_of_still {phase : Phase} (still : phase.still = true) : phase.done = false := by
  cases phase with
  | check | rest | wait => rfl
  | run | reset => cases still

theorem uncommitted_of_still {phase : Phase} (still : phase.still = true) :
    phase.commits = false := by
  cases phase with
  | check | rest | wait => rfl
  | run | reset => cases still

theorem undone_of_failed {mode : Mode} {progress : Progress} {fault : Fault}
    (failed : progress.result = .error fault) : (run mode progress).done = false := by
  cases progress with
  | ended => cases failed
  | _ => cases mode <;> rfl

end Phase

theorem status_enacted {phase : Phase} (enacted : phase.Enacted step before trace after) :
    after.status step.key = phase.lead (before.status step.key) := by
  cases enacted with
  | check held => rw [held.looked (ready_looks step)]; rfl
  | rest held | wait held => rw [held.spared (asks_spares (pause_passes _))]; rfl
  | reset held => exact (held_reset held).2.1
  | run _ course =>
      have status := course.status_eq
      cases course with
      | refused => rfl
      | broke | late | shown | completed => exact status

theorem status_enacts (enacts : Enacts step phases before trace after) :
    after.status step.key = phases.foldl Phase.lead (before.status step.key) := by
  induction enacts with
  | nil => rfl
  | settings _ ih => exact ih
  | phase enacted _ ih => rw [ih, status_enacted enacted, List.foldl_cons]

theorem find?_enacts {key : String} (distinct : step.key ≠ key)
    (enacts : Enacts step phases before trace after) :
    after.store.find? key = before.store.find? key := by
  induction enacts with
  | nil => rfl
  | settings _ ih => exact ih
  | phase enacted _ ih =>
      rw [ih]
      cases enacted with
      | check held => exact held.find?_eq (avoids_of_looks (ready_looks step))
      | run held => exact held.find?_eq (runStep_avoids distinct _)
      | rest held | wait held => exact held.find?_eq (avoids_of_passes (pause_passes _))
      | reset held => exact held.find?_eq (reset_avoids distinct)

/-! Phases in vain, and phases that settle a step. -/

/-- From idle the phases lead back to idle, and the step was not done. -/
structure Vain (phases : List Phase) : Prop where
  idle : phases.foldl Phase.lead .idle = .idle
  undone : phases.any Phase.done = false

/-- From idle the phases lead to where the step belongs. -/
def Settles (phases : List Phase) : Prop :=
  phases.foldl Phase.lead .idle = if phases.any Phase.done then .completed else .idle

theorem foldl_still (still : ∀ phase ∈ phases, phase.still = true) (status : Status) :
    phases.foldl Phase.lead status = status := by
  induction phases with
  | nil => rfl
  | cons phase rest ih =>
      obtain ⟨here, later⟩ := List.forall_mem_cons.1 still
      rw [List.foldl_cons, Phase.lead_of_still here, ih later]

theorem undone_still (still : ∀ phase ∈ phases, phase.still = true) :
    phases.any Phase.done = false := by
  apply List.any_eq_false.2
  intro phase member
  simp [Phase.undone_of_still (still phase member)]

theorem Vain.of_still (still : ∀ phase ∈ phases, phase.still = true) : Vain phases :=
  ⟨foldl_still still _, undone_still still⟩

theorem Vain.of_reset {tried : List Phase} (undone : tried.any Phase.done = false)
    (still : ∀ phase ∈ phases, phase.still = true) : Vain (tried ++ .reset :: phases) where
  idle := by
    rw [List.foldl_append, List.foldl_cons, foldl_still still]
    rfl
  undone := by simp [undone, undone_still still, Phase.done]

theorem Vain.settles_append (vain : Vain phases) (settles : Settles more) :
    Settles (phases ++ more) := by
  unfold Settles at settles ⊢
  rw [List.foldl_append, vain.idle, settles, List.any_append, vain.undone, Bool.false_or]

theorem Vain.settles (vain : Vain phases) : Settles phases := by
  unfold Settles
  rw [vain.idle, vain.undone]
  rfl

theorem Trial.not_done {tried : List Phase} {fault : Fault} (trial : Trial tried (.error fault)) :
    tried.any Phase.done = false := by
  cases trial with
  | unshown failed => simp [Phase.undone_of_failed failed]
  | restless => rfl
  | undone failed =>
      simp only [List.any_cons, List.any_nil, Phase.undone_of_failed failed]
      rfl

theorem Trial.vain {tried : List Phase} (trial : Trial tried (.ok false)) : Vain tried := by
  cases trial
  exact ⟨rfl, rfl⟩

theorem Trial.settles {tried : List Phase} (trial : Trial tried (.ok true))
    (still : ∀ phase ∈ more, phase.still = true) : Settles (tried ++ more) := by
  cases trial
  unfold Settles
  rw [List.foldl_append, foldl_still still]
  simp [Phase.done, Phase.lead]

/-! Attempts. -/

/-- A part of the attempts that leaves the step idle. Nothing is committed while the steps are only
shown. -/
def Wasted (step : Step) (showOnly : Bool) (before : Records) (trace : List Turn)
    (after : Records) : Prop :=
  ∃ phases, Enacts step phases before trace after ∧ Vain phases ∧
    (showOnly = true → ∀ phase ∈ phases, phase.commits = false)

def Tried (step : Step) (showOnly : Bool) (before : Records) (trace : List Turn)
    (after : Records) : Prop :=
  ∃ phases, Enacts step phases before trace after ∧ Settles phases ∧
    (showOnly = true → ∀ phase ∈ phases, phase.commits = false)

variable {showOnly : Bool} {second : List Turn}

theorem Wasted.of_still (enacts : Enacts step phases before trace after)
    (still : ∀ phase ∈ phases, phase.still = true) : Wasted step showOnly before trace after :=
  ⟨phases, enacts, .of_still still, fun _ phase member =>
    Phase.uncommitted_of_still (still phase member)⟩

theorem Wasted.tried (wasted : Wasted step showOnly before trace after) :
    Tried step showOnly before trace after := by
  obtain ⟨phases, enacts, vain, shown⟩ := wasted
  exact ⟨phases, enacts, vain.settles, shown⟩

theorem Wasted.tried_append (wasted : Wasted step showOnly before first middle)
    (tried : Tried step showOnly middle second after) :
    Tried step showOnly before (first ++ second) after := by
  obtain ⟨phases, enacts, vain, shown⟩ := wasted
  obtain ⟨more, going, settles, still⟩ := tried
  exact ⟨phases ++ more, enacts.append going, vain.settles_append settles, fun only =>
    List.forall_mem_append.2 ⟨shown only, still only⟩⟩

theorem wasted_nil (records : Records) : Wasted step showOnly records [] records :=
  .of_still .nil (by simp)

theorem wasted_mayAttempt {attempt : Nat} {result : Except Fault Bool}
    (held : (mayAttempt attempt).Held before trace after result) :
    Wasted step showOnly before trace after := by
  obtain ⟨tuning, rest, tail, rfl⟩ := held_settings_bind.1 held
  obtain ⟨rfl, rfl, -⟩ := held_ofMisuse.1 tail
  exact .of_still (.settings .nil) (by simp)

theorem wasted_ready {passed : Bool}
    (held : (ready step).Held before trace after (.ok passed)) :
    Wasted step showOnly before trace after :=
  .of_still (.one (.check held)) (by simp [Phase.still])

theorem enacts_wait (step : Step) {attempt : Nat} {result : Except Fault Bool}
    (held : (retryPause attempt).Held before trace after result) :
    ∃ phases, Enacts step phases before trace after ∧ ∀ phase ∈ phases, phase.still = true := by
  obtain ⟨tuning, rest, tail, rfl⟩ := held_settings_bind.1 held
  have waits {trace : List Turn} {result : Except Fault Unit}
      (held : (Run.pause tuning.retryDelay).Held before trace after result) :
      Enacts step [.wait result] before trace after := .one (.wait held)
  rcases held_bind.1 tail with ⟨reached, first, _, second, judged, next, rfl⟩ | ⟨_, failed, -⟩
  · obtain ⟨rfl, rfl, -⟩ := held_ofMisuse.1 judged
    split at next
    · obtain ⟨rfl, rfl, -⟩ := held_pure.1 next
      exact ⟨[], .settings .nil, by simp⟩
    · rcases held_bind.1 next with ⟨_, _, _, _, paused, ended, rfl⟩ | ⟨_, failed, -⟩
      · obtain ⟨rfl, rfl, -⟩ := held_pure.1 ended
        rw [List.nil_append, List.append_nil]
        exact ⟨_, .settings (waits paused), by simp [Phase.still]⟩
      · exact ⟨_, .settings (waits failed), by simp [Phase.still]⟩
  · obtain ⟨rfl, rfl, -⟩ := held_ofMisuse.1 failed
    exact ⟨[], .settings .nil, by simp⟩

theorem wasted_wait {attempt : Nat} {result : Except Fault Bool}
    (held : (retryPause attempt).Held before trace after result) :
    Wasted step showOnly before trace after := by
  obtain ⟨phases, enacts, still⟩ := enacts_wait step held
  exact .of_still enacts still

theorem wasted_recover {tried : List Phase} {attempt : Nat} {fault : Fault}
    (enacts : Enacts step tried before first middle) (undone : tried.any Phase.done = false)
    (shown : showOnly = true → ∀ phase ∈ tried, phase.commits = false)
    (held : (recover step attempt fault).Held middle second after (.ok ())) :
    Wasted step showOnly before (first ++ second) after := by
  unfold recover at held
  split at held
  · obtain ⟨-, -, same⟩ := held_throw.1 held
    cases same
  · obtain ⟨_, _, _, _, head, tail, rfl⟩ := held_bind_ok.1 held
    obtain ⟨inner, resets, -⟩ := held_discard.1 head
    obtain ⟨⟨state, rfl⟩, -⟩ := held_reset resets
    obtain ⟨inner, waits, -⟩ := held_discard.1 tail
    obtain ⟨phases, waiting, still⟩ := enacts_wait step waits
    refine ⟨tried ++ .reset :: phases, enacts.append (.phase (.reset resets) waiting),
      .of_reset undone still, ?_⟩
    intro only
    refine List.forall_mem_append.2 ⟨shown only, List.forall_mem_cons.2 ⟨rfl, ?_⟩⟩
    exact fun phase member => Phase.uncommitted_of_still (still phase member)

theorem enacts_rest (step : Step) (delay : Tuning → Amount) {result : Except Fault Unit}
    (held : (Run.settings >>= fun tuning => Run.pause (delay tuning)).Held
      before trace after result) : Enacts step [.rest result] before trace after := by
  obtain ⟨tuning, rest, rests, rfl⟩ := held_settings_bind.1 held
  exact .settings (.one (.rest rests))

def Tries (step : Step) (showOnly : Bool) (run : Run Unit) : Prop :=
  ∀ ⦃before trace after⦄, run.Held before trace after (.ok ()) →
    Tried step showOnly before trace after

theorem tries_round {attempt : Nat} {next : Run Unit} {trial : Run Unit}
    (again : Tries step showOnly next) (tries : Tries step showOnly trial) :
    Tries step showOnly (do
      if !(← mayAttempt attempt) then return ()
      else if !(← ready step) then
        if ← retryPause (attempt + 1) then next else return ()
      else trial) := by
  intro before trace after held
  obtain ⟨may, _, _, _, asked, body, rfl⟩ := held_bind_ok.1 held
  apply (wasted_mayAttempt asked).tried_append
  split at body
  · obtain ⟨rfl, rfl, -⟩ := held_pure.1 body
    exact (wasted_nil _).tried
  · obtain ⟨passed, _, _, _, checked, rest, rfl⟩ := held_bind_ok.1 body
    apply (wasted_ready checked).tried_append
    split at rest
    · obtain ⟨go, _, _, _, waits, last, rfl⟩ := held_bind_ok.1 rest
      apply (wasted_wait waits).tried_append
      split at last
      · exact again last
      · obtain ⟨rfl, rfl, -⟩ := held_pure.1 last
        exact (wasted_nil _).tried
    · exact tries rest

/-- By induction on the patience. -/
theorem tries_showAttempts (step : Step) (patience attempt : Nat) :
    Tries step true (showAttempts step patience attempt) := by
  induction patience generalizing attempt with
  | zero =>
      intro before trace after held
      obtain ⟨rfl, rfl, -⟩ := held_pure.1 held
      exact (wasted_nil _).tried
  | succ patience ih =>
      apply tries_round (ih (attempt + 1))
      intro before trace after held
      obtain ⟨shown, first, _, second, shows, rest, rfl⟩ := held_outcome_bind.1 held
      obtain ⟨progress, enacts, same⟩ := enacts_run shows
      cases shown with
      | error fault =>
          obtain ⟨_, _, _, _, recovers, last, rfl⟩ := held_bind_ok.1 rest
          rw [← List.append_assoc]
          exact (wasted_recover enacts (by simp [Phase.done]) (by simp [Phase.commits])
            recovers).tried_append (ih _ last)
      | ok _ =>
          obtain rfl := Progress.eq_ended same
          have rests := enacts_rest step (fun tuning => tuning.showOnlyStepDelay) rest
          exact ⟨_, enacts.append rests, Vain.settles ⟨rfl, rfl⟩, by simp [Phase.commits]⟩

theorem tries_doAttempts (step : Step) (isLast : Bool) (patience attempt : Nat) :
    Tries step false (doAttempts step isLast patience attempt) := by
  induction patience generalizing attempt with
  | zero =>
      intro before trace after held
      obtain ⟨rfl, rfl, -⟩ := held_pure.1 held
      exact (wasted_nil _).tried
  | succ patience ih =>
      apply tries_round (ih (attempt + 1))
      intro before trace after held
      obtain ⟨outcome, first, _, second, tries, rest, rfl⟩ := held_outcome_bind.1 held
      obtain ⟨tried, enacts, trial⟩ := enacts_showThenDo tries
      match outcome with
      | .error fault =>
          obtain ⟨_, _, _, _, recovers, last, rfl⟩ := held_bind_ok.1 rest
          rw [← List.append_assoc]
          exact (wasted_recover enacts trial.not_done (by simp) recovers).tried_append (ih _ last)
      | .ok true =>
          dsimp only at rest
          split at rest
          · obtain ⟨rfl, rfl, -⟩ := held_pure.1 rest
            exact ⟨_, enacts.append .nil, trial.settles (by simp), by simp⟩
          · have rests := enacts_rest step (fun tuning =>
              if step.action = .button then tuning.stateChangeDelay else tuning.actionDelay) rest
            exact ⟨_, enacts.append rests, trial.settles (by simp [Phase.still]), by simp⟩
      | .ok false =>
          have outdated : Wasted step false before first _ := ⟨tried, enacts, trial.vain, by simp⟩
          apply outdated.tried_append
          obtain ⟨waited, _, _, _, waits, last, rfl⟩ := held_outcome_bind.1 rest
          cases waited with
          | ok _ => exact (wasted_wait waits).tried_append (ih _ last)
          | error fault =>
              obtain ⟨phases, waiting, still⟩ := enacts_wait step waits
              obtain ⟨_, _, _, _, recovers, others, rfl⟩ := held_bind_ok.1 last
              rw [← List.append_assoc]
              exact (wasted_recover waiting (undone_still still) (by simp)
                recovers).tried_append (ih _ others)

end Walkthrough.Guide
