import Walkthrough.Proofs.Course
/-!
Which states a run writes. A run that never asks to move a step, nor to set its index, leaves the
entry of that step as it is, be it there or not. The run of a step writes its own entry only, and
so does the run of a sequence before and after its tour.
-/

namespace Walkthrough

def Request.avoids (key : String) : Request → Prop
  | move asked => asked.step ≠ key
  | setIndex step _ => step ≠ key
  | _ => True

theorem Request.avoids_of_spares {key : String} (request : Request)
    (spares : request.spares = true) : request.avoids key := by
  cases request <;> simp_all [Request.spares, avoids]

namespace Records

variable {before after : Records} {key : String}

theorem Moves.find?_eq {move : Move} {reply : Except GuideError StepState}
    (moves : before.Moves move reply after) (other : move.step ≠ key) :
    after.store.find? key = before.store.find? key := by
  cases may : (before.status move.step).mayBecome move.status with
  | true =>
      obtain ⟨-, rfl⟩ := moves.of_mayBecome may
      exact Store.find?_put_other _ _ (Ne.symm other)
  | false =>
      obtain ⟨-, rfl⟩ := moves.of_not_mayBecome may
      rfl

theorem find?_of_answers {asked : Request} {reply : asked.Answer} (avoids : asked.avoids key)
    (answered : before.Answers asked reply after) :
    after.store.find? key = before.store.find? key := by
  cases asked with
  | move move => exact Moves.find?_eq answered avoids
  | setIndex step index =>
      obtain rfl := answered
      exact Store.find?_put_other _ _ (Ne.symm avoids)
  | enterSequence selector =>
      obtain rfl := answered
      unfold enter
      split <;> rfl
  | leaveSequence selector =>
      obtain rfl := answered
      rfl
  | _ => rw [eq_of_answers rfl answered]

theorem get_of_find? (same : after.store.find? key = before.store.find? key) :
    after.store.get key = before.store.get key := by
  unfold Store.get
  rw [same]

theorem status_of_find? (same : after.store.find? key = before.store.find? key) :
    after.status key = before.status key := by
  unfold Records.status Store.status
  rw [get_of_find? same]

end Records

theorem Run.Held.find?_eq {α : Type} {run : Run α} {before after : Records} {trace : List Turn}
    {result : Except Fault α} {key : String} (held : run.Held before trace after result)
    (asks : run.Asks (·.avoids key)) : after.store.find? key = before.store.find? key :=
  held.unchanged (·.store.find? key) Records.find?_of_answers asks

namespace Guide

open Run

variable {α : Type} {key other : String} {step : Step}

theorem avoids_of_spares {run : Run α} (asks : run.Asks (·.spares)) : run.Asks (·.avoids key) :=
  asks_mono asks Request.avoids_of_spares

theorem avoids_of_passes {run : Run α} (asks : run.Asks (·.passes)) : run.Asks (·.avoids key) :=
  avoids_of_spares (asks_spares asks)

theorem avoids_of_looks {run : Run α} (looks : run.Asks (·.looks)) : run.Asks (·.avoids key) :=
  avoids_of_passes (passes_of_looks looks)

theorem status_avoids (other : String) : (Run.status other).Asks (·.avoids key) :=
  asks_status trivial

theorem move_avoids {move : Move} (distinct : move.step ≠ key) :
    (Run.move move).Asks (·.avoids key) :=
  asks_move distinct

theorem moveTo_avoids {status : Status} (distinct : other ≠ key) :
    (Run.moveTo other status).Asks (·.avoids key) :=
  asks_discard (move_avoids distinct)

theorem reset_avoids (distinct : other ≠ key) : (Run.reset other).Asks (·.avoids key) :=
  asks_reset trivial distinct

theorem clearing_avoids (distinct : other ≠ key) : (clearing other).Asks (·.avoids key) := by
  refine asks_bind (status_avoids _) fun status => ?_
  split
  · exact asks_discard (reset_avoids distinct)
  · exact asks_pure _

theorem begin_avoids (distinct : other ≠ key) : (begin other).Asks (·.avoids key) :=
  asks_begin trivial distinct distinct

theorem runStep_avoids (distinct : step.key ≠ key) (mode : Mode) :
    (runStep step mode).Asks (·.avoids key) :=
  asks_runStep Request.avoids_of_spares (fun _ _ => distinct) mode

theorem completeByObjectives_avoids (distinct : step.key ≠ key) :
    (completeByObjectives step).Asks (·.avoids key) := by
  refine asks_completeByObjectives trivial (fun request keeps => ?_) distinct distinct
  exact Request.avoids_of_spares request (Request.spares_of_keepsBooks request keeps)

/-! The run of a sequence around its tour. -/

variable {before after : Records} {trace : List Turn} {showOnly : Bool}

theorem held_leaving {run : Run α} {selector : String} {result : Except Fault α}
    (held : (leaving selector run).Held before trace after result) :
    ∃ ran middle, run.Held before ran middle result ∧ after = middle.leave selector ∧
      trace = ran ++ [⟨.leaveSequence selector, ()⟩] := by
  obtain ⟨inner, ran, middle, _, runs, tail, rfl⟩ := held_outcome_bind.1 held
  obtain ⟨_, left, rest, answered, last, rfl⟩ := held_ask_bind.1 tail
  have answered : left = middle.leave selector := answered
  subst answered
  cases inner with
  | ok value =>
      obtain ⟨rfl, rfl, rfl⟩ := held_pure.1 last
      exact ⟨ran, middle, runs, rfl, rfl⟩
  | error fault =>
      obtain ⟨rfl, rfl, rfl⟩ := held_throw.1 last
      exact ⟨ran, middle, runs, rfl, rfl⟩

theorem held_runSequence {result : Except Fault String}
    (inactive : before.active.contains step.target = false)
    (held : (runSequence step showOnly).Held before trace after result) :
    ∃ ran middle inner,
      (enclosed step showOnly).Held (before.enter step.target) ran middle inner ∧
      after = middle.leave step.target ∧ result = inner.map (fun _ => step.target) ∧
      trace = ⟨.activeSequences, before.active⟩ :: ⟨.enterSequence step.target, ()⟩ ::
        (ran ++ [⟨.leaveSequence step.target, ()⟩]) := by
  obtain ⟨_, between, rest, ⟨rfl, same⟩, tail, rfl⟩ := held_ask_bind.1 held
  obtain rfl : before = between := same.symm
  rw [inactive] at tail
  have opened : (Run.ask (.enterSequence step.target) >>= fun _ =>
      leaving step.target (enclosed step showOnly) >>= fun _ => pure step.target).Held
        before rest after result := tail
  obtain ⟨_, entered, inside, answered, body, rfl⟩ := held_ask_bind.1 opened
  have answered : entered = before.enter step.target := answered
  subst answered
  rcases held_bind.1 body with ⟨_, _, _, _, leaves, ended, rfl⟩ | ⟨fault, failed, rfl⟩
  · obtain ⟨rfl, rfl, rfl⟩ := held_pure.1 ended
    obtain ⟨ran, middle, runs, rfl, rfl⟩ := held_leaving leaves
    exact ⟨ran, middle, _, runs, rfl, rfl, by simp⟩
  · obtain ⟨ran, middle, runs, rfl, rfl⟩ := held_leaving failed
    exact ⟨ran, middle, _, runs, rfl, rfl, rfl⟩

theorem held_enclosed_ok
    (held : (enclosed step showOnly).Held before trace after (.ok ())) :
    ∃ opening begun walking walked state,
      (begin step.key).Held before opening begun (.ok ()) ∧
      (walk step showOnly).Held begun walking walked (.ok ()) ∧
      walked.Moves ⟨step.key, .completed, none, none⟩ (.ok state) after ∧
      trace = opening ++ (walking ++ [⟨.move ⟨step.key, .completed, none, none⟩, .ok state⟩]) := by
  obtain ⟨⟨⟩, opening, begun, _, begins, inner, rfl⟩ := held_bind_ok.1 held
  obtain ⟨⟨⟩, walking, walked, _, walks, ended, rfl⟩ := held_bind_ok.1 inner
  obtain ⟨reply, moves, rfl, same⟩ := held_moveTo.1 ended
  cases reply with
  | ok state =>
      rcases held_failing walks with ⟨⟨⟩, walks, -⟩ | ⟨_, _, _, reply, _, -, -, told, refused⟩
      · exact ⟨opening, begun, walking, walked, state, begins, walks, moves, rfl⟩
      · cases reply with
        | ok _ => cases told ⟨_, rfl⟩
        | error error => cases refused error rfl
  | error error => cases same

end Guide

end Walkthrough
