import Walkthrough.Proofs.Commitments
import Walkthrough.Proofs.Contents
import Walkthrough.Proofs.Settling
/-!
How a sequence leaves the steps of its container. A tour visits the steps in document order: each
is either completed because its objectives are met, or made idle and attempted. With keys of their
own, the visits do not get in each other's way, so what the visit of a step came to still stands
when the sequence itself is completed; and no other entry has changed by then.
-/

namespace Walkthrough

def Records.reach (records : Records) (sequence : String) (position : Nat) : Records :=
  { records with store := records.store.setIndex sequence position }

namespace Guide

open Run

variable {step : Step} {sequence key : String} {before middle after : Records}
variable {trace : List Turn} {position : Nat} {showOnly : Bool}

/-! Visits. -/

/-- What came of a step on a tour. -/
inductive Fate where
  | met
  | tried (phases : List Phase)

namespace Fate

def completes : Fate → Bool
  | met => true
  | tried phases => phases.any Phase.done

def status (fate : Fate) : Status :=
  if fate.completes then .completed else .idle

end Fate

def finishing (step : Step) : Run Unit := do
  if (← Run.status step.key) != .completed then discard (completeByObjectives step)

theorem prepare_eq (step : Step) :
    prepare step = objectivesMet step >>= fun met =>
      if met then finishing step >>= fun _ => pure false
      else clearing step.key >>= fun _ => pure true := by
  unfold prepare finishing clearing
  congr 1
  funext met
  split
  · rw [bind_assoc]
    congr 1
    funext status
    split
    · rfl
    · rw [pure_bind]
  · rw [bind_assoc]
    congr 1
    funext status
    split
    · rfl
    · rw [pure_bind]

/-- The visit to the step in a position. What is tried in it settles the step, and commits nothing
while the steps are only shown. -/
inductive Visited (sequence : String) (showOnly : Bool) (position : Nat) (step : Step)
    (before : Records) : Fate → List Turn → Records → Prop where
  | met {opening books after}
      (objectives : (objectivesMet step).Held (before.reach sequence position) opening
        (before.reach sequence position) (.ok true))
      (finishes : (finishing step).Held (before.reach sequence position) books after (.ok ())) :
      Visited sequence showOnly position step before .met
        (⟨.setIndex sequence position, ()⟩ :: (opening ++ books)) after
  | tried {opening cleared attempts idle phases after}
      (objectives : (objectivesMet step).Held (before.reach sequence position) opening
        (before.reach sequence position) (.ok false))
      (clears : (clearing step.key).Held (before.reach sequence position) cleared idle (.ok ()))
      (enacts : Enacts step phases idle attempts after) (settles : Settles phases)
      (shown : showOnly = true → ∀ phase ∈ phases, phase.commits = false) :
      Visited sequence showOnly position step before (.tried phases)
        (⟨.setIndex sequence position, ()⟩ :: (opening ++ (cleared ++ attempts))) after

/-- One visit after the other. -/
inductive Toured (sequence : String) (showOnly : Bool) :
    Nat → List Step → List Fate → Records → List Turn → Records → Prop where
  | done {position records} : Toured sequence showOnly position [] [] records [] records
  | next {position step rest fate fates before middle after first second}
      (visit : Visited sequence showOnly position step before fate first middle)
      (others : Toured sequence showOnly (position + 1) rest fates middle second after) :
      Toured sequence showOnly position (step :: rest) (fate :: fates) before (first ++ second)
        after

/-! Tours are made of visits. -/

theorem held_prepare_ok {wanted : Bool}
    (held : (prepare step).Held before trace after (.ok wanted)) :
    ∃ opening rest, trace = opening ++ rest ∧
      (objectivesMet step).Held before opening before (.ok !wanted) ∧
      if wanted then (clearing step.key).Held before rest after (.ok ())
      else (finishing step).Held before rest after (.ok ()) := by
  rw [prepare_eq, held_looking_bind (objectivesMet_looks step) (objectivesMet_returns step)] at held
  obtain ⟨met, opening, rest, looked, tail, rfl⟩ := held
  cases met with
  | true =>
      obtain ⟨⟨⟩, _, _, _, finishes, ended, rfl⟩ := held_bind_ok.1 tail
      obtain ⟨rfl, rfl, same⟩ := held_pure.1 ended
      cases same
      rw [List.append_nil]
      exact ⟨opening, _, rfl, looked, finishes⟩
  | false =>
      obtain ⟨⟨⟩, _, _, _, clears, ended, rfl⟩ := held_bind_ok.1 tail
      obtain ⟨rfl, rfl, same⟩ := held_pure.1 ended
      cases same
      rw [List.append_nil]
      exact ⟨opening, _, rfl, looked, clears⟩

theorem visited_of_held {attempts : Nat → Run Unit}
    (tries : ∀ patience, Tries step showOnly (attempts patience))
    (held : (Run.setIndex sequence position >>= fun _ => prepare step >>= fun wanted =>
        if wanted then patience >>= attempts else pure ()).Held before trace after (.ok ())) :
    ∃ fate, Visited sequence showOnly position step before fate trace after := by
  obtain ⟨_, reached, _, answered, body, rfl⟩ := held_ask_bind.1 held
  have answered : reached = before.reach sequence position := answered
  subst answered
  obtain ⟨wanted, _, _, _, prepares, tail, rfl⟩ := held_bind_ok.1 body
  obtain ⟨opening, rest, rfl, objectives, prepared⟩ := held_prepare_ok prepares
  cases wanted with
  | false =>
      obtain ⟨rfl, rfl, -⟩ := held_pure.1 tail
      rw [List.append_nil]
      exact ⟨.met, .met objectives prepared⟩
  | true =>
      rw [List.append_assoc]
      obtain ⟨most, _, _, _, asked, attempting, rfl⟩ := held_bind_ok.1 tail
      obtain ⟨tuning, _, patient, rfl⟩ := held_settings_bind.1 asked
      obtain ⟨rfl, rfl, -⟩ := held_pure.1 patient
      obtain ⟨phases, enacts, settles, shown⟩ := tries most attempting
      exact ⟨.tried phases, .tried objectives prepared (.settings enacts) settles shown⟩

/-- By induction on the steps. -/
theorem toured_of_touring {attempts : Step → Bool → Nat → Run Unit}
    (tries : ∀ step isLast patience, Tries step showOnly (attempts step isLast patience))
    {steps : List Step}
    (held : (touring sequence attempts position steps).Held before trace after (.ok ())) :
    ∃ fates, Toured sequence showOnly position steps fates before trace after := by
  induction steps generalizing before trace position with
  | nil =>
      obtain ⟨rfl, rfl, -⟩ := held_pure.1 held
      exact ⟨[], .done⟩
  | cons step rest ih =>
      have opened : touring sequence attempts position (step :: rest) =
          ((Run.setIndex sequence position >>= fun _ => prepare step >>= fun wanted =>
            if wanted then patience >>= attempts step rest.isEmpty else pure ()) >>= fun _ =>
              touring sequence attempts (position + 1) rest) := by
        rw [touring]
        simp only [bind_assoc]
        congr 1
        funext _
        congr 1
        funext wanted
        split
        · simp
        · simp
      rw [opened] at held
      obtain ⟨⟨⟩, first, _, second, visits, others, rfl⟩ := held_bind_ok.1 held
      obtain ⟨fate, visit⟩ := visited_of_held (tries step rest.isEmpty) visits
      obtain ⟨fates, toured⟩ := ih others
      exact ⟨fate :: fates, .next visit toured⟩

/-! What a tour leaves behind. -/

variable {fate : Fate} {steps : List Step} {fates : List Fate}

theorem finishing_avoids (distinct : step.key ≠ key) : (finishing step).Asks (·.avoids key) := by
  refine asks_bind (status_avoids _) fun status => ?_
  split
  · exact asks_discard (completeByObjectives_avoids distinct)
  · exact asks_pure _

theorem held_finishing (held : (finishing step).Held before trace after (.ok ())) :
    after.status step.key = .completed := by
  obtain ⟨rest, tail, rfl⟩ := held_status_bind.1 held
  split at tail
  · obtain ⟨inner, completes, same⟩ := held_discard.1 tail
    cases inner with
    | ok outcome => exact (shortcut_of_held completes).status_eq
    | error fault => cases same
  · next done =>
      obtain ⟨-, rfl, -⟩ := held_pure.1 tail
      simpa using done

namespace Visited

theorem find?_eq (visit : Visited sequence showOnly position step before fate trace after)
    (distinct : step.key ≠ key) :
    after.store.find? key = (before.reach sequence position).store.find? key := by
  cases visit with
  | met _ finishes => exact finishes.find?_eq (finishing_avoids distinct)
  | tried _ clears enacts _ _ =>
      rw [find?_enacts distinct enacts, clears.find?_eq (clearing_avoids distinct)]

theorem status_eq (visit : Visited sequence showOnly position step before fate trace after) :
    after.status step.key = fate.status := by
  cases visit with
  | met _ finishes => exact held_finishing finishes
  | tried _ clears enacts settles _ =>
      rw [status_enacts enacts, (held_clearing clears).2.1]
      exact settles

theorem met_of_completes
    (visit : Visited sequence true position step before fate trace after)
    (completes : fate.completes = true) : fate = .met := by
  cases visit with
  | met => rfl
  | tried _ _ _ _ shown =>
      obtain ⟨phase, member, done⟩ := List.any_eq_true.1 completes
      have uncommitted := shown rfl phase member
      rcases phase with _ | ⟨_ | _, _⟩ | _ | _ | _ <;> simp_all [Phase.done, Phase.commits]

end Visited

namespace Toured

theorem length_eq (toured : Toured sequence showOnly position steps fates before trace after) :
    fates.length = steps.length := by
  induction toured with
  | done => rfl
  | next _ _ ih => simp [ih]

theorem find?_eq (toured : Toured sequence showOnly position steps fates before trace after)
    (apart : key ≠ sequence) (others : key ∉ steps.map Step.key) :
    after.store.find? key = before.store.find? key := by
  induction toured with
  | done => rfl
  | next visit _ ih =>
      rw [List.map_cons, List.mem_cons, not_or] at others
      rw [ih others.2, visit.find?_eq (Ne.symm others.1)]
      exact Store.find?_put_other _ _ apart

theorem status_eq (toured : Toured sequence showOnly position steps fates before trace after)
    (distinct : (steps.map Step.key).Nodup) (apart : sequence ∉ steps.map Step.key) :
    ∀ pair ∈ steps.zip fates, after.status pair.1.key = pair.2.status := by
  induction toured with
  | done => simp
  | @next _ step rest fate fates _ middle after _ _ visit others ih =>
      rw [List.map_cons, List.nodup_cons] at distinct
      rw [List.map_cons, List.mem_cons, not_or] at apart
      have here : after.status step.key = fate.status := by
        rw [Records.status_of_find? (others.find?_eq (Ne.symm apart.1) distinct.1), visit.status_eq]
      rw [List.zip_cons_cons]
      exact List.forall_mem_cons.2 ⟨here, ih distinct.2 apart.2⟩

theorem index_eq (toured : Toured sequence showOnly position steps fates before trace after)
    (apart : sequence ∉ steps.map Step.key) (filled : steps ≠ []) :
    (after.store.get sequence).index = some ((position + steps.length - 1 : Nat) : Int) := by
  induction toured with
  | done => exact absurd rfl filled
  | @next position step rest _ _ before middle _ _ _ visit others ih =>
      rw [List.map_cons, List.mem_cons, not_or] at apart
      cases rest with
      | nil =>
          cases others with
          | done =>
              rw [Records.get_of_find? (visit.find?_eq (Ne.symm apart.1))]
              have reached : ((before.reach sequence position).store.get sequence).index =
                  some (position : Int) := by
                unfold Records.reach Store.setIndex
                rw [Store.get_put_same]
              simpa using reached
      | cons other rest =>
          rw [ih apart.2 (by simp)]
          simp only [List.length_cons, Option.some.injEq]
          omega

theorem met_of_completes
    (toured : Toured sequence true position steps fates before trace after) :
    ∀ fate ∈ fates, fate.completes = true → fate = .met := by
  induction toured with
  | done => simp
  | next visit _ ih => exact List.forall_mem_cons.2 ⟨visit.met_of_completes, ih⟩

end Toured

/-! The run of a sequence. -/

def Found (step : Step) (steps : List Step) (records : Records) (trace : List Turn) : Prop :=
  ∃ inside first contained found, trace = first ++ (contained ++ found) ∧
    (container step.target).Held records contained records (.ok inside) ∧
    (children inside step.target).Held records found records (.ok steps)

theorem toured_of_held
    (held : (if showOnly then showAll sequence position steps
      else doAll sequence position steps).Held before trace after (.ok ())) :
    ∃ fates, Toured sequence showOnly position steps fates before trace after := by
  cases showOnly with
  | true =>
      rw [if_pos rfl, showAll_eq_touring] at held
      exact toured_of_touring (fun step _ most => tries_showAttempts step most 0) held
  | false =>
      rw [if_neg Bool.false_ne_true, doAll_eq_touring] at held
      exact toured_of_touring (fun step isLast most => tries_doAttempts step isLast most 0) held

theorem toured_of_tour (held : (tour step showOnly).Held before trace after (.ok ())) :
    ∃ steps fates looks visits, trace = looks ++ visits ∧ steps ≠ [] ∧
      Found step steps before looks ∧
      Toured step.key showOnly 0 steps fates before visits after := by
  obtain ⟨inside, first, start, _, contained, tail, rfl⟩ := held_bind_ok.1 held
  obtain rfl := contained.looked (container_looks _)
  obtain ⟨steps, found, start, visits, finds, body, rfl⟩ := held_bind_ok.1 tail
  obtain rfl := finds.looked (children_looks _ _)
  obtain ⟨fates, toured⟩ := toured_of_held body
  exact ⟨steps, fates, first ++ found, visits, by simp, (held_children_ok finds).1,
    ⟨inside, [], first, found, rfl, contained, finds⟩, toured⟩

theorem Found.prepend (found : Found step steps before trace) (opening : List Turn) :
    Found step steps before (opening ++ trace) := by
  obtain ⟨inside, first, contained, last, rfl, within, finds⟩ := found
  exact ⟨inside, opening ++ first, contained, last, by rw [List.append_assoc], within, finds⟩

/-- The entries after a sequence that was run to its end, seen from those before it. -/
structure Settled (step : Step) (steps : List Step) (fates : List Fate) (before after : Records) :
    Prop where
  own : after.store.get step.key = ⟨.completed, some ((steps.length - 1 : Nat) : Int), none⟩
  each : ∀ pair ∈ steps.zip fates, after.status pair.1.key = pair.2.status
  others : ∀ key, key ≠ step.key → key ∉ steps.map Step.key →
    after.store.find? key = before.store.find? key

theorem get_of_completed {state : StepState} {index : Int}
    (moves : before.Moves ⟨key, .completed, none, none⟩ (.ok state) after)
    (indexed : (before.store.get key).index = some index) :
    after.store.get key = ⟨.completed, some index, none⟩ := by
  rcases moves.cases with ⟨may, -⟩ | ⟨-, ⟨_, refused, -⟩, -⟩
  · obtain ⟨-, rfl⟩ := moves.of_mayBecome may
    rw [Records.write_get]
    simp [Store.moved, indexed]
  · cases refused

theorem settled_of_toured {opening visits : List Turn} {begun toured : Records}
    {state : StepState} (begins : (begin step.key).Held before opening begun (.ok ()))
    (tour : Toured step.key showOnly 0 steps fates begun visits toured) (filled : steps ≠ [])
    (moves : toured.Moves ⟨step.key, .completed, none, none⟩ (.ok state) after)
    (distinct : (steps.map Step.key).Nodup) (apart : step.key ∉ steps.map Step.key) :
    Settled step steps fates before after where
  own := by
    have indexed := tour.index_eq apart filled
    rw [Nat.zero_add] at indexed
    exact get_of_completed moves indexed
  each := by
    intro pair member
    -- the last move is one of the sequence, whose key none of its steps has
    have other : step.key ≠ pair.1.key := by
      intro same
      apply apart
      rw [same]
      exact List.mem_map_of_mem (List.of_mem_zip member).1
    rw [Records.status_of_find? (moves.find?_eq other)]
    exact tour.status_eq distinct apart pair member
  others := by
    intro key other missing
    rw [moves.find?_eq (Ne.symm other), tour.find?_eq other missing,
      begins.find?_eq (begin_avoids (Ne.symm other))]

theorem settled_of_enclosed (held : (enclosed step showOnly).Held before trace after (.ok ())) :
    ∃ steps fates opening visits closing begun toured, trace = opening ++ (visits ++ closing) ∧
      Found step steps begun opening ∧
      Toured step.key showOnly 0 steps fates begun visits toured ∧
      ((steps.map Step.key).Nodup → step.key ∉ steps.map Step.key →
        Settled step steps fates before after) := by
  obtain ⟨first, begun, _, walked, state, begins, walks, moves, rfl⟩ := held_enclosed_ok held
  rw [walk_eq_tour] at walks
  obtain ⟨⟨⟩, _, toured, marks, tours, marking, rfl⟩ := held_bind_ok.1 walks
  obtain ⟨_, marked, -⟩ := held_discard.1 marking
  obtain rfl := marked.spared (markCompleted_spares _)
  obtain ⟨steps, fates, looks, visits, rfl, filled, found, tour⟩ := toured_of_tour tours
  exact ⟨steps, fates, first ++ looks, visits,
    marks ++ [⟨.move ⟨step.key, .completed, none, none⟩, .ok state⟩], begun, _, by simp,
    found.prepend first, tour, settled_of_toured begins tour filled moves⟩

theorem enter_store (records : Records) (selector : String) :
    (records.enter selector).store = records.store := by
  unfold Records.enter
  split <;> rfl

/-- A sequence that comes to its end, having not been walked already, is completed, with the
position of its last step as its index. If its steps have keys of their own, each of them is
completed if its objectives were met when it was prepared, or if one of its commitments came to its
end, and idle otherwise; a sequence that is only shown commits nothing. No other entry changes. -/
theorem runSequence_settles {selector : String}
    (held : (runSequence step showOnly).Held before trace after (.ok selector))
    (inactive : before.active.contains step.target = false) :
    ∃ steps fates opening visits closing begun toured, trace = opening ++ (visits ++ closing) ∧
      Found step steps begun opening ∧
      Toured step.key showOnly 0 steps fates begun visits toured ∧ fates.length = steps.length ∧
      (showOnly = true → ∀ fate ∈ fates, fate.completes = true → fate = .met) ∧
      ((steps.map Step.key).Nodup → step.key ∉ steps.map Step.key →
        Settled step steps fates before after) := by
  obtain ⟨_, left, inner, encloses, rfl, same, rfl⟩ := held_runSequence inactive held
  cases inner with
  | error fault => cases same
  | ok value =>
      obtain ⟨steps, fates, opening, visits, closing, begun, toured, rfl, found, tour, settles⟩ :=
        settled_of_enclosed encloses
      refine ⟨steps, fates, [⟨.activeSequences, before.active⟩, ⟨.enterSequence step.target, ()⟩] ++
        opening, visits, closing ++ [⟨.leaveSequence step.target, ()⟩], begun, toured, ?_,
        found.prepend _, tour, tour.length_eq, ?_, ?_⟩
      · simp
      · rintro rfl
        exact tour.met_of_completes
      · intro distinct apart
        -- entering and leaving the container are nothing to the store
        have settled := settles distinct apart
        constructor
        · exact settled.own
        · exact settled.each
        · intro key other missing
          rw [← enter_store before step.target]
          exact settled.others key other missing

def crossroads : Scene where
  page
    | .query selector _ =>
        .ok (if selector = detours.target then [0]
          else if selector = childSelector then [1] else [0, 1])
    | .attributes element =>
        .ok (if element = 0 then [("data-requirements", ""), ("data-section-id", "detours")]
          else signpost)
    | call => roadside.page call
  tuning := Scene.unhurried 3

theorem crossroads_ends :
    (crossroads.outcome (runSequence detours false) ⟨[], []⟩).1 = .ok detours.target := by
  simp only [runSequence, walk, container, Selector.resolve]
  rfl

theorem crossroads_children (inside : Element) (records : Records) :
    ∃ steps, crossroads.outcome (children inside detours.target) records = (.ok steps, records) ∧
      steps.map Step.key = [detour.key] :=
  ⟨_, rfl, rfl⟩

theorem crossroads_settles :
    ∃ trace after steps fates,
      (runSequence detours false).Held ⟨[], []⟩ trace after (.ok detours.target) ∧
      (⟨[], []⟩ : Records).active.contains detours.target = false ∧
      steps.map Step.key = [detour.key] ∧ Settled detours steps fates ⟨[], []⟩ after := by
  obtain ⟨trace, held, known⟩ := crossroads.held (runSequence detours false) ⟨[], []⟩
  rw [crossroads_ends] at held
  obtain ⟨steps, fates, opening, _, _, _, _, rfl, ⟨inside, first, contained, found, rfl, -, finds⟩,
    -, -, -, settles⟩ := runSequence_settles held rfl
  have gave : ∀ turn ∈ found, crossroads.Gave turn := by
    intro turn member
    exact known turn (by simp [member])
  obtain ⟨read, outcome, keys⟩ := crossroads_children inside _
  -- the steps that were found are those of the scene, so their keys are known
  have same := outcome.symm.trans (Scene.outcome_of_held finds gave)
  cases same
  refine ⟨_, _, steps, fates, held, rfl, keys, settles ?_ ?_⟩
  · rw [keys]
    simp
  · rw [keys]
    decide

end Guide

end Walkthrough
