import Walkthrough.Proofs.Publishing
import Walkthrough.Proofs.Reports
import Walkthrough.Proofs.Tours
/-!
How far a multi-step gets. It takes its inner actions in order, each shown and then done, up to the
first one that something stands against or that fails; it halts there, and the state of the step
and the outcome tell of that action. Pausing between two actions, settling the page after the last
one and reading the time limit of a check are not guarded like this: if one of them fails, the run
is broken off.
-/

namespace Walkthrough.Guide

open Run

variable {key : String} {step : Step} {inner : InnerAction} {actions : List InnerAction}
variable {wait : Amount} {position : Nat} {before after : Records} {trace : List Turn}

/-- Why a multi-step halts at an inner action. -/
inductive Halt where
  | timedOut
  | unmet (assessment : Assessment)
  | unshown (fault : Fault)
  | unrested (fault : Fault)
  | undone (fault : Fault)

namespace Halt

def modes : Halt → List Mode
  | timedOut | unmet _ => []
  | unshown _ | unrested _ => [.preview]
  | undone _ => [.preview, .commit]

def message (position : Nat) : Halt → String
  | timedOut => s!"Step {position + 1} requirements check failed: Requirements check timeout"
  | unmet assessment => s!"Step {position + 1} requirements not met: {assessment.explanation}"
  | unshown fault | unrested fault | undone fault => s!"Step {position + 1} failed: {fault.words}"

end Halt

inductive Ending where
  | done
  | halted (halt : Halt)
  | broken (fault : Fault)

namespace Ending

def modes : Ending → List Mode
  | done => [.preview, .commit]
  | halted halt => halt.modes
  | broken _ => []

def result (key : String) (position : Nat) : Ending → Except Fault (Option Outcome)
  | done => .ok none
  | halted halt =>
      .ok (some ⟨key, .error, false, some (halt.message position), none,
        [("failed_index", .ofNat position)]⟩)
  | broken fault => .error fault

def Leaves (key : String) (position : Nat) (after : Records) : Ending → Prop
  | done | broken _ => after.status key = .running
  | halted halt =>
      after.store.get key = ⟨.error, some position, some (halt.message position)⟩

end Ending

def restShown : Run Unit := do
  Run.pause (← Run.settings).multistepShowDelay

/-- One inner action: what stands against it is looked at, it is shown, and it is done. -/
inductive Leg (inner : InnerAction) (position : Nat) (records : Records) :
    List Turn → Ending → Prop where
  | timedOut {looking}
      (stands : (obstacle inner position).Held records looking records
        (.ok (some (Halt.timedOut.message position)))) :
      Leg inner position records looking (.halted .timedOut)
  | unmet {looking assessment}
      (stands : (obstacle inner position).Held records looking records
        (.ok (some ((Halt.unmet assessment).message position))))
      (failed : assessment.passed = false) :
      Leg inner position records looking (.halted (.unmet assessment))
  | unchecked {looking fault}
      (fails : (obstacle inner position).Held records looking records (.error fault)) :
      Leg inner position records looking (.broken fault)
  | unshown {looking showing fault}
      (clear : (obstacle inner position).Held records looking records (.ok none))
      (shows : (innerCommand inner .preview).perform.Held records showing records (.error fault)) :
      Leg inner position records (looking ++ showing) (.halted (.unshown fault))
  | unrested {looking showing resting performance fault}
      (clear : (obstacle inner position).Held records looking records (.ok none))
      (shows : (innerCommand inner .preview).perform.Held records showing records
        (.ok performance))
      (rests : restShown.Held records resting records (.error fault)) :
      Leg inner position records (looking ++ (showing ++ resting)) (.halted (.unrested fault))
  | undone {looking showing resting doing performance fault}
      (clear : (obstacle inner position).Held records looking records (.ok none))
      (shows : (innerCommand inner .preview).perform.Held records showing records
        (.ok performance))
      (rests : restShown.Held records resting records (.ok ()))
      (does : (innerCommand inner .commit).perform.Held records doing records (.error fault)) :
      Leg inner position records (looking ++ (showing ++ (resting ++ doing)))
        (.halted (.undone fault))
  | done {looking showing resting doing performance other}
      (clear : (obstacle inner position).Held records looking records (.ok none))
      (shows : (innerCommand inner .preview).perform.Held records showing records
        (.ok performance))
      (rests : restShown.Held records resting records (.ok ()))
      (does : (innerCommand inner .commit).perform.Held records doing records (.ok other)) :
      Leg inner position records (looking ++ (showing ++ (resting ++ doing))) .done

def breather (wait : Amount) (rest : List InnerAction) : Run Unit :=
  if rest.isEmpty then pure () else Run.pause wait

/-- The legs of a multi-step from a position on, the index written down before each of them; with
the position of the first action that was not done, and how the way ends there. -/
inductive Itinerary (key : String) (wait : Amount) :
    Nat → List InnerAction → Records → List Turn → Records → Nat → Ending → Prop where
  | arrived {position records} :
      Itinerary key wait position [] records [] records position .done
  | stopped {position inner rest before leg halt state}
      (first : Leg inner position (before.reach key position) leg (.halted halt))
      (failed : state = ⟨.error, some position, some (halt.message position)⟩) :
      Itinerary key wait position (inner :: rest) before
        (⟨.setIndex key position, ()⟩ :: (leg ++
          [⟨.move ⟨key, .error, some (halt.message position), some position⟩, .ok state⟩]))
        ((before.reach key position).write key state) position (.halted halt)
  | unchecked {position inner rest before leg fault}
      (first : Leg inner position (before.reach key position) leg (.broken fault)) :
      Itinerary key wait position (inner :: rest) before
        (⟨.setIndex key position, ()⟩ :: leg) (before.reach key position) position (.broken fault)
  | delayed {position inner rest before leg resting fault}
      (first : Leg inner position (before.reach key position) leg .done)
      (rests : (breather wait rest).Held (before.reach key position) resting
        (before.reach key position) (.error fault)) :
      Itinerary key wait position (inner :: rest) before
        (⟨.setIndex key position, ()⟩ :: (leg ++ resting)) (before.reach key position)
        (position + 1) (.broken fault)
  | passed {position inner rest before leg resting way after reached ending}
      (first : Leg inner position (before.reach key position) leg .done)
      (rests : (breather wait rest).Held (before.reach key position) resting
        (before.reach key position) (.ok ()))
      (others : Itinerary key wait (position + 1) rest (before.reach key position) way after
        reached ending) :
      Itinerary key wait position (inner :: rest) before
        (⟨.setIndex key position, ()⟩ :: (leg ++ (resting ++ way))) after reached ending

/-! A run of the inner actions takes such a way. -/

theorem held_obstacle_some {message : String}
    (held : (obstacle inner position).Held before trace after (.ok (some message))) :
    message = Halt.timedOut.message position ∨
      ∃ assessment : Assessment, assessment.passed = false ∧
        message = (Halt.unmet assessment).message position := by
  unfold obstacle at held
  split at held
  · obtain ⟨-, -, same⟩ := held_pure.1 held
    cases same
  · obtain ⟨-, -, same⟩ := held_pure.1 held
    cases same
  · obtain ⟨tuning, rest, tail, -⟩ := held_settings_bind.1 held
    obtain ⟨found, _, _, _, -, ended, -⟩ := held_bind_ok.1 tail
    cases found with
    | none =>
        obtain ⟨-, -, same⟩ := held_pure.1 ended
        cases same
        exact .inl rfl
    | some assessment =>
        dsimp only at ended
        split at ended
        · obtain ⟨-, -, same⟩ := held_pure.1 ended
          cases same
        · next failed =>
            obtain ⟨-, -, same⟩ := held_pure.1 ended
            cases same
            exact .inr ⟨assessment, by simpa using failed, rfl⟩

theorem restShown_passes : restShown.Asks (·.passes) :=
  asks_bind (passes_of_looks settings_looks) fun _ => pause_passes _

theorem showThenDoInner_eq (inner : InnerAction) :
    showThenDoInner inner =
      (discard (innerCommand inner .preview).perform >>= fun _ => restShown >>= fun _ =>
        discard (innerCommand inner .commit).perform) := by
  unfold showThenDoInner restShown
  simp only [bind_assoc]

theorem held_discarded {α : Type} {run : Run α} {result : Except Fault Unit}
    (held : (discard run).Held before trace after result) :
    (∃ value, run.Held before trace after (.ok value) ∧ result = .ok ()) ∨
      ∃ fault, run.Held before trace after (.error fault) ∧ result = .error fault := by
  obtain ⟨inner, runs, rfl⟩ := held_discard.1 held
  cases inner with
  | ok value => exact .inl ⟨value, runs, rfl⟩
  | error fault => exact .inr ⟨fault, runs, rfl⟩

theorem leg_of_acted {looking acting : List Turn} {result : Except Fault Unit}
    (clear : (obstacle inner position).Held before looking before (.ok none))
    (held : (showThenDoInner inner).Held before acting after result) :
    after = before ∧
      ((result = .ok () ∧ Leg inner position before (looking ++ acting) .done) ∨
        ∃ fault halt, result = .error fault ∧
          halt.message position = s!"Step {position + 1} failed: {fault.words}" ∧
          Leg inner position before (looking ++ acting) (.halted halt)) := by
  have same := held.spared (asks_spares (showThenDoInner_passes inner))
  refine ⟨same, ?_⟩
  subst same
  rw [showThenDoInner_eq] at held
  rcases held_bind.1 held with ⟨⟨⟩, showing, shown, _, shows, tail, rfl⟩ | ⟨fault, failed, rfl⟩
  · rcases held_discarded shows with ⟨performance, shows, -⟩ | ⟨_, -, same⟩
    · obtain rfl := shows.spared (perform_spares _)
      rcases held_bind.1 tail with ⟨⟨⟩, resting, rested, doing, rests, last, rfl⟩ | ⟨fault, failed, rfl⟩
      · obtain rfl := rests.spared (asks_spares restShown_passes)
        rcases held_discarded last with ⟨other, does, rfl⟩ | ⟨fault, does, rfl⟩
        · exact .inl ⟨rfl, .done clear shows rests does⟩
        · exact .inr ⟨fault, .undone fault, rfl, rfl, .undone clear shows rests does⟩
      · exact .inr ⟨fault, .unrested fault, rfl, rfl, .unrested clear shows failed⟩
    · cases same
  · rcases held_discarded failed with ⟨_, -, same⟩ | ⟨_, shows, same⟩
    · cases same
    · cases same
      exact .inr ⟨fault, .unshown fault, rfl, rfl, .unshown clear shows⟩

theorem held_failAt_running {message : String} {result : Except Fault (Option Outcome)}
    (running : before.status key = .running)
    (held : (failAt key position message >>= fun outcome => pure (some outcome)).Held
      before trace after result) :
    ∃ state : StepState, state = ⟨.error, some position, some message⟩ ∧
      trace = [⟨.move ⟨key, .error, some message, some position⟩, .ok state⟩] ∧
      after = before.write key state ∧
      result = .ok (some ⟨key, .error, false, some message, none,
        [("failed_index", .ofNat position)]⟩) := by
  rcases held_bind.1 held with ⟨outcome, _, _, _, fails, ended, rfl⟩ | ⟨fault, fails, -⟩
  · obtain ⟨rfl, rfl, rfl⟩ := held_pure.1 ended
    obtain ⟨rfl, rfl, same⟩ := written_of_last_move running (by rfl) fails
    cases same
    exact ⟨_, rfl, rfl, rfl, rfl⟩
  · obtain ⟨-, -, same⟩ := written_of_last_move running (by rfl) fails
    cases same

theorem held_breather {next : Run (Option Outcome)} {rest : List InnerAction}
    {result : Except Fault (Option Outcome)}
    (held : (if !rest.isEmpty then Run.pause wait >>= fun _ => next else next).Held
      before trace after result) :
    (∃ resting way, (breather wait rest).Held before resting before (.ok ()) ∧
      next.Held before way after result ∧ trace = resting ++ way) ∨
    ∃ fault, (breather wait rest).Held before trace before (.error fault) ∧ after = before ∧
      result = .error fault := by
  have same : (if !rest.isEmpty then Run.pause wait >>= fun _ => next else next) =
      breather wait rest >>= fun _ => next := by
    unfold breather
    cases rest.isEmpty <;> rfl
  have passes : (breather wait rest).Asks (·.passes) := by
    unfold breather
    split
    · exact asks_pure _
    · exact pause_passes wait
  rw [same] at held
  rcases held_bind.1 held with ⟨⟨⟩, resting, _, way, rests, tail, rfl⟩ | ⟨fault, failed, rfl⟩
  · obtain rfl := rests.spared (asks_spares passes)
    exact .inl ⟨resting, way, rests, tail, rfl⟩
  · obtain rfl := failed.spared (asks_spares passes)
    exact .inr ⟨fault, failed, rfl, rfl⟩

/-- By induction on the inner actions, before each of which the step is running. -/
theorem itinerary_of_runInner {result : Except Fault (Option Outcome)}
    (running : before.status key = .running)
    (held : (runInner key wait position actions).Held before trace after result) :
    ∃ reached ending, Itinerary key wait position actions before trace after reached ending ∧
      result = ending.result key reached := by
  induction actions generalizing before trace position with
  | nil =>
      obtain ⟨rfl, rfl, rfl⟩ := held_pure.1 held
      exact ⟨position, .done, .arrived, rfl⟩
  | cons inner rest ih =>
      obtain ⟨_, indexed, _, answered, body, rfl⟩ := held_ask_bind.1 held
      obtain rfl : indexed = before.reach key position := answered
      have running : (before.reach key position).status key = .running := by
        rw [← running]
        exact Records.setIndex_status before key key position
      have looks := asks_spares (passes_of_looks (obstacle_looks inner position))
      rcases held_bind.1 body with ⟨found, looking, _, _, looked, next, rfl⟩ | ⟨fault, failed, rfl⟩
      · obtain rfl := looked.spared looks
        cases found with
        | some message =>
            -- Something stands against the action, and nothing of it is tried.
            obtain ⟨state, failed, rfl, rfl, rfl⟩ := held_failAt_running running next
            rcases held_obstacle_some looked with rfl | ⟨assessment, unmet, rfl⟩
            · exact ⟨position, _, .stopped (.timedOut looked) failed, rfl⟩
            · exact ⟨position, _, .stopped (.unmet looked unmet) failed, rfl⟩
        | none =>
            obtain ⟨acted, acting, _, _, acts, last, rfl⟩ := held_outcome_bind.1 next
            obtain ⟨rfl, ⟨rfl, leg⟩ | ⟨fault, halt, rfl, words, leg⟩⟩ := leg_of_acted looked acts
            · rcases held_breather last with ⟨resting, way, rests, others, rfl⟩ | ⟨fault, rests, rfl, rfl⟩
              · obtain ⟨reached, ending, others, same⟩ := ih running others
                rw [← List.append_assoc]
                exact ⟨reached, ending, .passed leg rests others, same⟩
              · -- The action is done, but the pause after it is not guarded.
                rw [← List.append_assoc]
                exact ⟨position + 1, .broken fault, .delayed leg rests, rfl⟩
            · obtain ⟨state, failed, rfl, rfl, rfl⟩ := held_failAt_running running last
              rw [← words] at failed ⊢
              rw [← List.append_assoc]
              exact ⟨position, .halted halt, .stopped leg failed, rfl⟩
      · obtain rfl := failed.spared looks
        exact ⟨position, .broken fault, .unchecked (.unchecked failed), rfl⟩

/-! What such a way amounts to. -/

def tries (modes : List Mode) (inner : InnerAction) : List Command :=
  modes.map (innerCommand inner)

@[simp] theorem tries_nil (inner : InnerAction) : tries [] inner = [] := rfl

theorem flatMap_tries_nil (actions : List InnerAction) : actions.flatMap (tries []) = [] := by
  rw [List.flatMap_eq_nil_iff]
  exact fun inner _ => tries_nil inner

theorem commands_setIndex (key : String) (index : Int) (trace : List Turn) :
    commands (⟨.setIndex key index, ()⟩ :: trace) = commands trace := rfl

theorem commands_move (move : Move) (reply : Except GuideError StepState) :
    commands [⟨.move move, reply⟩] = [] := rfl

theorem commands_leg {leg : List Turn} {records : Records} {ending : Ending}
    (first : Leg inner position records leg ending) :
    commands leg = tries ending.modes inner := by
  have looks {looking : List Turn} {found : Except Fault (Option String)}
      (held : (obstacle inner position).Held records looking records found) :
      commands looking = [] :=
    commands_of_mute held (asks_mono (obstacle_looks inner position) Request.mute_of_looks)
  have rests {resting : List Turn} {result : Except Fault Unit}
      (held : restShown.Held records resting records result) : commands resting = [] :=
    commands_of_mute held
      (asks_bind (asks_ask rfl) fun _ => pause_mute _)
  cases first with
  | timedOut stands => exact looks stands
  | unmet stands => exact looks stands
  | unchecked fails => exact looks fails
  | unshown clear shows =>
      rw [commands_append, looks clear, commands_perform shows]
      rfl
  | unrested clear shows rested =>
      rw [commands_append, commands_append, looks clear, commands_perform shows, rests rested]
      rfl
  | undone clear shows rested does | done clear shows rested does =>
      rw [commands_append, commands_append, commands_append, looks clear, commands_perform shows,
        rests rested, commands_perform does]
      rfl

theorem commands_breather {rest : List InnerAction} {result : Except Fault Unit}
    (held : (breather wait rest).Held before trace after result) : commands trace = [] := by
  refine commands_of_mute held ?_
  unfold breather
  split
  · exact asks_pure _
  · exact pause_mute wait

theorem breaks_breather (rest : List InnerAction) : Breaks (breather wait rest) := by
  unfold breather
  split
  · exact breaks_of_returns (returns_pure _)
  · exact breaks_pause wait

namespace Itinerary

variable {reached : Nat} {ending : Ending}

theorem commands_eq
    (way : Itinerary key wait position actions before trace after reached ending) :
    ∃ passed, reached = position + passed ∧ passed ≤ actions.length ∧
      commands trace = (actions.take passed).flatMap (tries [.preview, .commit]) ++
        (actions[passed]?).toList.flatMap (tries ending.modes) := by
  induction way with
  | arrived => exact ⟨0, rfl, Nat.le_refl _, rfl⟩
  | stopped first failed =>
      refine ⟨0, rfl, Nat.zero_le _, ?_⟩
      rw [commands_setIndex, commands_append, commands_leg first, commands_move]
      simp [Ending.modes]
  | unchecked first =>
      refine ⟨0, rfl, Nat.zero_le _, ?_⟩
      rw [commands_setIndex, commands_leg first]
      simp [Ending.modes]
  | delayed first rests =>
      refine ⟨1, rfl, by simp, ?_⟩
      rw [commands_setIndex, commands_append, commands_leg first, commands_breather rests]
      simp [Ending.modes, flatMap_tries_nil]
  | passed first rests others ih =>
      obtain ⟨passed, rfl, within, announced⟩ := ih
      refine ⟨passed + 1, by omega, by simpa using within, ?_⟩
      rw [commands_setIndex, commands_append, commands_append, commands_leg first,
        commands_breather rests, announced]
      simp [Ending.modes]

theorem state_eq
    (way : Itinerary key wait position actions before trace after reached ending)
    (running : before.status key = .running) :
    ending.Leaves key reached after := by
  have reaches {records : Records} {position : Nat} (running : records.status key = .running) :
      (records.reach key position).status key = .running := by
    rw [← running]
    exact Records.setIndex_status records key key position
  induction way with
  | arrived => exact running
  | stopped first failed =>
      rw [failed]
      exact Records.write_get _ _ _
  | unchecked | delayed => exact reaches running
  | passed first rests others ih => exact ih (reaches running)

theorem lt_of_halted {halt : Halt}
    (way : Itinerary key wait position actions before trace after reached (.halted halt)) :
    reached < position + actions.length := by
  generalize stands : Ending.halted halt = ending at way
  induction way with
  | arrived => cases stands
  | stopped => simp
  | unchecked | delayed => cases stands
  | passed _ _ _ ih =>
      have := ih stands
      simp only [List.length_cons]
      omega

theorem eq_of_done
    (way : Itinerary key wait position actions before trace after reached .done) :
    reached = position + actions.length := by
  generalize stands : Ending.done = ending at way
  induction way with
  | arrived => rfl
  | stopped | unchecked | delayed => cases stands
  | passed _ _ _ ih =>
      have := ih stands
      simp only [List.length_cons]
      omega

theorem brokenOff {fault : Fault}
    (way : Itinerary key wait position actions before trace after reached (.broken fault)) :
    BrokenOff trace fault := by
  generalize broken : Ending.broken fault = ending at way
  induction way with
  | arrived | stopped => cases broken
  | unchecked first =>
      cases broken
      cases first with
      | unchecked fails => exact (breaks_obstacle _ _ fails).prepend [_]
  | delayed first rests =>
      cases broken
      exact ((breaks_breather _ rests).prepend _).prepend [_]
  | passed _ _ _ ih => exact (((ih broken).prepend _).prepend _).prepend [_]

end Itinerary

/-! The whole run. -/

def departing (key : String) (delay : Option Nat) : Run Amount := do
  let wait ← delayOf delay
  begin key
  return wait

def Travels (key : String) (actions : List InnerAction) (delay : Option Nat) (before : Records)
    (trace : List Turn) (reached : Nat) (ending : Ending) : Prop :=
  ∃ wait begun starting way arrived closing, trace = starting ++ (way ++ closing) ∧
    (departing key delay).Held before starting begun (.ok wait) ∧
    Itinerary key wait 0 actions begun way arrived reached ending ∧ commands closing = []

def Ending.Concludes (key : String) (actions : List InnerAction) (assessment : Assessment)
    (reached : Nat) (trace : List Turn) (after : Records) (result : Except Fault Outcome) :
    Ending → Prop
  | done => reached = actions.length ∧
      (result = .ok ⟨key, .completed, true, none, some assessment, []⟩ ∧
          after.store.get key = ⟨.completed, some (actions.length - 1 : Nat), none⟩ ∨
        ∃ fault, result = .error fault ∧ after.status key = .running ∧
          ∃ earlier, trace = earlier ++ [⟨.page .settle, .error fault⟩])
  | halted halt => reached < actions.length ∧
      result = .ok ⟨key, .error, false, some (halt.message reached), none,
        [("failed_index", .ofNat reached)]⟩ ∧
      after.store.get key = ⟨.error, some reached, some (halt.message reached)⟩
  | broken fault => result = .error fault ∧ after.status key = .running ∧ BrokenOff trace fault

theorem departing_quietly (key : String) (delay : Option Nat) :
    (departing key delay).Asks (·.mute) := by
  refine asks_bind (asks_mono (delayOf_looks delay) Request.mute_of_looks) fun _ => ?_
  exact asks_bind (asks_mono (begin_quietly key) fun _ => mute_of_quietly) fun _ => asks_pure _

theorem held_departing {delay : Option Nat} {next : Amount → Run Outcome}
    {result : Except Fault Outcome} (free : before.status key ≠ .running)
    (held : (delayOf delay >>= fun wait => begin key >>= fun _ => next wait).Held
      before trace after result) :
    ∃ wait begun starting rest, trace = starting ++ rest ∧
      (departing key delay).Held before starting begun (.ok wait) ∧
      begun.status key = .running ∧ (next wait).Held begun rest after result := by
  rcases held_bind.1 held with ⟨wait, looking, _, _, delayed, body, rfl⟩ | ⟨fault, failed, rfl⟩
  · obtain rfl := delayed.looked (delayOf_looks delay)
    rcases held_bind.1 body with ⟨⟨⟩, opening, begun, rest, begins, tail, rfl⟩ | ⟨fault, refused, rfl⟩
    · refine ⟨wait, begun, looking ++ opening, rest, by simp, ?_, (held_begin_ok begins).2.1, tail⟩
      refine held_bind_ok.2 ⟨wait, looking, _, opening, delayed, ?_, rfl⟩
      exact held_bind_ok.2 ⟨(), opening, begun, [], begins, held_pure.2 ⟨rfl, rfl, rfl⟩, by simp⟩
    · rcases held_begin refused with ⟨running, -⟩ | ⟨-, same, -⟩
      · exact absurd running free
      · cases same
  · obtain ⟨value, same⟩ := delayOf_returns delay failed
    cases same

theorem concludes_of_completing {assessment : Assessment} {result : Except Fault Outcome}
    (running : before.status key = .running)
    (held : (completeActions key actions assessment none).Held before trace after result) :
    commands trace = [] ∧
      (result = .ok ⟨key, .completed, true, none, some assessment, []⟩ ∧
          after.store.get key = ⟨.completed, some (actions.length - 1 : Nat), none⟩ ∨
        ∃ fault, result = .error fault ∧ after.status key = .running ∧
          trace = [⟨.page .settle, .error fault⟩]) := by
  rcases held_bind.1 held with ⟨⟨⟩, _, _, _, settles, last, rfl⟩ | ⟨fault, failed, rfl⟩
  · obtain ⟨rfl, rfl⟩ := held_page.1 settles
    obtain ⟨rfl, rfl, rfl⟩ := written_of_last_move running (by rfl) last
    exact ⟨rfl, .inl ⟨rfl, Records.write_get _ _ _⟩⟩
  · obtain ⟨rfl, rfl⟩ := held_page.1 failed
    exact ⟨rfl, .inr ⟨fault, rfl, running, rfl⟩⟩

theorem travels_of_runActions {delay : Option Nat} {assessment : Assessment}
    {result : Except Fault Outcome} (free : before.status key ≠ .running)
    (held : (runActions key actions delay assessment).Held before trace after result) :
    ∃ reached ending, Travels key actions delay before trace reached ending ∧
      ending.Concludes key actions assessment reached trace after result := by
  obtain ⟨wait, begun, starting, rest, rfl, departs, running, body⟩ := held_departing free held
  have body : (runInner key wait 0 actions >>= completeActions key actions assessment).Held
      begun rest after result := body
  rcases held_bind.1 body with ⟨found, way, arrived, closing, inner, tail, rfl⟩ | ⟨fault, failed, rfl⟩
  · obtain ⟨reached, ending, legs, same⟩ := itinerary_of_runInner running inner
    have left := legs.state_eq running
    cases ending with
    | done =>
        cases same
        obtain ⟨silent, ends⟩ := concludes_of_completing left tail
        refine ⟨reached, .done, ⟨wait, begun, starting, way, arrived, closing, rfl, departs, legs,
          silent⟩, by simpa using legs.eq_of_done, ends.imp_right ?_⟩
        rintro ⟨fault, failed, running, rfl⟩
        exact ⟨fault, failed, running, starting ++ way, by simp⟩
    | halted halt =>
        cases same
        obtain ⟨rfl, rfl, rfl⟩ := held_pure.1 tail
        exact ⟨reached, .halted halt, ⟨wait, begun, starting, way, after, [], rfl, departs, legs,
          rfl⟩, by simpa using legs.lt_of_halted, rfl, left⟩
    | broken fault => cases same
  · obtain ⟨reached, ending, legs, same⟩ := itinerary_of_runInner running failed
    have left := legs.state_eq running
    cases ending with
    | done => cases same
    | halted halt => cases same
    | broken other =>
        cases same
        exact ⟨reached, .broken fault, ⟨wait, begun, starting, rest, after, [], by simp, departs,
          legs, rfl⟩, rfl, left, legs.brokenOff.prepend starting⟩

theorem Travels.commands_eq {delay : Option Nat} {reached : Nat} {ending : Ending}
    (travels : Travels key actions delay before trace reached ending) :
    reached ≤ actions.length ∧
      commands trace = (actions.take reached).flatMap (tries [.preview, .commit]) ++
        (actions[reached]?).toList.flatMap (tries ending.modes) := by
  obtain ⟨wait, begun, starting, way, arrived, closing, rfl, departs, legs, silent⟩ := travels
  obtain ⟨passed, rfl, within, announced⟩ := legs.commands_eq
  rw [Nat.zero_add]
  refine ⟨within, ?_⟩
  rw [commands_append, commands_append, commands_of_mute departs (departing_quietly _ _), silent,
    announced, List.append_nil, List.nil_append]

theorem runMultistep_eq {delay : Option Nat} (multiple : step.body = .multiple actions delay) :
    runMultistep step = gated step (assessing step .commit) := by
  obtain ⟨_, _, _, _, _, _, _, _, body⟩ := step
  cases multiple
  rfl

/-- A multi-step that passes its gate runs a prefix of its inner actions, each shown once and then
done once. If these are all of them and the page settles, the step is completed. Otherwise it halts
at the next one, with nothing tried of it or only what failed in the end, and the state of the step
and the outcome tell of that action with one message. Only a run that is broken off fails itself,
and leaves the step running. -/
theorem runMultistep_runs_prefix {delay : Option Nat} {result : Except Fault Outcome}
    (multiple : step.body = .multiple actions delay)
    (held : (runMultistep step).Held before trace after result) :
    ∃ opening rest verdicts required, trace = opening ++ rest ∧
      Inquiry step before false opening verdicts required ∧
      ∀ assessment, required = some assessment → assessment.passed = true →
        ∃ reached ending, reached ≤ actions.length ∧
          Travels step.key actions delay before rest reached ending ∧
          commands trace = (actions.take reached).flatMap (tries [.preview, .commit]) ++
            (actions[reached]?).toList.flatMap (tries ending.modes) ∧
          ending.Concludes step.key actions assessment reached rest after result := by
  rw [runMultistep_eq multiple] at held
  obtain ⟨opening, rest, verdicts, required, inquiry, response, rfl⟩ := answered_of_assessing held
  refine ⟨opening, rest, verdicts, required, rfl, inquiry, ?_⟩
  rintro assessment rfl passed
  have free : before.status step.key ≠ .running := by
    intro running
    have free := inquiry.free_of_required.2
    rw [running] at free
    cases free
  simp only [respond, passed, if_true, admitted, multiple] at response
  obtain ⟨reached, ending, travels, concludes⟩ := travels_of_runActions free response
  obtain ⟨within, announced⟩ := travels.commands_eq
  refine ⟨reached, ending, within, travels, ?_, concludes⟩
  have silent : commands opening = [] :=
    commands_mute fun turn member => mute_of_reads _ (inquiry.reads turn member)
  rw [commands_append, silent, List.nil_append, announced]

theorem Inquiry.open_of_bare {opening : List Turn} {verdicts : List Bool}
    {required : Option Assessment} (aimless : step.objectives = none)
    (bare : step.requirements = none) (free : isBusy (before.status step.key) = false)
    (inquiry : Inquiry step before false opening verdicts required) :
    ∃ assessment, required = some assessment ∧ assessment.passed = true := by
  have unmet : objectivesMet step = pure false := by
    unfold objectivesMet
    rw [aimless]
  cases inquiry with
  | met objectives =>
      rw [unmet] at objectives
      obtain ⟨-, -, same⟩ := held_pure.1 objectives
      cases same
  | busy _ busy =>
      rw [free] at busy
      cases busy
  | assessed _ _ checks =>
      have passed : check step = pure ⟨"", true, []⟩ := by
        unfold check
        rw [bare]
        rfl
      rw [passed] at checks
      obtain ⟨-, -, same⟩ := held_pure.1 checks
      cases same
      exact ⟨_, rfl, rfl⟩

def going : InnerAction :=
  ⟨.navigate, "/", none, none⟩

def tapping : InnerAction :=
  ⟨.button, "Go", none, none⟩

def excursion : Step :=
  { visit with body := .multiple [going, tapping] none }

theorem excursion_halts :
    ∃ (trace : List Turn) (after : Records) (outcome : Outcome) (halt : Halt),
      excursion.body = .multiple [going, tapping] none ∧
      (runMultistep excursion).Held ⟨[], []⟩ trace after (.ok outcome) ∧
      commands trace = tries [.preview, .commit] going ++ tries halt.modes tapping ∧
      after.store.get excursion.key = ⟨.error, some 1, some (halt.message 1)⟩ ∧
      outcome.message = some (halt.message 1) ∧ outcome.details = [("failed_index", .ofNat 1)] := by
  obtain ⟨trace, held, -⟩ := roadside.held (runMultistep excursion) ⟨[], []⟩
  obtain ⟨outcome, result, failed, details⟩ :
      ∃ outcome, (roadside.outcome (runMultistep excursion) ⟨[], []⟩).1 = .ok outcome ∧
        outcome.status = .error ∧ outcome.details = [("failed_index", .ofNat 1)] :=
    ⟨_, rfl, rfl, rfl⟩
  rw [result] at held
  obtain ⟨_, _, _, required, -, inquiry, runs⟩ := runMultistep_runs_prefix rfl held
  obtain ⟨assessment, rfl, passed⟩ := inquiry.open_of_bare rfl rfl rfl
  obtain ⟨reached, ending, -, -, announced, concludes⟩ := runs assessment rfl passed
  cases ending with
  | done =>
      obtain ⟨-, ⟨same, -⟩ | ⟨fault, same, -⟩⟩ := concludes
      · cases same
        cases failed
      · cases same
  | halted halt =>
      obtain ⟨-, same, state⟩ := concludes
      cases same
      have here : reached = 1 := by
        simp only [Json.ofNat, List.cons.injEq, Prod.mk.injEq, Json.int.injEq] at details
        omega
      subst here
      exact ⟨trace, _, _, halt, rfl, held, by simpa [Ending.modes] using announced, state, rfl, rfl⟩
  | broken fault => cases concludes.1

end Walkthrough.Guide
