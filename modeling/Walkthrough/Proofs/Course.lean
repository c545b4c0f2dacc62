import Walkthrough.Proofs.Upkeep
/-!
The courses that a run of a step can take. It is refused while the step is running; else the step
is set running, and its action fails, or what follows the action fails, or the run comes to its
end. Whatever the course is, the step is not left running, and no other step is touched.
-/

namespace Walkthrough

/-- An accepted move, with its turn. -/
structure Records.Accepts (before : Records) (move : Move) (turn : Turn) (after : Records) :
    Prop where
  turn_eq : ∃ state, turn = ⟨.move move, .ok state⟩
  status_eq : after.status move.step = move.status
  sameBut : SameBut move.step before after

theorem Records.Moves.accepts {before after : Records} {move : Move}
    {reply : Except GuideError StepState} (moves : before.Moves move reply after)
    (may : (before.status move.step).mayBecome move.status = true) :
    before.Accepts move ⟨.move move, reply⟩ after := by
  obtain ⟨rfl, rfl⟩ := moves.of_mayBecome may
  exact ⟨⟨_, rfl⟩, write_status _ _ _, write_sameBut _ _ _⟩

namespace Guide

open Run

variable {key : String} {before after : Records} {trace : List Turn}

/-! Setting a step running. -/

def quietly (asked : Request) : Prop :=
  (asked.idles = true ∧ asked.mute = true) ∨ ∃ move, asked = .move move ∧ move.status ≠ .completed

theorem mute_of_quietly {asked : Request} (quiet : quietly asked) : asked.mute = true := by
  rcases quiet with ⟨-, mute⟩ | ⟨move, rfl, -⟩
  · exact mute
  · rfl

theorem quietly_look : quietly .states :=
  .inl ⟨rfl, rfl⟩

theorem reset_quietly (key : String) : (Run.reset key).Asks quietly :=
  asks_reset quietly_look (.inr ⟨_, rfl, Status.noConfusion⟩)

theorem begin_quietly (key : String) : (begin key).Asks quietly :=
  asks_begin quietly_look (.inr ⟨_, rfl, Status.noConfusion⟩) (.inr ⟨_, rfl, Status.noConfusion⟩)

theorem held_begin {result : Except Fault Unit}
    (held : (begin key).Held before trace after result) :
    (before.status key = .running ∧ after = before ∧
      ∃ error, error.isConsistency = false ∧ result = .error (.guide error)) ∨
    (before.status key ≠ .running ∧ result = .ok () ∧ after.status key = .running ∧
      Records.SameBut key before after) := by
  -- a step is set running from idle, at once or after a reset
  have running {before : Records} {trace : List Turn}
      (idle : before.status key = .idle)
      (held : (Run.moveTo key .running).Held before trace after result) :
      result = .ok () ∧ after.status key = .running ∧ Records.SameBut key before after := by
    obtain ⟨reply, moves, rfl, rfl⟩ := held_moveTo.1 held
    obtain ⟨⟨state, same⟩, status, others⟩ := moves.accepts (by rw [idle]; rfl)
    cases same
    exact ⟨rfl, status, others⟩
  obtain ⟨rest, tail, rfl⟩ := held_status_bind.1 held
  dsimp only at tail
  split at tail
  · next closed =>
      have done : before.status key = .completed ∨ before.status key = .error := by
        simpa using closed
      rcases held_bind.1 tail with ⟨_, opening, middle, last, head, next, rfl⟩ | ⟨fault, failed, -⟩
      · obtain ⟨inner, reset, -⟩ := held_discard.1 head
        obtain ⟨-, idle, others, -⟩ := held_reset reset
        obtain ⟨rfl, status, same⟩ := running idle next
        refine .inr ⟨?_, rfl, status, others.trans same⟩
        rcases done with done | done <;> rw [done] <;> exact Status.noConfusion
      · obtain ⟨inner, reset, same⟩ := held_discard.1 failed
        obtain ⟨⟨state, rfl⟩, -⟩ := held_reset reset
        cases same
  · next live =>
      have live : before.status key ≠ .completed ∧ before.status key ≠ .error := by
        simpa using live
      obtain ⟨reply, moves, rfl, rfl⟩ := held_moveTo.1 tail
      cases status : before.status key with
      | idle => exact .inr ⟨Status.noConfusion, running status tail⟩
      | running =>
          obtain ⟨⟨error, rfl, kind⟩, rfl⟩ := moves.of_not_mayBecome (by rw [status]; rfl)
          exact .inl ⟨rfl, rfl, error, kind, rfl⟩
      | completed => exact absurd status live.1
      | error => exact absurd status live.2

/-! Failing. -/

theorem held_failing {α : Type} {run : Run α} {result : Except Fault α}
    (held : (failing key run).Held before trace after result) :
    (∃ value, run.Held before trace after (.ok value) ∧ result = .ok value) ∨
    ∃ fault first middle reply, run.Held before first middle (.error fault) ∧
      middle.Moves ⟨key, .error, some fault.words, none⟩ reply after ∧
      trace = first ++ [⟨.move ⟨key, .error, some fault.words, none⟩, reply⟩] ∧
      ((∃ state, reply = .ok state) → result = .error fault) ∧
      ∀ error, reply = .error error → result = .error (.guide error) := by
  rcases held_tryCatch.1 held with done | ⟨fault, first, middle, second, failed, rescue, rfl⟩
  · exact .inl done
  · refine .inr ⟨fault, first, middle, ?_⟩
    rcases held_bind.1 rescue with ⟨_, opening, between, last, head, tail, rfl⟩ | ⟨other, refused, rfl⟩
    · obtain ⟨inner, moved, same⟩ := held_discard.1 head
      obtain ⟨reply, moves, rfl, rfl⟩ := held_move.1 moved
      obtain ⟨rfl, rfl, rfl⟩ := held_throw.1 tail
      cases reply with
      | ok state => exact ⟨.ok state, failed, moves, rfl, fun _ => rfl, by simp⟩
      | error error => cases same
    · obtain ⟨inner, moved, same⟩ := held_discard.1 refused
      obtain ⟨reply, moves, rfl, rfl⟩ := held_move.1 moved
      cases reply with
      | ok state => cases same
      | error error =>
          cases same
          refine ⟨.error error, failed, moves, rfl, by simp, ?_⟩
          rintro _ ⟨⟩
          rfl

theorem held_failing_running {α : Type} {run : Run α} {result : Except Fault α}
    (held : (failing key run).Held before trace after result)
    (running : ∀ first middle fault, run.Held before first middle (.error fault) →
      middle.status key = .running) :
    (∃ value, run.Held before trace after (.ok value) ∧ result = .ok value) ∨
    ∃ fault first middle turn, run.Held before first middle (.error fault) ∧
      middle.Accepts ⟨key, .error, some fault.words, none⟩ turn after ∧
      trace = first ++ [turn] ∧ result = .error fault := by
  rcases held_failing held with done | ⟨fault, first, middle, reply, failed, moves, rfl, told, -⟩
  · exact .inl done
  · have accepts := moves.accepts (by rw [running _ _ _ failed]; rfl)
    refine .inr ⟨fault, first, middle, _, failed, accepts, rfl, told ?_⟩
    obtain ⟨⟨state, same⟩, -, -⟩ := accepts
    cases same
    exact ⟨_, rfl⟩

/-! The run of a step. -/

/-- How far the run of a step came. -/
inductive Progress where
  | refused (fault : Fault)
  | broke (fault : Fault)
  | late (fault : Fault)
  | ended

namespace Progress

def result : Progress → Except Fault Unit
  | refused fault | broke fault | late fault => .error fault
  | ended => .ok ()

def acted : Progress → Bool
  | late _ | ended => true
  | refused _ | broke _ => false

def started : Progress → Bool
  | refused _ => false
  | _ => true

end Progress

def bookkeeping (key : String) : Run Unit := do
  Run.page .settle
  discard (Control.markCompleted (some key))

theorem bookkeeping_keepsBooks (key : String) : (bookkeeping key).Asks (·.keepsBooks) :=
  asks_bind (asks_page rfl) fun _ => asks_discard (Control.markCompleted_keepsBooks _)

theorem perform_spares (command : Command) : command.perform.Asks (·.spares) :=
  asks_spares (perform_passes command)

theorem bookkeeping_spares (key : String) : (bookkeeping key).Asks (·.spares) :=
  asks_mono (bookkeeping_keepsBooks key) Request.spares_of_keepsBooks

/-- The courses of a run in a mode: the step is set running in `opening`, its action is tried in
`acting`, and the last turn, if any, is the move that ends the run. -/
inductive Course (step : Step) (before : Records) :
    Mode → List Turn → Records → Progress → Prop where
  | refused {mode trace fault} (running : before.status step.key = .running)
      (beginning : (begin step.key).Held before trace before (.error fault)) :
      Course step before mode trace before (.refused fault)
  | broke {mode opening acting begun fault turn after}
      (beginning : (begin step.key).Held before opening begun (.ok ()))
      (acts : (stepCommand step mode).perform.Held begun acting begun (.error fault))
      (ending : begun.Accepts ⟨step.key, .error, some fault.words, none⟩ turn after) :
      Course step before mode (opening ++ (acting ++ [turn])) after (.broke fault)
  | shown {opening acting begun performance turn after}
      (beginning : (begin step.key).Held before opening begun (.ok ()))
      (acts : (stepCommand step .preview).perform.Held begun acting begun (.ok performance))
      (ending : begun.Accepts ⟨step.key, .idle, none, none⟩ turn after) :
      Course step before .preview (opening ++ (acting ++ [turn])) after .ended
  | late {opening acting later begun performance fault turn after}
      (beginning : (begin step.key).Held before opening begun (.ok ()))
      (acts : (stepCommand step .commit).perform.Held begun acting begun (.ok performance))
      (books : (bookkeeping step.key).Held begun later begun (.error fault))
      (ending : begun.Accepts ⟨step.key, .error, some fault.words, none⟩ turn after) :
      Course step before .commit (opening ++ (acting ++ (later ++ [turn]))) after (.late fault)
  | completed {opening acting later begun performance turn after}
      (beginning : (begin step.key).Held before opening begun (.ok ()))
      (acts : (stepCommand step .commit).perform.Held begun acting begun (.ok performance))
      (books : (bookkeeping step.key).Held begun later begun (.ok ()))
      (ending : begun.Accepts ⟨step.key, .completed, none, none⟩ turn after) :
      Course step before .commit (opening ++ (acting ++ (later ++ [turn]))) after .ended

variable {step : Step} {mode : Mode}

theorem runStep_preview (step : Step) :
    runStep step .preview =
      (begin step.key >>= fun _ =>
        failing step.key (discard (stepCommand step .preview).perform >>= fun _ =>
          Run.moveTo step.key .idle) >>= fun _ => pure ()) :=
  rfl

theorem runStep_commit (step : Step) :
    runStep step .commit =
      (begin step.key >>= fun _ =>
        failing step.key (discard (stepCommand step .commit).perform >>= fun _ =>
          bookkeeping step.key) >>= fun _ => Run.moveTo step.key .completed) :=
  rfl

theorem asks_runStep {allowed : Request → Prop}
    (spares : ∀ request, request.spares = true → allowed request)
    (moves : ∀ status error, allowed (.move ⟨step.key, status, error, none⟩)) (mode : Mode) :
    (runStep step mode).Asks allowed := by
  have begins : (begin step.key).Asks allowed :=
    asks_begin (spares _ rfl) (moves _ _) (moves _ _)
  have fails {run : Run Unit} (asks : run.Asks allowed) : (failing step.key run).Asks allowed :=
    asks_tryCatch asks fun _ => asks_bind (asks_discard (asks_move (moves _ _))) fun _ =>
      asks_throw _
  have performs (mode : Mode) : (discard (stepCommand step mode).perform).Asks allowed :=
    asks_discard (asks_mono (perform_spares _) spares)
  cases mode with
  | preview =>
      rw [runStep_preview]
      refine asks_bind begins fun _ => asks_bind (fails ?_) fun _ => asks_pure _
      exact asks_bind (performs _) fun _ => asks_discard (asks_move (moves _ _))
  | commit =>
      rw [runStep_commit]
      refine asks_bind begins fun _ => asks_bind (fails ?_) fun _ =>
        asks_discard (asks_move (moves _ _))
      exact asks_bind (performs _) fun _ => asks_mono (bookkeeping_spares _) spares

theorem held_moveTo_running {status : Status} {result : Except Fault Unit}
    (held : (Run.moveTo key status).Held before trace after result)
    (running : before.status key = .running) (other : status ≠ .running) :
    ∃ turn, before.Accepts ⟨key, status, none, none⟩ turn after ∧ trace = [turn] ∧
      result = .ok () := by
  obtain ⟨reply, moves, rfl, rfl⟩ := held_moveTo.1 held
  have accepts := moves.accepts (by rw [running]; cases status <;> simp_all <;> rfl)
  refine ⟨_, accepts, rfl, ?_⟩
  obtain ⟨⟨state, same⟩, -, -⟩ := accepts
  cases same
  rfl

theorem held_attempt {α : Type} {command : Command} {next : Run α} {result : Except Fault α}
    (held : (discard command.perform >>= fun _ => next).Held before trace after result) :
    (∃ performance acting rest, command.perform.Held before acting before (.ok performance) ∧
      next.Held before rest after result ∧ trace = acting ++ rest) ∨
    ∃ fault, command.perform.Held before trace before (.error fault) ∧ after = before ∧
      result = .error fault := by
  rcases held_bind.1 held with ⟨_, acting, middle, rest, head, next, rfl⟩ | ⟨fault, failed, rfl⟩
  · obtain ⟨inner, acts, same⟩ := held_discard.1 head
    cases inner with
    | ok performance =>
        obtain rfl := acts.spared (perform_spares command)
        exact .inl ⟨performance, acting, rest, acts, next, rfl⟩
    | error fault => cases same
  · obtain ⟨inner, acts, same⟩ := held_discard.1 failed
    cases inner with
    | ok performance => cases same
    | error fault =>
        cases same
        obtain rfl := acts.spared (perform_spares command)
        exact .inr ⟨fault, acts, rfl, rfl⟩

theorem preview_course {opening rest : List Turn} {begun : Records} {result : Except Fault Unit}
    (beginning : (begin step.key).Held before opening begun (.ok ()))
    (running : begun.status step.key = .running)
    (held : (failing step.key (discard (stepCommand step .preview).perform >>= fun _ =>
      Run.moveTo step.key .idle)).Held begun rest after result) :
    ∃ progress, Course step before .preview (opening ++ rest) after progress ∧
      result = progress.result := by
  have stays (first : List Turn) (middle : Records) (fault : Fault)
      (failed : (discard (stepCommand step .preview).perform >>= fun _ =>
        Run.moveTo step.key .idle).Held begun first middle (.error fault)) :
      (stepCommand step .preview).perform.Held begun first begun (.error fault) ∧
        middle = begun := by
    -- the move back to idle is accepted, so only the action can fail
    rcases held_attempt failed with ⟨_, _, _, _, idle, -⟩ | ⟨_, acts, rfl, same⟩
    · obtain ⟨turn, -, -, same⟩ := held_moveTo_running idle running Status.noConfusion
      cases same
    · cases same
      exact ⟨acts, rfl⟩
  rcases held_failing_running held fun first middle fault failed => by
      rw [(stays first middle fault failed).2, running] with
    ⟨_, done, rfl⟩ | ⟨fault, first, middle, turn, failed, ending, rfl, rfl⟩
  · rcases held_attempt done with ⟨_, acting, _, acts, idle, rfl⟩ | ⟨_, -, -, same⟩
    · obtain ⟨turn, ending, rfl, -⟩ := held_moveTo_running idle running Status.noConfusion
      exact ⟨.ended, .shown beginning acts ending, rfl⟩
    · cases same
  · obtain ⟨acts, rfl⟩ := stays first middle fault failed
    exact ⟨.broke fault, .broke beginning acts ending, rfl⟩

theorem commit_course {opening rest : List Turn} {begun : Records} {result : Except Fault Unit}
    (beginning : (begin step.key).Held before opening begun (.ok ()))
    (running : begun.status step.key = .running)
    (held : (failing step.key (discard (stepCommand step .commit).perform >>= fun _ =>
      bookkeeping step.key) >>= fun _ => Run.moveTo step.key .completed).Held
        begun rest after result) :
    ∃ progress, Course step before .commit (opening ++ rest) after progress ∧
      result = progress.result := by
  -- neither the action nor the bookkeeping touches the records
  have stays (first : List Turn) (middle : Records) (result : Except Fault Unit)
      (held : (discard (stepCommand step .commit).perform >>= fun _ =>
        bookkeeping step.key).Held begun first middle result) : middle = begun :=
    held.spared (asks_bind (asks_discard (perform_spares _)) fun _ => bookkeeping_spares _)
  rcases held_bind.1 held with ⟨⟨⟩, done, middle, last, attempt, next, rfl⟩ | ⟨fault, failed, rfl⟩
  · rcases held_failing_running attempt fun first middle fault failed => by
        rw [stays _ _ _ failed, running] with
      ⟨_, attempt, -⟩ | ⟨fault, first, middle, turn, failed, ending, -, same⟩
    · obtain rfl := stays _ _ _ attempt
      rcases held_attempt attempt with ⟨_, acting, later, acts, books, rfl⟩ | ⟨_, -, -, same⟩
      · obtain ⟨turn, ending, rfl, rfl⟩ := held_moveTo_running next running Status.noConfusion
        rw [List.append_assoc]
        exact ⟨.ended, .completed beginning acts books ending, rfl⟩
      · cases same
    · cases same
  · rcases held_failing_running failed fun first middle fault failed => by
        rw [stays _ _ _ failed, running] with
      ⟨_, -, same⟩ | ⟨fault, first, middle, turn, failed, ending, rfl, same⟩
    · cases same
    · cases same
      obtain rfl := stays _ _ _ failed
      rcases held_attempt failed with ⟨_, acting, later, acts, books, rfl⟩ | ⟨_, acts, -, same⟩
      · rw [List.append_assoc]
        exact ⟨.late fault, .late beginning acts books ending, rfl⟩
      · cases same
        exact ⟨.broke fault, .broke beginning acts ending, rfl⟩

theorem course_of_held {result : Except Fault Unit}
    (held : (runStep step mode).Held before trace after result) :
    ∃ progress, Course step before mode trace after progress ∧ result = progress.result := by
  have refused (fault : Fault)
      (failed : (begin step.key).Held before trace after (.error fault)) :
      Course step before mode trace after (.refused fault) := by
    rcases held_begin failed with ⟨running, rfl, -⟩ | ⟨-, same, -⟩
    · exact .refused running failed
    · cases same
  have begun {opening : List Turn} {begun : Records}
      (beginning : (begin step.key).Held before opening begun (.ok ())) :
      begun.status step.key = .running := by
    rcases held_begin beginning with ⟨-, -, error, -, same⟩ | ⟨-, -, running, -⟩
    · cases same
    · exact running
  cases mode with
  | preview =>
      rw [runStep_preview] at held
      rcases held_bind.1 held with ⟨⟨⟩, opening, _, rest, beginning, attempt, rfl⟩ | ⟨fault, failed, rfl⟩
      · rw [bind_pure] at attempt
        exact preview_course beginning (begun beginning) attempt
      · exact ⟨.refused fault, refused fault failed, rfl⟩
  | commit =>
      rw [runStep_commit] at held
      rcases held_bind.1 held with ⟨⟨⟩, opening, _, rest, beginning, attempt, rfl⟩ | ⟨fault, failed, rfl⟩
      · exact commit_course beginning (begun beginning) attempt
      · exact ⟨.refused fault, refused fault failed, rfl⟩

namespace Course

variable {progress : Progress}

theorem sameBut (course : Course step before mode trace after progress) :
    Records.SameBut step.key before after := by
  have opened {opening : List Turn} {begun : Records}
      (beginning : (begin step.key).Held before opening begun (.ok ())) :
      Records.SameBut step.key before begun := by
    rcases held_begin beginning with ⟨-, -, error, -, same⟩ | ⟨-, -, -, same⟩
    · cases same
    · exact same
  cases course with
  | refused => exact .refl _ _
  | broke beginning _ ending | shown beginning _ ending | late beginning _ _ ending
  | completed beginning _ _ ending => exact (opened beginning).trans ending.sameBut

theorem status_eq (course : Course step before mode trace after progress) :
    after.status step.key =
      match progress, mode with
      | .refused _, _ => .running
      | .broke _, _ | .late _, _ => .error
      | .ended, .preview => .idle
      | .ended, .commit => .completed := by
  cases course with
  | refused running => exact running
  | broke _ _ ending | shown _ _ ending | late _ _ _ ending | completed _ _ _ ending =>
      exact ending.status_eq

theorem started (course : Course step before mode trace after progress)
    (free : before.status step.key ≠ .running) : progress.started = true := by
  cases course with
  | refused running => exact absurd running free
  | _ => rfl

theorem not_running (course : Course step before mode trace after progress)
    (free : before.status step.key ≠ .running) : after.status step.key ≠ .running := by
  have started := course.started free
  rw [course.status_eq]
  cases progress with
  | refused fault => cases started
  | ended => cases mode <;> exact Status.noConfusion
  | _ => exact Status.noConfusion

end Course

/-! Completion by objectives. -/

def clearing (key : String) : Run Unit := do
  if (← Run.status key) != .idle then discard (Run.reset key)

theorem clearing_quietly (key : String) : (clearing key).Asks quietly := by
  refine asks_bind (asks_status quietly_look) fun status => ?_
  split
  · exact asks_discard (reset_quietly key)
  · exact asks_pure _

theorem held_clearing {result : Except Fault Unit}
    (held : (clearing key).Held before trace after result) :
    result = .ok () ∧ after.status key = .idle ∧ Records.SameBut key before after := by
  obtain ⟨rest, tail, rfl⟩ := held_status_bind.1 held
  split at tail
  · obtain ⟨inner, reset, rfl⟩ := held_discard.1 tail
    obtain ⟨⟨state, rfl⟩, idle, same, -⟩ := held_reset reset
    exact ⟨rfl, idle, same⟩
  · next idle =>
      obtain ⟨rfl, rfl, rfl⟩ := held_pure.1 tail
      exact ⟨rfl, by simpa using idle, .refl _ _⟩

/-- A step that is completed is left alone. Any other one is made idle in `opening`, its controls
are marked in `books` unless it is a multi-step, and then it is completed. -/
inductive Shortcut (step : Step) (before : Records) :
    List Turn → Records → Except Fault Outcome → Prop where
  | already {outcome} (done : before.status step.key = .completed) :
      Shortcut step before [⟨.states, before.store⟩] before (.ok outcome)
  | unmarked {opening books idle fault}
      (clears : (clearing step.key).Held before opening idle (.ok ()))
      (single : isMultiple step = false)
      (marking : (Control.markCompleted (some step.key)).Held idle books idle (.error fault)) :
      Shortcut step before (opening ++ books) idle (.error fault)
  | completed {opening books idle turn after outcome}
      (clears : (clearing step.key).Held before opening idle (.ok ()))
      (unmarked : isMultiple step = true → books = [])
      (marking : isMultiple step = false →
        ∃ controls, (Control.markCompleted (some step.key)).Held idle books idle (.ok controls))
      (ending : idle.Accepts ⟨step.key, .completed, none, none⟩ turn after) :
      Shortcut step before (opening ++ (books ++ [turn])) after (.ok outcome)

theorem markCompleted_spares (key : Option String) :
    (Control.markCompleted key).Asks (·.spares) :=
  asks_mono (Control.markCompleted_keepsBooks key) Request.spares_of_keepsBooks

def completing (key : String) : Run Outcome := do
  Run.moveTo key .completed
  return .withheld key .completed doneMessage

theorem asks_completeByObjectives {step : Step} {allowed : Request → Prop}
    (looks : allowed .states) (books : ∀ request, request.keepsBooks = true → allowed request)
    (idle : allowed (.move ⟨step.key, .idle, none, none⟩))
    (completed : allowed (.move ⟨step.key, .completed, none, none⟩)) :
    (completeByObjectives step).Asks allowed := by
  have completes : (completing step.key).Asks allowed :=
    asks_bind (asks_discard (asks_move completed)) fun _ => asks_pure _
  have marked : (if !isMultiple step then
      discard (Control.markCompleted (some step.key)) >>= fun _ => completing step.key
      else completing step.key).Asks allowed := by
    split
    · refine asks_bind (asks_discard ?_) fun _ => completes
      exact asks_mono (Control.markCompleted_keepsBooks _) books
    · exact completes
  refine asks_bind (asks_status looks) fun status => ?_
  dsimp only
  split
  · exact asks_pure _
  · split
    · exact asks_bind (asks_discard (asks_reset looks idle)) fun _ => marked
    · exact marked

theorem asks_prepare {step : Step} {allowed : Request → Prop} (looks : allowed .states)
    (books : ∀ request, request.keepsBooks = true → allowed request)
    (idle : allowed (.move ⟨step.key, .idle, none, none⟩))
    (completed : allowed (.move ⟨step.key, .completed, none, none⟩)) :
    (prepare step).Asks allowed := by
  have objectives : (objectivesMet step).Asks allowed :=
    asks_mono (keepsBooks_of_looks (objectivesMet_looks step)) books
  refine asks_bind objectives fun met => ?_
  split
  · refine asks_bind (asks_status looks) fun _ => ?_
    dsimp only
    split
    · have completes := asks_completeByObjectives looks books idle completed
      exact asks_bind (asks_discard completes) fun _ => asks_pure _
    · exact asks_pure _
  · refine asks_bind (asks_status looks) fun _ => ?_
    dsimp only
    split
    · exact asks_bind (asks_discard (asks_reset looks idle)) fun _ => asks_pure _
    · exact asks_pure _

theorem held_completing {result : Except Fault Outcome}
    (held : (completing key).Held before trace after result)
    (idle : before.status key = .idle) :
    ∃ turn outcome, before.Accepts ⟨key, .completed, none, none⟩ turn after ∧
      trace = [turn] ∧ result = .ok outcome := by
  rcases held_bind.1 held with ⟨_, _, _, _, moved, ended, rfl⟩ | ⟨fault, refused, -⟩
  · obtain ⟨rfl, rfl, rfl⟩ := held_pure.1 ended
    obtain ⟨reply, moves, rfl, -⟩ := held_moveTo.1 moved
    exact ⟨_, _, moves.accepts (by rw [idle]; rfl), rfl, rfl⟩
  · obtain ⟨reply, moves, -, failed⟩ := held_moveTo.1 refused
    obtain ⟨⟨state, accepted⟩, -, -⟩ := moves.accepts (by rw [idle]; rfl)
    cases accepted
    cases failed

theorem shortcut_of_clearing {opening rest : List Turn} {idle : Records}
    {result : Except Fault Outcome}
    (clears : (clearing step.key).Held before opening idle (.ok ()))
    (held : (if !isMultiple step then
        discard (Control.markCompleted (some step.key)) >>= fun _ => completing step.key
      else completing step.key).Held idle rest after result) :
    Shortcut step before (opening ++ rest) after result := by
  obtain ⟨-, status, -⟩ := held_clearing clears
  cases multiple : isMultiple step with
  | true =>
      rw [multiple] at held
      obtain ⟨turn, outcome, accepts, rfl, rfl⟩ := held_completing held status
      change Shortcut step before (opening ++ ([] ++ [turn])) after (.ok outcome)
      exact .completed clears (fun _ => rfl) (by simp [multiple]) accepts
  | false =>
      rw [multiple] at held
      rcases held_bind.1 held with ⟨_, books, _, _, marked, rest, rfl⟩ | ⟨fault, failed, rfl⟩
      · obtain ⟨inner, marked, ok⟩ := held_discard.1 marked
        cases inner with
        | error fault => cases ok
        | ok controls =>
            obtain rfl := marked.spared (markCompleted_spares _)
            obtain ⟨turn, outcome, accepts, rfl, rfl⟩ := held_completing rest status
            exact .completed clears (by simp [multiple]) (fun _ => ⟨controls, marked⟩) accepts
      · obtain ⟨inner, marked, error⟩ := held_discard.1 failed
        cases inner with
        | ok controls => cases error
        | error fault =>
            cases error
            obtain rfl := marked.spared (markCompleted_spares _)
            exact .unmarked clears multiple marked

theorem shortcut_of_held {result : Except Fault Outcome}
    (held : (completeByObjectives step).Held before trace after result) :
    Shortcut step before trace after result := by
  obtain ⟨rest, tail, rfl⟩ := held_status_bind.1 held
  dsimp only at tail
  split at tail
  · next done =>
      obtain ⟨rfl, rfl, rfl⟩ := held_pure.1 tail
      exact .already done
  · split at tail
    · next busy =>
        rcases held_bind.1 tail with ⟨⟨⟩, opening, idle, last, reset, next, rfl⟩ | ⟨fault, failed, -⟩
        · rw [← List.cons_append]
          refine shortcut_of_clearing (held_status_bind.2 ⟨opening, ?_, rfl⟩) next
          rw [if_pos busy]
          exact reset
        · obtain ⟨inner, reset, same⟩ := held_discard.1 failed
          obtain ⟨⟨state, rfl⟩, -⟩ := held_reset reset
          cases same
    · next idle =>
        change Shortcut step before ([⟨.states, before.store⟩] ++ rest) after result
        refine shortcut_of_clearing (held_status_bind.2 ⟨[], ?_, rfl⟩) tail
        rw [if_neg idle]
        exact held_pure.2 ⟨rfl, rfl, rfl⟩

namespace Shortcut

variable {result : Except Fault Outcome}

theorem sameBut (shortcut : Shortcut step before trace after result) :
    Records.SameBut step.key before after := by
  cases shortcut with
  | already => exact .refl _ _
  | unmarked clears => exact (held_clearing clears).2.2
  | completed clears _ _ ending => exact (held_clearing clears).2.2.trans ending.sameBut

theorem status_eq (shortcut : Shortcut step before trace after result) :
    after.status step.key = match result with
      | .ok _ => .completed
      | .error _ => .idle := by
  cases shortcut with
  | already done => exact done
  | unmarked clears => exact (held_clearing clears).2.1
  | completed _ _ _ ending => exact ending.status_eq

theorem returns (shortcut : Shortcut step before trace after result)
    (multiple : isMultiple step = true) : ∃ outcome, result = .ok outcome := by
  cases shortcut with
  | already | completed => exact ⟨_, rfl⟩
  | unmarked _ single =>
      rw [multiple] at single
      cases single

end Shortcut

end Guide

end Walkthrough
