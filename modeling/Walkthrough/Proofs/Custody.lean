import Walkthrough.Proofs.Contracts
import Walkthrough.Proofs.Composing
import Walkthrough.Proofs.Confinement
import Walkthrough.Proofs.Gates
import Walkthrough.Proofs.Markers
/-!
Who has a step in hand while operations go on side by side. Whoever sets a step running has it in
hand until he makes it idle, completes it or lets it fail. Nobody else can set it running meanwhile,
and nobody else lets it fail. But two things are done to a step without asking in whose hand it is:
it is made idle because it was seen not to be idle, and it is completed because its objectives are
met. As long as neither happens to a step in somebody's hand, nobody else touches it.
-/

namespace Walkthrough

/-! Hands. -/

def Turn.hold (key : String) (held : Bool) (turn : Turn) : Bool :=
  match turn.moved key with
  | none => held
  | some status => status == .running

/-- The last move of the step that the turns tell of has set it running. -/
def Holds (key : String) : Past := fun past => past.foldl (Turn.hold key) false = true

def Turn.look? : Turn → Option Store
  | ⟨.states, store⟩ => some store
  | _ => none

def lastLook (past : List Turn) : Option Store :=
  past.getLast?.bind Turn.look?

section

variable {key : String} {past : List Turn} {turn : Turn} {status : Status} {store : Store}

theorem holds_of_unmoved (unmoved : turn.moved key = none) :
    Holds key (past ++ [turn]) ↔ Holds key past := by
  simp [Holds, Turn.hold, unmoved]

theorem holds_of_moved (moved : turn.moved key = some status) :
    Holds key (past ++ [turn]) ↔ status = .running := by
  simp [Holds, Turn.hold, moved]

theorem not_holds_nil : ¬ Holds key [] :=
  Bool.false_ne_true

@[simp] theorem lastLook_concat : lastLook (past ++ [turn]) = turn.look? := by
  simp [lastLook]

theorem eq_of_lastLook (look : lastLook past = some store) :
    ∃ turns, past = turns ++ [⟨.states, store⟩] := by
  rcases List.eq_nil_or_concat past with rfl | ⟨turns, last, rfl⟩
  · cases look
  · rw [List.concat_eq_append] at look ⊢
    rw [lastLook_concat] at look
    obtain ⟨asked, reply⟩ := last
    cases asked with
    | states =>
        obtain rfl := Option.some.inj look
        exact ⟨turns, rfl⟩
    | _ => cases look

theorem look?_of_moved (moved : turn.moved key = some status) : turn.look? = none := by
  obtain ⟨move, state, rfl, -⟩ := Turn.eq_of_moved moved
  rfl

end

/-! The contract. -/

/-- What a speaker may assume while nobody meddles with the step: what he has in hand is seen
running and not set running again, nor made idle after a look at it; and of two looks without a wait
in between, the second one shows what the first one did. -/
structure Undisturbed (key : String) (past : List Turn) (turn : Turn) : Prop where
  unstarted : Holds key past → turn.moved key ≠ some .running
  seen : ∀ store, Holds key past → turn.look? = some store → store.status key = .running
  unreset : ∀ store, Holds key past → lastLook past = some store → turn.moved key ≠ some .idle
  steady : ∀ store later, lastLook past = some store → turn.look? = some later → later = store

/-- A step is made idle, completed or let fail by who has it in hand. Besides, it is made idle after
a look at it, if it was not seen running; only a meddler makes it idle even then, and completes it
without having it in hand. -/
def custody (key : String) (mayMeddle : Prop) : Contract where
  allows past
    | .move move => move.step = key →
        match move.status with
        | .running => True
        | .error => Holds key past
        | .completed => Holds key past ∨ mayMeddle
        | .idle =>
            match lastLook past with
            | some store => store.status key ≠ .running ∨ mayMeddle
            | none => Holds key past
    | _ => True
  assumes := Undisturbed key

namespace Guide

open Run

variable {α : Type} {key : String} {mayMeddle : Prop} {step : Step} {told torn : Past}

def Abides (key : String) (told : Past) : Prop :=
  ∀ ⦃past turn⦄, turn.moved key = none → told past → told (past ++ [turn])

theorem abides_true : Abides key fun _ => True :=
  fun _ _ _ _ => trivial

theorem abides_holds : Abides key (Holds key) :=
  fun _ _ unmoved holds => (holds_of_unmoved unmoved).2 holds

theorem unmoved_of_avoids {turn : Turn} (avoids : turn.asked.avoids key) :
    turn.moved key = none := by
  obtain ⟨asked, reply⟩ := turn
  cases asked with
  | move move =>
      cases reply with
      | ok state => exact if_neg avoids
      | error error => rfl
  | _ => rfl

theorem allows_of_avoids {past : List Turn} {asked : Request} (avoids : asked.avoids key) :
    (custody key mayMeddle).allows past asked := by
  cases asked with
  | move move => exact fun own => absurd own avoids
  | _ => trivial

theorem unmoved_of_spares {turn : Turn} (spares : turn.asked.spares = true) :
    turn.moved key = none :=
  unmoved_of_avoids (Request.avoids_of_spares turn.asked spares)

theorem avoiding_honours {run : Run α} (abides : Abides key told)
    (asks : run.Asks (·.avoids key)) :
    run.Honours (custody key mayMeddle) told (fun _ => told) told :=
  honours_of_asks asks (fun _ _ avoids _ => allows_of_avoids avoids)
    fun _ _ avoids _ kept => abides (unmoved_of_avoids avoids) kept

theorem sparing_honours {run : Run α} (abides : Abides key told) (asks : run.Asks (·.spares)) :
    run.Honours (custody key mayMeddle) told (fun _ => told) told :=
  avoiding_honours abides (avoids_of_spares asks)

theorem composes_custody (abides : Abides key told) :
    Composes fun _ run => run.Honours (custody key mayMeddle) told (fun _ => told) told where
  spared asks := sparing_honours abides asks
  reached _ _ := by
    refine honours_ask (fun _ _ => trivial) fun _ _ kept _ => abides rfl kept
  bind first second := honours_bind _ first second
  outcome honours := by
    rw [← bind_pure (Run.outcome _)]
    exact honours_outcome_bind honours (fun _ => honours_pure fun _ kept => kept)
      fun _ => honours_pure fun _ kept => kept

/-! Moves. -/

theorem moveHeld_honours {move : Move}
    (allowed : ∀ past, Holds key past → (custody key mayMeddle).allows past (.move move)) :
    (Run.move move).Honours (custody key mayMeddle) (Holds key) (fun _ _ => True) (Holds key) := by
  refine honours_move (fun past holds => allowed past holds) (fun _ _ _ _ => trivial) ?_
  exact fun past error holds _ => abides_holds rfl holds

theorem failHeld_honours {error : Option String} {index : Option Int} :
    (Run.move ⟨key, .error, error, index⟩).Honours (custody key mayMeddle) (Holds key)
      (fun _ _ => True) (Holds key) :=
  moveHeld_honours fun _ holds _ => holds

theorem completeHeld_honours {index : Option Int} :
    (Run.move ⟨key, .completed, none, index⟩).Honours (custody key mayMeddle) (Holds key)
      (fun _ _ => True) (Holds key) :=
  moveHeld_honours fun _ holds _ => .inl holds

def SeenStill (key : String) : Past := fun past =>
  ∃ store, lastLook past = some store ∧ store.status key ≠ .running

theorem resetStill_honours :
    (Run.reset key).Honours (custody key mayMeddle) (SeenStill key) (fun _ _ => True)
      (fun _ => True) := by
  refine honours_bind (fun _ => SeenStill key) ?_ fun current => ?_
  · refine honours_state (fun _ _ => trivial) ?_
    rintro past store ⟨before, look, still⟩ undisturbed
    -- nothing was waited for, so the second look shows what the first one did
    obtain rfl := undisturbed.steady before store look rfl
    exact ⟨store, lastLook_concat, still⟩
  · split
    · exact honours_pure fun _ _ => trivial
    · refine honours_move ?_ (fun _ _ _ _ => trivial) fun _ _ _ _ => trivial
      rintro past ⟨store, look, still⟩ _
      dsimp only
      rw [look]
      exact .inl still

theorem reset_honours (meddler : mayMeddle) :
    (Run.reset key).Honours (custody key mayMeddle) (fun _ => True) (fun _ _ => True)
      (fun _ => True) := by
  refine honours_bind (fun _ past => ∃ store, lastLook past = some store) ?_
    fun current => ?_
  · exact honours_state (fun _ _ => trivial) fun _ store _ _ => ⟨store, lastLook_concat⟩
  · split
    · exact honours_pure fun _ _ => trivial
    · refine honours_move ?_ (fun _ _ _ _ => trivial) fun _ _ _ _ => trivial
      rintro past ⟨store, look⟩ _
      dsimp only
      rw [look]
      exact .inr meddler

theorem resetHeld_honours (meddler : mayMeddle) :
    (Run.reset key).Honours (custody key mayMeddle) (Holds key) (fun _ _ => False) (Holds key) := by
  refine honours_bind (fun current past => current.status = .running ∧ Holds key past ∧
    ∃ store, lastLook past = some store) ?_ fun current => ?_
  · refine honours_state (fun _ _ => trivial) fun past store holds undisturbed => ?_
    exact ⟨undisturbed.seen store holds rfl, abides_holds rfl holds, store, lastLook_concat⟩
  · split
    · next idle =>
        refine honours_pure fun past told => ?_
        rw [told.1] at idle
        cases idle
    · refine honours_move ?_ ?_ ?_
      · rintro past ⟨-, -, store, look⟩ _
        dsimp only
        rw [look]
        exact .inr meddler
      · -- by then the step would no longer be in hand, which need not be expected
        rintro past state ⟨-, holds, store, look⟩ undisturbed
        exact absurd (Turn.moved_move rfl) (undisturbed.unreset store holds look)
      · rintro past error ⟨-, holds, -⟩ _
        exact abides_holds rfl holds

/-! Beginnings. -/

theorem running_honours :
    (Run.moveTo key .running).Honours (custody key mayMeddle) (fun _ => True) (fun _ => Holds key)
      (fun _ => True) := by
  refine honours_discard (honours_move (fun _ _ _ => trivial) ?_ fun _ _ _ _ => trivial)
  intro past state _ _
  have moved : (⟨.move ⟨key, .running, none, none⟩, .ok state⟩ : Turn).moved key =
      some .running := if_pos rfl
  exact (holds_of_moved moved).2 rfl

theorem begin_custody :
    (begin key).Honours (custody key mayMeddle) (fun _ => True) (fun _ => Holds key)
      (fun _ => True) := by
  refine honours_bind (fun status past => ∃ store, lastLook past = some store ∧
    store.status key = status) ?_ fun status => ?_
  · exact honours_status (fun _ _ => trivial) fun _ store _ _ => ⟨store, lastLook_concat, rfl⟩
  · dsimp only
    split
    · next closed =>
        have still : status ≠ .running := by
          rintro rfl
          simp at closed
        refine honours_bind (fun _ _ => True) ?_ fun _ => running_honours
        refine honours_discard (resetStill_honours.starting ?_)
        rintro past ⟨store, look, rfl⟩
        exact ⟨store, look, still⟩
    · exact running_honours.starting fun _ _ => trivial

theorem beginHeld_custody :
    (begin key).Honours (custody key mayMeddle) (Holds key) (fun _ _ => False) (Holds key) := by
  refine honours_bind (fun status past => status = .running ∧ Holds key past) ?_
    fun status => ?_
  · refine honours_status (fun _ _ => trivial) fun past store holds undisturbed => ?_
    exact ⟨undisturbed.seen store holds rfl, abides_holds rfl holds⟩
  · dsimp only
    split
    · next closed =>
        intro past told
        rw [told.1] at closed
        simp at closed
    · have refused : (Run.moveTo key .running).Honours (custody key mayMeddle) (Holds key)
          (fun _ _ => False) (Holds key) := by
        refine honours_discard (honours_move (fun _ _ _ => trivial) ?_ ?_)
        · intro past state holds undisturbed
          exact absurd (Turn.moved_move rfl) (undisturbed.unstarted holds)
        · exact fun past error holds _ => abides_holds rfl holds
      exact refused.starting fun _ told => told.2

/-! Runs of the step itself. -/

def Works (key : String) : Past := fun past => Holds key past ∧ lastLook past = none

theorem perform_custody (command : Command) :
    (discard command.perform).Honours (custody key mayMeddle) (Holds key) (fun _ => Works key)
      (Holds key) := by
  have works : command.carryOut.Honours (custody key mayMeddle) (Works key) (fun _ => Works key)
      (Works key) := by
    refine honours_of_asks (Command.carryOut_works command) ?_ ?_
    · intro past asked works _
      apply allows_of_avoids
      exact Request.avoids_of_spares _
        (Request.spares_of_passes _ (Request.passes_of_works _ works))
    · rintro past ⟨asked, reply⟩ works - ⟨holds, -⟩
      have spares := Request.spares_of_passes _ (Request.passes_of_works _ works)
      refine ⟨abides_holds (unmoved_of_spares spares) holds, ?_⟩
      rw [lastLook_concat]
      cases asked with
      | states => cases works
      | _ => rfl
  refine honours_discard (honours_bind (fun _ => Works key) ?_ fun _ => ?_)
  · refine honours_ask (fun _ _ => trivial) fun past _ holds _ => ?_
    exact ⟨abides_holds rfl holds, lastLook_concat⟩
  · exact works.tearing fun _ told => told.1

theorem failing_custody {run : Run α} {ends : α → Past}
    (inside : run.Honours (custody key mayMeddle) (Holds key) ends (Holds key)) :
    (failing key run).Honours (custody key mayMeddle) (Holds key) ends (fun _ => True) := by
  refine honours_tryCatch inside fun fault => ?_
  refine honours_bind (fun _ _ => True) ?_ fun _ => honours_throw fun _ told => told
  exact honours_discard failHeld_honours.forget

theorem completing_custody :
    (Run.moveTo key .completed).Honours (custody key mayMeddle) (Holds key) (fun _ _ => True)
      (fun _ => True) :=
  honours_discard completeHeld_honours.forget

theorem runStep_custody (step : Step) (mode : Mode) :
    (runStep step mode).Honours (custody step.key mayMeddle) (fun _ => True) (fun _ _ => True)
      (fun _ => True) := by
  cases mode with
  | preview =>
      rw [runStep_preview]
      have shows : (discard (stepCommand step .preview).perform >>= fun _ =>
          Run.moveTo step.key .idle).Honours (custody step.key mayMeddle) (Holds step.key)
            (fun _ _ => True) (Holds step.key) := by
        refine honours_bind _ (perform_custody _) fun _ => honours_discard (honours_move ?_ ?_ ?_)
        · rintro past ⟨holds, unlooked⟩ _
          dsimp only
          rw [unlooked]
          exact holds
        · exact fun _ _ _ _ => trivial
        · exact fun past error works _ => abides_holds rfl works.1
      refine honours_bind _ begin_custody fun _ => ?_
      exact honours_bind _ (failing_custody shows) fun _ => honours_pure fun _ told => told
  | commit =>
      rw [runStep_commit]
      have performs : (discard (stepCommand step .commit).perform).Honours
          (custody step.key mayMeddle) (Holds step.key) (fun _ => Holds step.key)
            (Holds step.key) :=
        (perform_custody _).telling fun _ _ told => told.1
      have acts : (discard (stepCommand step .commit).perform >>= fun _ =>
          bookkeeping step.key).Honours (custody step.key mayMeddle) (Holds step.key)
            (fun _ => Holds step.key) (Holds step.key) :=
        honours_bind _ performs fun _ => sparing_honours abides_holds (bookkeeping_spares _)
      refine honours_bind _ begin_custody fun _ => ?_
      exact honours_bind _ (failing_custody acts) fun _ => completing_custody

theorem runStepHeld_custody (step : Step) (mode : Mode) :
    (runStep step mode).Honours (custody step.key mayMeddle) (Holds step.key) (fun _ _ => False)
      (Holds step.key) := by
  refine honours_bind _ beginHeld_custody fun _ => ?_
  exact fun _ told => told.elim

/-! Completion by objectives. -/

theorem completeByObjectives_custody (meddler : mayMeddle) :
    (completeByObjectives step).Honours (custody step.key mayMeddle) (fun _ => True)
      (fun _ _ => True) (fun _ => True) := by
  have completes : (completing step.key).Honours (custody step.key mayMeddle) (fun _ => True)
      (fun _ _ => True) (fun _ => True) := by
    refine honours_bind (fun _ _ => True) ?_ fun _ => honours_pure fun _ told => told
    refine honours_discard (honours_move ?_ (fun _ _ _ _ => trivial) fun _ _ _ _ => trivial)
    exact fun _ _ _ => .inr meddler
  have marked : (if !isMultiple step then
      discard (Control.markCompleted (some step.key)) >>= fun _ => completing step.key
      else completing step.key).Honours (custody step.key mayMeddle) (fun _ => True)
        (fun _ _ => True) (fun _ => True) := by
    split
    · refine honours_bind _ (honours_discard ?_) fun _ => completes
      exact sparing_honours abides_true (markCompleted_spares _)
    · exact completes
  refine honours_bind _ ((composes_custody abides_true).status _) fun status => ?_
  dsimp only
  split
  · exact honours_pure fun _ told => told
  · split
    · exact honours_bind _ (honours_discard (reset_honours meddler)) fun _ => marked
    · exact marked

theorem completeHeldByObjectives_custody (meddler : mayMeddle) :
    (completeByObjectives step).Honours (custody step.key mayMeddle) (Holds step.key)
      (fun _ _ => False) (Holds step.key) := by
  refine honours_bind (fun status past => status = .running ∧ Holds step.key past) ?_
    fun status => ?_
  · refine honours_status (fun _ _ => trivial) fun past store holds undisturbed => ?_
    exact ⟨undisturbed.seen store holds rfl, abides_holds rfl holds⟩
  · intro past told
    obtain ⟨rfl, holds⟩ := told
    exact honours_bind _ (honours_discard (resetHeld_honours meddler))
      (fun _ => fun _ told => told.elim) holds

/-! Sequences. -/

/-- A tour keeps up what the runs of the step, its way back to idle and its completion do, for
whatever is told of the step abides what is done to other ones. -/
theorem walk_custody (abides : Abides key told)
    (runs : ∀ step mode, step.key = key →
      (runStep step mode).Honours (custody key mayMeddle) told (fun _ => told) told)
    (resets : (Run.reset key).Honours (custody key mayMeddle) told (fun _ => told) told)
    (completes : ∀ step, step.key = key →
      (completeByObjectives step).Honours (custody key mayMeddle) told (fun _ => told) told)
    (step : Step) (showOnly : Bool) :
    (walk step showOnly).Honours (custody key mayMeddle) told (fun _ => told) told := by
  refine (composes_custody abides).walk (fun step mode => ?_) (fun other => ?_) (fun step => ?_)
    step showOnly
  -- only what is done to the step itself matters
  · by_cases own : step.key = key
    · exact runs step mode own
    · exact avoiding_honours abides (runStep_avoids own mode)
  · by_cases own : other = key
    · subst own
      exact resets
    · exact avoiding_honours abides (reset_avoids own)
  · by_cases own : step.key = key
    · exact completes step own
    · exact avoiding_honours abides (completeByObjectives_avoids own)

theorem walkFree_custody (meddler : mayMeddle) (step : Step) (showOnly : Bool) :
    (walk step showOnly).Honours (custody key mayMeddle) (fun _ => True) (fun _ _ => True)
      (fun _ => True) := by
  refine walk_custody abides_true ?_ (reset_honours meddler) ?_ step showOnly
  · rintro step mode rfl
    exact runStep_custody step mode
  · rintro step rfl
    exact completeByObjectives_custody meddler

theorem walkHeld_custody (meddler : mayMeddle) (step : Step) (showOnly : Bool) :
    (walk step showOnly).Honours (custody key mayMeddle) (Holds key) (fun _ => Holds key)
      (Holds key) := by
  refine walk_custody abides_holds ?_ ?_ ?_ step showOnly
  · rintro step mode rfl
    exact (runStepHeld_custody step mode).of_never
  · exact (resetHeld_honours meddler).of_never
  · rintro step rfl
    exact (completeHeldByObjectives_custody meddler).of_never

theorem enclosed_custody (meddler : mayMeddle) (step : Step) (showOnly : Bool) :
    (enclosed step showOnly).Honours (custody key mayMeddle) (fun _ => True) (fun _ _ => True)
      (fun _ => True) := by
  by_cases own : step.key = key
  · subst own
    refine honours_bind _ begin_custody fun _ => ?_
    exact honours_bind _ (failing_custody (walkHeld_custody meddler step showOnly)) fun _ =>
      completing_custody
  · refine honours_bind _ (avoiding_honours abides_true (begin_avoids own)) fun _ => ?_
    refine honours_bind _
      (honours_tryCatch (walkFree_custody meddler step showOnly) fun fault => ?_)
      fun _ => avoiding_honours abides_true (moveTo_avoids own)
    exact honours_bind _ (avoiding_honours abides_true (asks_discard (move_avoids own))) fun _ =>
      honours_throw fun _ told => told

theorem runSequence_custody (meddler : mayMeddle) (step : Step) (showOnly : Bool) :
    (runSequence step showOnly).Honours (custody key mayMeddle) (fun _ => True) (fun _ _ => True)
      (fun _ => True) := by
  have composes : Composes fun _ run => run.Honours (custody key mayMeddle) (fun _ => True)
      (fun _ _ => True) (fun _ => True) := composes_custody abides_true
  have asking {asked : Request} (avoids : asked.avoids key) : (Run.ask asked).Honours
      (custody key mayMeddle) (fun _ => True) (fun _ _ => True) (fun _ => True) :=
    avoiding_honours abides_true (asks_ask avoids)
  refine composes.bind (asking trivial) fun active => ?_
  split
  · exact composes.pure _
  · refine composes.bind (asking trivial) fun _ => composes.bind ?_ fun _ => composes.pure _
    refine composes.bind
      (composes.outcome (enclosed_custody meddler step showOnly)) fun result => ?_
    refine composes.bind (asking trivial) fun _ => ?_
    split
    · exact composes.pure _
    · exact composes.throw _

/-! Multi-steps. -/

theorem failAt_custody (index : Nat) (message : String) :
    (failAt key index message).Honours (custody key mayMeddle) (Holds key) (fun _ _ => True)
      (fun _ => True) := by
  refine honours_bind (fun _ _ => True) ?_ fun _ => honours_pure fun _ told => told
  exact honours_discard failHeld_honours.forget

theorem runInner_custody (delay : Amount) (index : Nat) (actions : List InnerAction) :
    (runInner key delay index actions).Honours (custody key mayMeddle) (Holds key)
      (fun failed past => failed = none → Holds key past) (fun _ => True) := by
  have fails (index : Nat) (message : String) :
      (failAt key index message >>= fun failed => pure (some failed)).Honours
        (custody key mayMeddle) (Holds key) (fun failed past => failed = none → Holds key past)
        (fun _ => True) := by
    refine honours_bind _ (failAt_custody index message) fun _ => honours_pure ?_
    intro past _ same
    cases same
  have sparing {α : Type} {run : Run α} (spares : run.Asks (·.spares)) :
      run.Honours (custody key mayMeddle) (Holds key) (fun _ => Holds key) (fun _ => True) :=
    (sparing_honours abides_holds spares).forget
  -- one inner action after the other, the first of which to fail ends the run
  induction actions generalizing index with
  | nil => exact honours_pure fun _ holds _ => holds
  | cons inner rest ih =>
      refine honours_bind (fun _ => Holds key) ?_ fun _ => ?_
      · exact honours_ask (fun _ _ => trivial) fun _ _ holds _ => abides_holds rfl holds
      · refine honours_bind _ (sparing (asks_spares (passes_of_looks (obstacle_looks inner index))))
          fun found => ?_
        split
        · exact fails _ _
        · refine honours_outcome_bind
            (sparing_honours abides_holds (asks_spares (showThenDoInner_passes inner)))
            (fun _ => ?_) fun fault => fails _ _
          dsimp only
          split
          · exact honours_bind _ (sparing (asks_spares (pause_passes delay))) fun _ => ih _
          · exact ih _

theorem runActions_custody (key : String) (actions : List InnerAction) (delay : Option Nat)
    (assessment : Assessment) :
    (runActions key actions delay assessment).Honours (custody key mayMeddle) (fun _ => True)
      (fun _ _ => True) (fun _ => True) := by
  have delays := asks_spares (passes_of_looks (delayOf_looks delay))
  refine honours_bind _ (sparing_honours abides_true delays) fun wait => ?_
  refine honours_bind _ begin_custody fun _ => ?_
  refine honours_bind _ (runInner_custody wait 0 actions) fun failed => ?_
  split
  · exact honours_pure fun _ _ => trivial
  · refine honours_bind (fun _ => Holds key) ?_ fun _ => ?_
    · exact ((sparing_honours abides_holds (asks_page rfl)).starting fun _ told => told rfl).forget
    · refine honours_bind (fun _ _ => True) ?_ fun _ => honours_pure fun _ told => told
      exact honours_discard completeHeld_honours.forget

theorem runInner_avoids {other : String} (distinct : other ≠ key) (delay : Amount) (index : Nat)
    (actions : List InnerAction) : (runInner other delay index actions).Asks (·.avoids key) := by
  have fails (index : Nat) (message : String) :
      (failAt other index message >>= fun failed => pure (some failed)).Asks (·.avoids key) :=
    asks_bind (asks_bind (asks_discard (move_avoids distinct)) fun _ => asks_pure _) fun _ =>
      asks_pure _
  induction actions generalizing index with
  | nil => exact asks_pure _
  | cons inner rest ih =>
      refine asks_bind (asks_ask distinct) fun _ => ?_
      refine asks_bind (avoids_of_looks (obstacle_looks inner index)) fun found => ?_
      split
      · exact fails _ _
      · refine asks_bind (asks_outcome (avoids_of_passes (showThenDoInner_passes inner)))
          fun acted => ?_
        split
        · exact fails _ _
        · split
          · exact asks_bind (avoids_of_passes (pause_passes delay)) fun _ => ih _
          · exact ih _

theorem runActions_avoids {other : String} (distinct : other ≠ key) (actions : List InnerAction)
    (delay : Option Nat) (assessment : Assessment) :
    (runActions other actions delay assessment).Asks (·.avoids key) := by
  refine asks_bind (avoids_of_looks (delayOf_looks delay)) fun wait => ?_
  refine asks_bind (begin_avoids distinct) fun _ => ?_
  refine asks_bind (runInner_avoids distinct wait 0 actions) fun failed => ?_
  split
  · exact asks_pure _
  · refine asks_bind (asks_page trivial) fun _ => ?_
    exact asks_bind (asks_discard (move_avoids distinct)) fun _ => asks_pure _

/-! Operations. -/

theorem trigger_custody (step : Step) (mode : Mode)
    (completes : step.hasObjectives = true → step.key = key → mayMeddle)
    (sequence : step.body = .single → step.isSequence = true → mayMeddle) :
    (trigger step mode).Honours (custody key mayMeddle) (fun _ => True) (fun _ _ => True)
      (fun _ => True) := by
  refine (composes_custody abides_true).trigger mode (fun aims => ?_) (fun actions delay _ => ?_)
    (fun single isSequence => ?_) ?_
  · by_cases own : step.key = key
    · have meddler := completes aims own
      subst own
      exact completeByObjectives_custody meddler
    · exact avoiding_honours abides_true (completeByObjectives_avoids own)
  · by_cases own : step.key = key
    · subst own
      exact runActions_custody _ actions delay _
    · exact avoiding_honours abides_true (runActions_avoids own actions delay _)
  · exact runSequence_custody (sequence single isSequence) step _
  · by_cases own : step.key = key
    · subst own
      exact runStep_custody step mode
    · exact avoiding_honours abides_true (runStep_avoids own mode)

def Operation.meddles (key : String) : Operation → Prop
  | .trigger step _ => (step.key = key ∧ step.hasObjectives = true) ∨
      (step.body = .single ∧ step.isSequence = true)
  | .reset own => own = key

theorem operation_custody (operation : Operation) (key : String) :
    operation.run.Honours (custody key (operation.meddles key)) (fun _ => True)
      (fun _ _ => True) (fun _ => True) := by
  cases operation with
  | trigger step mode =>
      refine honours_discard (trigger_custody step mode ?_ ?_)
      · exact fun aims own => .inl ⟨own, aims⟩
      · exact fun single isSequence => .inr ⟨single, isSequence⟩
  | reset own =>
      have clears : (Control.clearCompleted own).Asks (·.spares) :=
        asks_mono (Control.clearCompleted_keepsBooks own) Request.spares_of_keepsBooks
      refine honours_discard (honours_bind (fun _ _ => True) ?_ fun _ =>
        honours_bind _ (honours_discard (sparing_honours abides_true clears)) fun _ =>
          honours_pure fun _ told => told)
      by_cases same : own = key
      · subst same
        exact reset_honours rfl
      · exact avoiding_honours abides_true (reset_avoids same)

end Guide

/-! The meeting. -/

section

open Guide

variable {ι : Type} [DecidableEq ι] {operations : ι → Operation} {key : String}
variable {start middle now : Meeting ι Unit} {minutes : List (Minute ι)} {minute : Minute ι}

/-- What is in somebody's hand is running, and in nobody else's hand. -/
structure Kept (operations : ι → Operation) (key : String) (minutes : List (Minute ι))
    (now : Meeting ι Unit) : Prop where
  honours : Meeting.Honours (fun speaker => custody key ((operations speaker).meddles key))
    (fun _ => Run.ending (fun _ _ => True) fun _ => True) minutes now
  running : ∀ speaker, Holds key (turnsOf speaker minutes) → now.records.status key = .running
  single : ∀ speaker other, Holds key (turnsOf speaker minutes) →
    Holds key (turnsOf other minutes) → speaker = other

/-- A step in somebody's hand is made idle although it was just seen running, or it is completed by
somebody who does not have it in hand. -/
structure Intrudes (operations : ι → Operation) (key : String) (earlier : List (Minute ι))
    (minute : Minute ι) : Prop where
  held : ∃ holder, Holds key (turnsOf holder earlier)
  meddles : (operations minute.speaker).meddles key
  taken : (minute.turn.moved key = some .idle ∧ ∃ store,
      lastLook (turnsOf minute.speaker earlier) = some store ∧ store.status key = .running) ∨
    (minute.turn.moved key = some .completed ∧ ¬ Holds key (turnsOf minute.speaker earlier))

theorem kept_opening (records : Records) :
    Kept operations key [] (.opening records fun speaker => (operations speaker).run) where
  honours :=
    Meeting.honours_opening fun speaker => operation_custody (operations speaker) key trivial
  running _ holds := absurd holds not_holds_nil
  single _ _ holds := absurd holds not_holds_nil

namespace Kept

variable {speaker : ι} {turn : Turn}

theorem eq_of_look (reached : start.Reached minutes middle)
    (speaks : middle.Speaks ⟨speaker, turn⟩ now) (swift : turn.asked.waits = false) {store : Store}
    (look : lastLook (turnsOf speaker minutes) = some store) : middle.records.store = store := by
  obtain ⟨turns, last⟩ := eq_of_lastLook look
  apply reached.store_of_look last
  cases speaks with
  | turn _ asks _ _ =>
      rw [asks]
      simpa [Dialogue.urgent] using swift

theorem unmoved (kept : Kept operations key minutes middle)
    (reached : start.Reached minutes middle) (speaks : middle.Speaks ⟨speaker, turn⟩ now)
    (unmoved : turn.moved key = none) :
    Kept operations key (minutes ++ [⟨speaker, turn⟩]) now := by
  have holds (other : ι) : Holds key (turnsOf other (minutes ++ [⟨speaker, turn⟩])) ↔
      Holds key (turnsOf other minutes) := by
    by_cases own : other = speaker
    · subst own
      rw [turnsOf_own, holds_of_unmoved unmoved]
    · rw [turnsOf_other minutes (Ne.symm own)]
  have shown {store : Store} (look : turn.look? = some store) :
      turn.asked.waits = false ∧ store = middle.records.store := by
    cases speaks with
    | @turn _ asked _ _ _ _ _ answered =>
        cases asked with
        | states =>
            obtain ⟨told, -⟩ := answered
            exact ⟨rfl, (Option.some.inj look).symm.trans told⟩
        | _ => cases look
  constructor
  · apply speaks.honours kept.honours
    constructor
    · intro _ started
      rw [unmoved] at started
      cases started
    · intro store inHand look
      rw [(shown look).2]
      exact kept.running speaker inHand
    · intro _ _ _ idle
      rw [unmoved] at idle
      cases idle
    · intro store later before look
      rw [(shown look).2, eq_of_look reached speaks (shown look).1 before]
  · intro other inHand
    rw [speaks.status_of_unmoved unmoved]
    exact kept.running other ((holds other).1 inHand)
  · intro first second one another
    exact kept.single first second ((holds first).1 one) ((holds second).1 another)

theorem moved (kept : Kept operations key minutes middle)
    (speaks : middle.Speaks ⟨speaker, turn⟩ now) {status : Status}
    (moved : turn.moved key = some status)
    (free : ∀ other, Holds key (turnsOf other minutes) → other = speaker)
    (unreset : ∀ store, Holds key (turnsOf speaker minutes) →
      lastLook (turnsOf speaker minutes) = some store → status ≠ .idle) :
    Kept operations key (minutes ++ [⟨speaker, turn⟩]) now := by
  obtain ⟨may, status_eq⟩ := speaks.status_of_moved moved
  have holder (other : ι) (inHand : Holds key (turnsOf other (minutes ++ [⟨speaker, turn⟩]))) :
      other = speaker ∧ status = .running := by
    by_cases own : other = speaker
    · subst own
      rw [turnsOf_own, holds_of_moved moved] at inHand
      exact ⟨rfl, inHand⟩
    · rw [turnsOf_other minutes (Ne.symm own)] at inHand
      exact absurd (free other inHand) own
  constructor
  · apply speaks.honours kept.honours
    constructor
    · -- what is in hand is running, and cannot be set running again
      intro inHand started
      rw [moved] at started
      cases started
      rw [kept.running speaker inHand] at may
      cases may
    · intro store _ look
      rw [look?_of_moved moved] at look
      cases look
    · intro store inHand look idle
      rw [moved] at idle
      cases idle
      exact unreset store inHand look rfl
    · intro store later _ look
      rw [look?_of_moved moved] at look
      cases look
  · intro other inHand
    rw [status_eq]
    exact (holder other inHand).2
  · intro first second one another
    rw [(holder first one).1, (holder second another).1]

theorem step (kept : Kept operations key minutes middle) (reached : start.Reached minutes middle)
    (speaks : middle.Speaks minute now) :
    Kept operations key (minutes ++ [minute]) now ∨ Intrudes operations key minutes minute := by
  obtain ⟨speaker, turn⟩ := minute
  cases moved : turn.moved key with
  | none => exact .inl (kept.unmoved reached speaks moved)
  | some status =>
      have allowed := speaks.allowed kept.honours
      have may := (speaks.status_of_moved moved).1
      obtain ⟨move, state, rfl, own, same⟩ := Turn.eq_of_moved moved
      have allowed := allowed own
      rw [same] at allowed
      -- what the speaker has in hand himself, nobody else has
      have alone (inHand : Holds key (turnsOf speaker minutes)) :
          ∀ other, Holds key (turnsOf other minutes) → other = speaker :=
        fun other another => kept.single other speaker another inHand
      cases status with
      | running =>
          -- the step was idle, so nobody had it in hand
          have free (other : ι) : ¬ Holds key (turnsOf other minutes) := by
            intro inHand
            rw [kept.running other inHand] at may
            cases may
          exact .inl (kept.moved speaks moved (fun other inHand => absurd inHand (free other))
            fun _ _ _ => Status.noConfusion)
      | error =>
          exact .inl (kept.moved speaks moved (alone allowed) fun _ _ _ => Status.noConfusion)
      | completed =>
          by_cases inHand : Holds key (turnsOf speaker minutes)
          · exact .inl (kept.moved speaks moved (alone inHand) fun _ _ _ => Status.noConfusion)
          · have meddles := allowed.resolve_left inHand
            by_cases held : ∃ holder, Holds key (turnsOf holder minutes)
            · exact .inr ⟨held, meddles, .inr ⟨moved, inHand⟩⟩
            · exact .inl (kept.moved speaks moved (fun other inHand => absurd ⟨other, inHand⟩ held)
                fun _ _ _ => Status.noConfusion)
      | idle =>
          cases look : lastLook (turnsOf speaker minutes) with
          | none =>
              rw [look] at allowed
              refine .inl (kept.moved speaks moved (alone allowed) fun _ _ seen => ?_)
              rw [look] at seen
              cases seen
          | some store =>
              rw [look] at allowed
              by_cases held : ∃ holder, Holds key (turnsOf holder minutes)
              · -- the look was true, so the step was seen running
                obtain ⟨holder, inHand⟩ := held
                have running : store.status key = .running := by
                  rw [← eq_of_look reached speaks rfl look]
                  exact kept.running holder inHand
                have meddles := allowed.resolve_left fun still => still running
                exact .inr ⟨⟨holder, inHand⟩, meddles, .inl ⟨moved, store, look, running⟩⟩
              · exact .inl (kept.moved speaks moved
                  (fun other inHand => absurd ⟨other, inHand⟩ held)
                  fun _ inHand => absurd ⟨speaker, inHand⟩ held)

end Kept

theorem kept_or_intruded (key : String) {records : Records}
    (reached : (Meeting.opening records fun speaker => (operations speaker).run).Reached
      minutes now) :
    Kept operations key minutes now ∨ ∃ earlier minute later,
      minutes = earlier ++ minute :: later ∧ Intrudes operations key earlier minute := by
  induction reached with
  | start => exact .inl (kept_opening records)
  | @turn minutes middle minute now reached speaks ih =>
      rcases ih with kept | ⟨earlier, intruder, later, rfl, intrudes⟩
      · rcases kept.step reached speaks with kept | intrudes
        · exact .inl kept
        · exact .inr ⟨minutes, minute, [], rfl, intrudes⟩
      · exact .inr ⟨earlier, intruder, later ++ [minute], by simp, intrudes⟩

/-- As long as a step is kept, only who has it in hand moves it. -/
theorem Kept.eq_holder (kept : Kept operations key minutes middle) {speaker holder : ι}
    {turn : Turn} {status : Status} (speaks : middle.Speaks ⟨speaker, turn⟩ now)
    (still : Kept operations key (minutes ++ [⟨speaker, turn⟩]) now)
    (held : Holds key (turnsOf holder minutes)) (moved : turn.moved key = some status) :
    speaker = holder := by
  apply Classical.byContradiction
  intro other
  -- otherwise the step would run on in the same hand, and a running step is not set running
  obtain ⟨may, status_eq⟩ := speaks.status_of_moved moved
  have running := still.running holder (by rwa [turnsOf_other minutes other])
  rw [status_eq] at running
  rw [kept.running holder held, running] at may
  cases may

/-- However triggers and resets are interleaved: between the moment an operation sets a step running
and the moment it moves the step again itself, no other one moves the step, unless somebody makes
the step idle although he sees it running, or completes it without having it in hand. Only resets of
the step, triggers of it with objectives, and sequences can do that. -/
theorem left_alone_until_intrusion {records : Records} {earlier later : List (Minute ι)}
    {holder speaker : ι} {turn : Turn} {status : Status}
    (reached : (Meeting.opening records fun speaker => (operations speaker).run).Reached
      (earlier ++ ⟨speaker, turn⟩ :: later) now)
    (held : Holds key (turnsOf holder earlier)) (other : speaker ≠ holder)
    (moved : turn.moved key = some status) :
    ∃ first intruder rest, earlier ++ [⟨speaker, turn⟩] = first ++ intruder :: rest ∧
      Intrudes operations key first intruder := by
  obtain ⟨before, after, opening, speaks, -⟩ := reached.cut
  rcases kept_or_intruded key opening with kept | ⟨first, intruder, rest, rfl, intrudes⟩
  · rcases kept.step opening speaks with still | intrudes
    · exact absurd (kept.eq_holder speaks still held moved) other
    · exact ⟨earlier, ⟨speaker, turn⟩, [], rfl, intrudes⟩
  · exact ⟨first, intruder, rest ++ [⟨speaker, turn⟩], by simp, intrudes⟩

def pressAndReset : Bool → Operation
  | false => .trigger detour .commit
  | true => .reset detour.key

/-- The press is interrupted while it has the step in hand, which is thereupon made idle. -/
theorem detour_taken_away :
    ∃ earlier turn now,
      (Meeting.opening ⟨[], []⟩ fun speaker => (pressAndReset speaker).run).Reached
        (earlier ++ [⟨true, turn⟩]) now ∧
      Holds detour.key (turnsOf false earlier) ∧ turn.moved detour.key = some .idle ∧
      ∃ first intruder rest, earlier ++ [⟨true, turn⟩] = first ++ intruder :: rest ∧
        Intrudes pressAndReset detour.key first intruder := by
  let order := [false, false, false, false, true]
  let opening := Meeting.opening ⟨[], []⟩ fun speaker => (pressAndReset speaker).run
  let interrupted := Meeting.attend roadside order opening
  have whole : (Meeting.attend roadside (order ++ [true]) opening).1 = interrupted.1 ++
      [⟨true, .move ⟨detour.key, .idle, none, none⟩, .ok .fresh⟩] := rfl
  have reached := Meeting.attend_reached roadside (order ++ [true]) opening
  rw [whole] at reached
  have held : Holds detour.key (turnsOf false interrupted.1) := rfl
  exact ⟨_, _, _, reached, held, rfl, left_alone_until_intrusion reached held (by decide) rfl⟩

end

end Walkthrough
