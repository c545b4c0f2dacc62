import Walkthrough.Proofs.Meeting
import Walkthrough.Proofs.Composing
import Walkthrough.Proofs.Tours
/-!
Sequences that are run side by side. A call either finds its container being walked, and is turned
away, or it enters the container in the same moment and leaves it at its end, whatever the end is.
So at every point the active sequences are those of the calls that have entered and not ended, no
two of which walk the same container.
-/

namespace Walkthrough

def Request.stays : Request → Bool
  | enterSequence _ | leaveSequence _ => false
  | _ => true

def Request.ofStep (key : String) : Request → Prop
  | move asked => asked.step = key
  | request => request.spares = true

theorem Request.stays_of_spares (request : Request) (spares : request.spares = true) :
    request.stays = true := by
  cases request <;> simp_all [Request.spares, stays]

theorem Request.stays_of_ofStep {key : String} (request : Request) (own : request.ofStep key) :
    request.stays = true := by
  cases request <;> simp_all [ofStep, Request.spares, stays]

theorem Request.ofStep_of_spares {key : String} (request : Request)
    (spares : request.spares = true) : request.ofStep key := by
  cases request <;> simp_all [ofStep, Request.spares]

theorem Records.active_of_stays {before after : Records} {asked : Request} {reply : asked.Answer}
    (stays : asked.stays = true) (answered : before.Answers asked reply after) :
    after.active = before.active := by
  cases asked with
  | move move => exact (Moves.sameBut answered).active
  | setIndex step index =>
      obtain rfl := answered
      rfl
  | enterSequence _ | leaveSequence _ => cases stays
  | _ => rw [eq_of_answers rfl answered]

namespace Dialogue

variable {α β : Type} {selector : String}

/-- The sequence is left at the end, and neither left nor entered before. -/
def Inside (selector : String) : Dialogue Request.Answer α → Prop
  | .done _ => False
  | .ask asked next =>
      (asked = .leaveSequence selector ∧ ∀ reply, (next reply).isDone = true) ∨
        (asked.stays = true ∧ ∀ reply, (next reply).Inside selector)

def Enters (selector : String) : Dialogue Request.Answer α → Prop
  | .done _ => False
  | .ask asked next => asked = .enterSequence selector ∧ ∀ reply, (next reply).Inside selector

theorem inside_bind {dialogue : Dialogue Request.Answer α}
    {continuation : α → Dialogue Request.Answer β} (stays : dialogue.Asks (·.stays = true))
    (leaves : ∀ value, (continuation value).Inside selector) :
    (dialogue.bind continuation).Inside selector := by
  induction dialogue with
  | done value => exact leaves value
  | ask asked next ih => exact .inr ⟨stays.1, fun reply => ih reply (stays.2 reply)⟩

theorem Inside.not_done {talk : Dialogue Request.Answer α} (inside : talk.Inside selector) :
    talk.isDone = false := by
  cases talk with
  | done value => exact inside.elim
  | ask asked next => rfl

theorem Enters.not_inside {talk : Dialogue Request.Answer α} (enters : talk.Enters selector) :
    ¬ talk.Inside selector := by
  cases talk with
  | done value => exact enters.elim
  | ask asked next =>
      obtain ⟨rfl, -⟩ := enters
      rintro (⟨same, -⟩ | ⟨stays, -⟩)
      · cases same
      · cases stays

end Dialogue

namespace Guide

open Run

variable {α : Type} {key : String} {step : Step}

/-! What the runs ask for. -/

theorem reset_ofStep (key : String) : (Run.reset key).Asks (·.ofStep key) :=
  asks_reset rfl rfl

theorem begin_ofStep (key : String) : (begin key).Asks (·.ofStep key) :=
  asks_begin rfl rfl rfl

theorem runStep_ofStep (step : Step) (mode : Mode) :
    (runStep step mode).Asks (·.ofStep step.key) :=
  asks_runStep Request.ofStep_of_spares (fun _ _ => rfl) mode

theorem completeByObjectives_ofStep (step : Step) :
    (completeByObjectives step).Asks (·.ofStep step.key) := by
  refine asks_completeByObjectives rfl (fun request keeps => ?_) rfl rfl
  exact Request.ofStep_of_spares request (Request.spares_of_keepsBooks request keeps)

theorem composes_stays : Composes fun _ run => run.Asks (·.stays = true) where
  spared spares := asks_mono spares Request.stays_of_spares
  reached _ _ := asks_ask rfl
  bind first second := asks_bind first second
  outcome asks := asks_outcome asks

theorem stays_of_ofStep {run : Run α} (own : run.Asks (·.ofStep key)) :
    run.Asks (·.stays = true) :=
  asks_mono own Request.stays_of_ofStep

theorem enclosed_stays (step : Step) (showOnly : Bool) :
    (enclosed step showOnly).Asks (·.stays = true) := by
  have walks : (walk step showOnly).Asks (·.stays = true) :=
    composes_stays.walk (fun step mode => stays_of_ofStep (runStep_ofStep step mode))
      (fun key => stays_of_ofStep (reset_ofStep key))
      (fun step => stays_of_ofStep (completeByObjectives_ofStep step)) step showOnly
  refine asks_bind (stays_of_ofStep (begin_ofStep _)) fun _ => asks_bind ?_ fun _ => ?_
  · refine asks_tryCatch walks fun fault => asks_bind ?_ fun _ => asks_throw _
    exact asks_discard (asks_move rfl)
  · exact asks_discard (asks_move rfl)

/-! The places of a call. -/

def entering (step : Step) (showOnly : Bool) : Run String := do
  Run.ask (.enterSequence step.target)
  leaving step.target (enclosed step showOnly)
  return step.target

theorem runSequence_run (step : Step) (showOnly : Bool) :
    (runSequence step showOnly).run =
      .ask .activeSequences fun (active : List String) =>
        if active.contains step.target = true then .done (.ok step.target)
        else (entering step showOnly).run :=
  rfl

theorem run_outcome_bind {β : Type} (run : Run α) (next : Except Fault α → Run β) :
    (Run.outcome run >>= next).run = run.run.bind fun result => (next result).run :=
  Dialogue.bind_assoc _ _ _

theorem run_leaving_bind {β : Type} (selector : String) (run : Run α) (next : α → Run β) :
    (leaving selector run >>= next).run =
      run.run.bind fun result => .ask (.leaveSequence selector) fun _ =>
        match result with
        | .ok value => (next value).run
        | .error fault => .done (.error fault) := by
  unfold leaving
  rw [bind_assoc, run_outcome_bind]
  congr 1
  funext result
  cases result with
  | ok value => rfl
  | error fault => rfl

theorem entering_enters (step : Step) (showOnly : Bool) :
    (entering step showOnly).run.Enters step.target := by
  refine ⟨rfl, fun _ => ?_⟩
  change ((leaving step.target (enclosed step showOnly) >>= fun _ =>
    pure step.target).run).Inside step.target
  rw [run_leaving_bind]
  refine Dialogue.inside_bind (enclosed_stays step showOnly) fun result => ?_
  refine .inl ⟨rfl, fun _ => ?_⟩
  cases result with
  | ok value => rfl
  | error fault => rfl

theorem runSequence_outside (step : Step) (showOnly : Bool) (selector : String) :
    ¬ (runSequence step showOnly).run.Inside selector := by
  rw [runSequence_run]
  rintro (⟨same, -⟩ | ⟨-, inside⟩)
  · cases same
  · have turned := inside [step.target]
    simp [Dialogue.Inside] at turned

/-- Where a call stands: before its first turn, turned away, about to enter, inside, or at its
end. -/
inductive Place (step : Step) (showOnly : Bool) :
    List Turn → Dialogue Request.Answer (Except Fault String) → Prop where
  | outside {talk} (starts : talk = (runSequence step showOnly).run) : Place step showOnly [] talk
  | away {active : List String} {talk} (walked : active.contains step.target = true)
      (done : talk = .done (.ok step.target)) :
      Place step showOnly [⟨.activeSequences, active⟩] talk
  | entering {active : List String} {talk} (free : active.contains step.target = false)
      (enters : talk.Enters step.target) : Place step showOnly [⟨.activeSequences, active⟩] talk
  | inside {active : List String} {turns talk} (free : active.contains step.target = false)
      (inside : talk.Inside step.target) :
      Place step showOnly
        (⟨.activeSequences, active⟩ :: ⟨.enterSequence step.target, ()⟩ :: turns) talk
  | ended {active : List String} {turns talk} (free : active.contains step.target = false)
      (done : talk.isDone = true) :
      Place step showOnly
        (⟨.activeSequences, active⟩ :: ⟨.enterSequence step.target, ()⟩ :: turns) talk

def Passed (step : Step) (turns : List Turn) : Prop :=
  ∃ (active : List String) (rest : List Turn),
    turns = ⟨.activeSequences, active⟩ :: rest ∧ active.contains step.target = false

def Entered (step : Step) (turns : List Turn) : Prop :=
  ∃ look rest, turns = look :: ⟨.enterSequence step.target, ()⟩ :: rest

namespace Place

variable {showOnly : Bool} {turns : List Turn}
variable {talk : Dialogue Request.Answer (Except Fault String)}

theorem inside_iff (place : Place step showOnly turns talk) :
    talk.Inside step.target ↔ Entered step turns ∧ talk.isDone = false := by
  cases place with
  | outside starts =>
      subst starts
      simp [Entered, runSequence_outside]
  | away _ done =>
      subst done
      simp [Entered, Dialogue.Inside]
  | entering _ enters =>
      simp [Entered, enters.not_inside]
  | inside _ inside =>
      constructor
      · intro _
        exact ⟨⟨_, _, rfl⟩, inside.not_done⟩
      · intro _
        exact inside
  | ended _ done =>
      constructor
      · intro inside
        rw [inside.not_done] at done
        cases done
      · rintro ⟨-, undone⟩
        rw [undone] at done
        cases done

theorem passed (place : Place step showOnly turns talk) (passed : Passed step turns) :
    Entered step turns ∨ talk.Enters step.target := by
  cases place with
  | outside _ =>
      obtain ⟨_, _, same, -⟩ := passed
      cases same
  | away walked _ =>
      obtain ⟨_, _, same, free⟩ := passed
      cases same
      rw [walked] at free
      cases free
  | entering _ enters => exact .inr enters
  | inside | ended => exact .inl ⟨_, _, rfl⟩

theorem of_refused (place : Place step showOnly turns talk) (spoken : turns ≠ [])
    (refused : ¬ Passed step turns) :
    (∃ active : List String, turns = [⟨.activeSequences, active⟩] ∧ step.target ∈ active) ∧
      talk = .done (.ok step.target) := by
  cases place with
  | outside _ => exact absurd rfl spoken
  | away walked done => exact ⟨⟨_, rfl, by simpa using walked⟩, done⟩
  | entering free | inside free | ended free => exact absurd ⟨_, _, rfl, free⟩ refused

end Place

end Guide

/-! The meeting. -/

section

open Guide

variable {ι : Type} [DecidableEq ι] {steps : ι → Step} {shows : ι → Bool}
variable {start middle now : Meeting ι String} {minutes : List (Minute ι)} {minute : Minute ι}

/-- The calls that are inside are those of the active sequences, with one call for each; whoever is
about to enter has the floor, and finds his container free. -/
structure Exact (steps : ι → Step) (shows : ι → Bool) (minutes : List (Minute ι))
    (now : Meeting ι String) : Prop where
  place : ∀ speaker,
    Place (steps speaker) (shows speaker) (turnsOf speaker minutes) (now.talks speaker)
  active : ∀ selector, selector ∈ now.records.active ↔
    ∃ speaker, (steps speaker).target = selector ∧ (now.talks speaker).Inside selector
  single : ∀ {speaker other}, (now.talks speaker).Inside (steps speaker).target →
    (now.talks other).Inside (steps other).target →
    (steps speaker).target = (steps other).target → speaker = other
  entering : ∀ speaker, (now.talks speaker).Enters (steps speaker).target →
    now.floor = some speaker ∧ (steps speaker).target ∉ now.records.active

theorem exact_opening (records : Records) (empty : records.active = []) :
    Exact steps shows [] (.opening records fun speaker =>
      runSequence (steps speaker) (shows speaker)) where
  place speaker := .outside rfl
  active selector := by
    change selector ∈ records.active ↔ _
    rw [empty]
    constructor
    · intro member
      cases member
    · rintro ⟨speaker, -, inside⟩
      exact absurd inside (runSequence_outside _ _ _)
  single inside := absurd inside (runSequence_outside _ _ _)
  entering speaker enters := by
    cases enters.1

namespace Exact

variable {speaker : ι} {asked : Request} {reply : asked.Answer} {records : Records}
variable {rest : Dialogue Request.Answer (Except Fault String)}

theorem heard (exact : Exact steps shows minutes middle)
    (free : ∀ other, middle.floor = some other → other = speaker)
    (place : Place (steps speaker) (shows speaker)
      (turnsOf speaker minutes ++ [⟨asked, reply⟩]) rest)
    (active : ∀ selector, selector ∈ records.active ↔
      (∃ other, other ≠ speaker ∧ (steps other).target = selector ∧
        (middle.talks other).Inside selector) ∨
      ((steps speaker).target = selector ∧ rest.Inside selector))
    (single : rest.Inside (steps speaker).target → ∀ other, other ≠ speaker →
      (middle.talks other).Inside (steps other).target →
      (steps other).target ≠ (steps speaker).target)
    (entering : rest.Enters (steps speaker).target →
      asked.waits = false ∧ (steps speaker).target ∉ records.active) :
    Exact steps shows (minutes ++ [⟨speaker, asked, reply⟩])
      (middle.heard speaker asked records rest) := by
  have own := Meeting.heard_talk_own middle speaker asked records rest
  have others {other : ι} (distinct : other ≠ speaker) :
      (middle.heard speaker asked records rest).talks other = middle.talks other :=
    Meeting.heard_talk_other middle distinct asked records rest
  constructor
  · intro other
    by_cases same : other = speaker
    · subst same
      rw [turnsOf_own, own]
      exact place
    · rw [turnsOf_other minutes (Ne.symm same), others same]
      exact exact.place other
  · intro selector
    rw [Meeting.heard_records, active]
    constructor
    · rintro (⟨other, distinct, target, inside⟩ | ⟨target, inside⟩)
      · exact ⟨other, target, by rwa [others distinct]⟩
      · exact ⟨speaker, target, by rwa [own]⟩
    · rintro ⟨other, target, inside⟩
      by_cases same : other = speaker
      · subst same
        rw [own] at inside
        exact .inr ⟨target, inside⟩
      · rw [others same] at inside
        exact .inl ⟨other, same, target, inside⟩
  · intro first second inside within target
    by_cases same : first = speaker
    · by_cases also : second = speaker
      · rw [same, also]
      · subst same
        rw [own] at inside
        rw [others also] at within
        exact absurd target.symm (single inside second also within)
    · rw [others same] at inside
      by_cases also : second = speaker
      · subst also
        rw [own] at within
        exact absurd target (single within first same inside)
      · rw [others also] at within
        exact exact.single inside within target
  · intro other enters
    by_cases same : other = speaker
    · subst same
      rw [own] at enters
      obtain ⟨swift, missing⟩ := entering enters
      have urgent : rest.urgent = true := by
        cases rest with
        | done _ => exact enters.elim
        | ask request next =>
            obtain ⟨rfl, -⟩ := enters
            rfl
      refine ⟨?_, missing⟩
      simp [Meeting.heard, swift, urgent]
    · -- whoever was about to enter had the floor
      rw [others same] at enters
      exact absurd (free other (exact.entering other enters).1) same

theorem active_iff (exact : Exact steps shows minutes middle) (speaker : ι) (selector : String) :
    selector ∈ middle.records.active ↔
      (∃ other, other ≠ speaker ∧ (steps other).target = selector ∧
        (middle.talks other).Inside selector) ∨
      ((steps speaker).target = selector ∧ (middle.talks speaker).Inside selector) := by
  rw [exact.active]
  constructor
  · rintro ⟨other, target, inside⟩
    by_cases same : other = speaker
    · subst same
      exact .inr ⟨target, inside⟩
    · exact .inl ⟨other, same, target, inside⟩
  · rintro (⟨other, -, target, inside⟩ | ⟨target, inside⟩)
    · exact ⟨other, target, inside⟩
    · exact ⟨speaker, target, inside⟩

theorem heard_look (exact : Exact steps shows minutes middle)
    (free : ∀ other, middle.floor = some other → other = speaker)
    (outside : turnsOf speaker minutes = [])
    (asks : middle.talks speaker = (runSequence (steps speaker) (shows speaker)).run) :
    Exact steps shows (minutes ++ [⟨speaker, .activeSequences, middle.records.active⟩])
      (middle.heard speaker .activeSequences middle.records
        (if middle.records.active.contains (steps speaker).target = true then
          .done (.ok (steps speaker).target)
        else (Guide.entering (steps speaker) (shows speaker)).run)) := by
  have before : ¬ (middle.talks speaker).Inside (steps speaker).target := by
    rw [asks]
    exact runSequence_outside _ _ _
  have enters := entering_enters (steps speaker) (shows speaker)
  cases walked : middle.records.active.contains (steps speaker).target with
  | true =>
      rw [if_pos rfl]
      apply exact.heard free
      · rw [outside]
        exact .away walked rfl
      · intro selector
        rw [exact.active_iff speaker]
        have nothing : ∀ result : Except Fault String,
            ¬ (Dialogue.done result : Dialogue Request.Answer _).Inside selector := fun _ => id
        constructor
        · rintro (others | ⟨rfl, inside⟩)
          · exact .inl others
          · exact absurd inside before
        · rintro (others | ⟨-, inside⟩)
          · exact .inl others
          · exact absurd inside (nothing _)
      · exact False.elim
      · exact False.elim
  | false =>
      rw [if_neg Bool.false_ne_true]
      have missing : (steps speaker).target ∉ middle.records.active := by simpa using walked
      apply exact.heard free
      · rw [outside]
        exact .entering walked enters
      · intro selector
        rw [exact.active_iff speaker]
        constructor
        · rintro (others | ⟨rfl, inside⟩)
          · exact .inl others
          · exact absurd inside before
        · rintro (others | ⟨rfl, inside⟩)
          · exact .inl others
          · exact absurd inside enters.not_inside
      · intro inside
        exact absurd inside enters.not_inside
      · intro _
        exact ⟨rfl, missing⟩

theorem heard_enter {next : Unit → Dialogue Request.Answer (Except Fault String)}
    (exact : Exact steps shows minutes middle)
    (free : ∀ other, middle.floor = some other → other = speaker) {active : List String}
    (own : turnsOf speaker minutes = [⟨.activeSequences, active⟩])
    (unwalked : active.contains (steps speaker).target = false)
    (asks : middle.talks speaker = .ask (.enterSequence (steps speaker).target) next)
    (inside : ∀ reply, (next reply).Inside (steps speaker).target) :
    Exact steps shows (minutes ++ [⟨speaker, .enterSequence (steps speaker).target, ()⟩])
      (middle.heard speaker (.enterSequence (steps speaker).target)
        (middle.records.enter (steps speaker).target) (next ())) := by
  have enters : (middle.talks speaker).Enters (steps speaker).target := by
    rw [asks]
    exact ⟨rfl, inside⟩
  have missing := (exact.entering speaker enters).2
  have entered : (middle.records.enter (steps speaker).target).active =
      middle.records.active ++ [(steps speaker).target] := by
    simp [Records.enter, missing]
  apply exact.heard free
  · rw [own]
    exact .inside unwalked (inside ())
  · intro selector
    rw [entered, List.mem_append, List.mem_singleton, exact.active_iff speaker]
    constructor
    · rintro ((others | ⟨rfl, within⟩) | rfl)
      · exact .inl others
      · exact absurd within enters.not_inside
      · exact .inr ⟨rfl, inside ()⟩
    · rintro (others | ⟨rfl, -⟩)
      · exact .inl (.inl others)
      · exact .inr rfl
  · intro _ other _ within same
    exact missing (same ▸ (exact.active _).2 ⟨other, rfl, within⟩)
  · intro again
    exact absurd (inside ()) again.not_inside

theorem heard_stay {next : asked.Answer → Dialogue Request.Answer (Except Fault String)}
    (exact : Exact steps shows minutes middle)
    (free : ∀ other, middle.floor = some other → other = speaker) {active : List String}
    {turns : List Turn}
    (own : turnsOf speaker minutes = ⟨.activeSequences, active⟩ ::
      ⟨.enterSequence (steps speaker).target, ()⟩ :: turns)
    (unwalked : active.contains (steps speaker).target = false)
    (within : (middle.talks speaker).Inside (steps speaker).target)
    (inside : (next reply).Inside (steps speaker).target)
    (same : records.active = middle.records.active) :
    Exact steps shows (minutes ++ [⟨speaker, asked, reply⟩])
      (middle.heard speaker asked records (next reply)) := by
  apply exact.heard free
  · rw [own]
    exact .inside unwalked inside
  · intro selector
    rw [same, exact.active_iff speaker]
    constructor
    · rintro (others | ⟨rfl, -⟩)
      · exact .inl others
      · exact .inr ⟨rfl, inside⟩
    · rintro (others | ⟨rfl, -⟩)
      · exact .inl others
      · exact .inr ⟨rfl, within⟩
  · intro _ other distinct among target
    exact distinct (exact.single among within target)
  · intro enters
    exact absurd inside enters.not_inside

theorem heard_leave {rest : Dialogue Request.Answer (Except Fault String)}
    (exact : Exact steps shows minutes middle)
    (free : ∀ other, middle.floor = some other → other = speaker) {active : List String}
    {turns : List Turn}
    (own : turnsOf speaker minutes = ⟨.activeSequences, active⟩ ::
      ⟨.enterSequence (steps speaker).target, ()⟩ :: turns)
    (unwalked : active.contains (steps speaker).target = false)
    (within : (middle.talks speaker).Inside (steps speaker).target)
    (done : rest.isDone = true) :
    Exact steps shows (minutes ++ [⟨speaker, .leaveSequence (steps speaker).target, ()⟩])
      (middle.heard speaker (.leaveSequence (steps speaker).target)
        (middle.records.leave (steps speaker).target) rest) := by
  have outside (selector : String) : ¬ rest.Inside selector := by
    intro inside
    rw [inside.not_done] at done
    cases done
  apply exact.heard free
  · rw [own]
    exact .ended unwalked done
  · intro selector
    have left : selector ∈ (middle.records.leave (steps speaker).target).active ↔
        selector ∈ middle.records.active ∧ selector ≠ (steps speaker).target := by
      simp [Records.leave]
    rw [left, exact.active_iff speaker]
    constructor
    · rintro ⟨others | ⟨rfl, -⟩, distinct⟩
      · exact .inl others
      · exact absurd rfl distinct
    · rintro (⟨other, distinct, rfl, among⟩ | ⟨-, inside⟩)
      · exact ⟨.inl ⟨other, distinct, rfl, among⟩,
          fun target => distinct (exact.single among within target)⟩
      · exact absurd inside (outside _)
  · intro inside
    exact absurd inside (outside _)
  · intro enters
    cases rest with
    | done _ => exact enters.elim
    | ask _ _ => cases done

theorem step (exact : Exact steps shows minutes middle) (speaks : middle.Speaks minute now) :
    Exact steps shows (minutes ++ [minute]) now := by
  cases speaks with
  | @turn speaker asked next free asks reply records answered =>
      have place := exact.place speaker
      rw [asks] at place
      generalize own : turnsOf speaker minutes = turns at place
      cases place with
      | outside starts =>
          have begins := asks.trans starts
          rw [runSequence_run] at starts
          cases starts
          obtain ⟨rfl, rfl⟩ := answered
          exact exact.heard_look free own begins
      | away _ done => cases done
      | entering unwalked enters =>
          obtain ⟨rfl, inside⟩ := enters
          obtain rfl := answered
          exact exact.heard_enter free own unwalked asks inside
      | inside unwalked inside =>
          have within : (middle.talks speaker).Inside (steps speaker).target := by
            rw [asks]
            exact inside
          rcases inside with ⟨rfl, done⟩ | ⟨stays, inside⟩
          · obtain rfl := answered
            exact exact.heard_leave free own unwalked within (done ())
          · exact exact.heard_stay free own unwalked within (inside reply)
              (Records.active_of_stays stays answered)
      | ended _ done => cases done

end Exact

/-- A call that was told otherwise has ended with that, and left the records as they were. -/
structure TurnedAway (step : Step) (start : Meeting ι String) (minutes : List (Minute ι))
    (now : Meeting ι String) (speaker : ι) : Prop where
  only : ∃ active : List String, turnsOf speaker minutes = [⟨.activeSequences, active⟩] ∧
    step.target ∈ active
  ended : now.talks speaker = .done (.ok step.target)
  harmless : ∀ earlier turn later, minutes = earlier ++ ⟨speaker, turn⟩ :: later →
    ∃ before after, start.Reached earlier before ∧ before.Speaks ⟨speaker, turn⟩ after ∧
      after.records = before.records

/-- The active sequences are those of the calls that have passed the check and not ended. -/
structure Guarded (steps : ι → Step) (start : Meeting ι String) (minutes : List (Minute ι))
    (now : Meeting ι String) : Prop where
  active : ∀ selector, selector ∈ now.records.active ↔
    ∃ speaker, (steps speaker).target = selector ∧
      Entered (steps speaker) (turnsOf speaker minutes) ∧ (now.talks speaker).isDone = false
  entered : ∀ speaker, Passed (steps speaker) (turnsOf speaker minutes) →
    Entered (steps speaker) (turnsOf speaker minutes) ∨ now.floor = some speaker
  single : ∀ speaker other, Passed (steps speaker) (turnsOf speaker minutes) →
    (now.talks speaker).isDone = false → Passed (steps other) (turnsOf other minutes) →
    (now.talks other).isDone = false → (steps speaker).target = (steps other).target →
    speaker = other
  away : ∀ speaker, turnsOf speaker minutes ≠ [] →
    ¬ Passed (steps speaker) (turnsOf speaker minutes) →
    TurnedAway (steps speaker) start minutes now speaker
  released : (∀ speaker, (now.talks speaker).isDone = true) → now.records.active = []

theorem exact_of_reached {records : Records} (empty : records.active = [])
    (reached : (Meeting.opening records fun speaker =>
      runSequence (steps speaker) (shows speaker)).Reached minutes now) :
    Exact steps shows minutes now := by
  induction reached with
  | start => exact exact_opening records empty
  | turn _ speaks ih => exact ih.step speaks

theorem turnedAway_of_look {step : Step} {speaker : ι} {active : List String}
    (reached : start.Reached minutes now)
    (only : turnsOf speaker minutes = [⟨.activeSequences, active⟩]) (walked : step.target ∈ active)
    (ended : now.talks speaker = .done (.ok step.target)) :
    TurnedAway step start minutes now speaker where
  only := ⟨active, only, walked⟩
  ended := ended
  harmless := by
    rintro earlier turn later rfl
    obtain ⟨before, after, passed, speaks, -⟩ := reached.cut
    have look : turn = ⟨.activeSequences, active⟩ := by
      have own : turn ∈ turnsOf speaker (earlier ++ ⟨speaker, turn⟩ :: later) := by
        rw [List.append_cons, turnsOf_append, turnsOf_own]
        simp
      rw [only, List.mem_singleton] at own
      exact own
    subst look
    refine ⟨before, after, passed, speaks, ?_⟩
    cases speaks with
    | turn _ _ _ answered => exact answered.2

/-- However calls of sequences are interleaved, and whatever the page does to them, the active
sequences are exactly those of the calls that have passed the check and not ended, no two of which
have the same selector; a call that is turned away changes nothing, and in the end no sequence is
active. -/
theorem guard_exact {records : Records} (empty : records.active = [])
    (reached : (Meeting.opening records fun speaker =>
      runSequence (steps speaker) (shows speaker)).Reached minutes now) :
    Guarded steps (.opening records fun speaker => runSequence (steps speaker) (shows speaker))
      minutes now := by
  have exact : Exact steps shows minutes now := exact_of_reached empty reached
  have inside {speaker : ι} : (now.talks speaker).Inside (steps speaker).target ↔
      Entered (steps speaker) (turnsOf speaker minutes) ∧
        (now.talks speaker).isDone = false :=
    (exact.place speaker).inside_iff
  constructor
  · intro selector
    rw [exact.active]
    constructor
    · rintro ⟨speaker, rfl, within⟩
      exact ⟨speaker, rfl, inside.1 within⟩
    · rintro ⟨speaker, rfl, within⟩
      exact ⟨speaker, rfl, inside.2 within⟩
  · intro speaker passed
    rcases (exact.place speaker).passed passed with entered | enters
    · exact .inl entered
    · exact .inr (exact.entering speaker enters).1
  · intro speaker other passed going also lasting target
    rcases (exact.place speaker).passed passed with entered | enters
    · have within := inside.2 ⟨entered, going⟩
      rcases (exact.place other).passed also with followed | follows
      · exact exact.single within (inside.2 ⟨followed, lasting⟩) target
      · have member := (exact.active _).2 ⟨speaker, rfl, within⟩
        rw [target] at member
        exact absurd member (exact.entering other follows).2
    · rcases (exact.place other).passed also with followed | follows
      · have member := (exact.active _).2 ⟨other, rfl, inside.2 ⟨followed, lasting⟩⟩
        rw [← target] at member
        exact absurd member (exact.entering speaker enters).2
      · -- only one of them can have the floor
        have floor := (exact.entering speaker enters).1
        rw [(exact.entering other follows).1] at floor
        exact (Option.some.inj floor).symm
  · intro speaker spoken refused
    obtain ⟨⟨active, only, walked⟩, ended⟩ := (exact.place speaker).of_refused spoken refused
    exact turnedAway_of_look reached only walked ended
  · intro done
    apply List.eq_nil_iff_forall_not_mem.2
    intro selector member
    obtain ⟨speaker, rfl, within⟩ := (exact.active selector).1 member
    have going := within.not_done
    rw [done speaker] at going
    cases going

/-- Two presses of one sequence, of which the second comes while the first is going on. -/
theorem detours_guarded :
    ∃ minutes now, (Meeting.opening ⟨[], []⟩ fun _ : Bool => runSequence detours false).Reached
        minutes now ∧
      Guarded (fun _ => detours)
        (.opening ⟨[], []⟩ fun _ : Bool => runSequence detours false) minutes now ∧
      now.records.active = [detours.target] ∧
      now.talks true = .done (.ok detours.target) := by
  have reached := Meeting.attend_reached crossroads [false, false, false, false, true]
    (.opening ⟨[], []⟩ fun _ : Bool => runSequence detours false)
  refine ⟨_, _, reached, guard_exact rfl reached, ?_, ?_⟩
  · rfl
  · rfl

end

end Walkthrough
