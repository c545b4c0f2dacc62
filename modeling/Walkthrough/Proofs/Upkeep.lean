import Walkthrough.Proofs.Asking
import Walkthrough.Proofs.Moves
import Walkthrough.Guide.Trigger
/-!
What is kept up while a run goes on. An invariant tells of the turns so far and of the statuses of
the steps. A run leads from one invariant to another, or to a third one if it fails. Idle turns,
which neither move a step nor change the marks on its controls, do not disturb what lasts; so the
attempts at a step keep it up if the runs of the step do, or if its way back to idle makes up for
what a failed run has torn, and a sequence keeps it up if all its steps do.
-/

namespace Walkthrough

/-- Requests that neither move a step nor change the marks on the controls. -/
def Request.idles : Request → Bool
  | move _ | page (.markCompleted _) | page (.clearCompleted _) => false
  | _ => true

/-- Requests that leave the records as they are besides. -/
def Request.passes (asked : Request) : Bool :=
  asked.idles && asked.spares

theorem Request.idles_of_passes (request : Request) (passes : request.passes = true) :
    request.idles = true := by
  unfold Request.passes at passes
  exact (Bool.and_eq_true_iff.1 passes).1

theorem Request.spares_of_passes (request : Request) (passes : request.passes = true) :
    request.spares = true := by
  unfold Request.passes at passes
  exact (Bool.and_eq_true_iff.1 passes).2

theorem Request.passes_of_works (request : Request) (works : request.works = true) :
    request.passes = true := by
  cases request with
  | page call =>
      cases call <;> simp_all [Request.works, PageCall.looks, PageCall.works, passes, idles, spares]
  | _ => simp_all [Request.works, Request.looks, passes, idles, spares]

theorem Request.passes_of_looks (request : Request) (looks : request.looks = true) :
    request.passes = true :=
  passes_of_works request (works_of_looks request looks)

def Request.mute : Request → Bool
  | announce _ => false
  | _ => true

theorem Request.mute_of_keepsBooks (request : Request) (keeps : request.keepsBooks = true) :
    request.mute = true := by
  cases request <;> simp_all [keepsBooks, Request.looks, mute]

theorem Request.mute_of_works (request : Request) (works : request.works = true) :
    request.mute = true := by
  cases request <;> simp_all [Request.works, Request.looks, mute]

theorem Request.mute_of_looks (request : Request) (looks : request.looks = true) :
    request.mute = true :=
  mute_of_works request (works_of_looks request looks)

theorem Records.status_of_idles {before after : Records} {asked : Request}
    {reply : asked.Answer} (idles : asked.idles = true)
    (answered : before.Answers asked reply after) : after.status = before.status := by
  cases asked with
  | setIndex step index =>
      obtain rfl := answered
      funext key
      exact setIndex_status before step key index
  | enterSequence selector =>
      obtain rfl := answered
      unfold enter
      split <;> rfl
  | leaveSequence selector =>
      obtain rfl := answered
      rfl
  | move _ => cases idles
  | _ => rw [eq_of_answers rfl answered]

abbrev Invariant := List Turn → (String → Status) → Prop

namespace Invariant

def Implies (stronger weaker : Invariant) : Prop :=
  ∀ ⦃history statuses⦄, stronger history statuses → weaker history statuses

theorem Implies.refl (invariant : Invariant) : Implies invariant invariant :=
  fun _ _ holds => holds

end Invariant

/-- Idle turns do not disturb the invariant. -/
def Lasting (calm : Turn → Prop) (invariant : Invariant) : Prop :=
  ∀ ⦃history statuses turn⦄, turn.asked.idles = true → calm turn →
    invariant history statuses → invariant (history ++ [turn]) statuses

namespace Run

variable {α β : Type} {calm : Turn → Prop} {invariant start middle ends torn lost : Invariant}

/-- From where `start` holds the run leads to where `ends` holds, or fails where `torn` holds, as
long as its turns are calm. -/
def Leads (calm : Turn → Prop) (start ends torn : Invariant) (run : Run α) : Prop :=
  ∀ ⦃history before trace after result⦄, run.Held before trace after result →
    (∀ turn ∈ trace, calm turn) → start history before.status →
    match result with
    | .ok _ => ends (history ++ trace) after.status
    | .error _ => torn (history ++ trace) after.status

def Keeps (calm : Turn → Prop) (invariant : Invariant) (run : Run α) : Prop :=
  ∀ ⦃history before trace after result⦄, run.Held before trace after result →
    (∀ turn ∈ trace, calm turn) → invariant history before.status →
    invariant (history ++ trace) after.status

theorem Leads.keeps {run : Run α} (leads : run.Leads calm invariant invariant invariant) :
    run.Keeps calm invariant := by
  intro history before trace after result held calmly start
  have reached := leads held calmly start
  cases result with
  | ok value => exact reached
  | error fault => exact reached

theorem Keeps.leads {run : Run α} (keeps : run.Keeps calm invariant)
    (tears : invariant.Implies torn) : run.Leads calm invariant invariant torn := by
  intro history before trace after result held calmly start
  have kept := keeps held calmly start
  cases result with
  | ok value => exact kept
  | error fault => exact tears kept

theorem Leads.weaken {run : Run α} (leads : run.Leads calm start ends torn)
    (weaker : torn.Implies lost) : run.Leads calm start ends lost := by
  intro history before trace after result held calmly started
  have reached := leads held calmly started
  cases result with
  | ok value => exact reached
  | error fault => exact weaker reached

/-! How runs are put together. -/

theorem leads_pure (value : α) : (pure value : Run α).Leads calm start start torn := by
  intro history before trace after result held _ started
  obtain ⟨rfl, rfl, rfl⟩ := held_pure.1 held
  simpa using started

theorem leads_throw (fault : Fault) (tears : start.Implies torn) :
    (throw fault : Run α).Leads calm start ends torn := by
  intro history before trace after result held _ started
  obtain ⟨rfl, rfl, rfl⟩ := held_throw.1 held
  simpa using tears started

theorem leads_bind_held {run : Run α} {next : α → Run β}
    (first : run.Leads calm start middle torn)
    (second : ∀ before trace after value, run.Held before trace after (.ok value) →
      (next value).Leads calm middle ends torn) :
    (run >>= next).Leads calm start ends torn := by
  intro history before trace after result held calmly started
  rcases held_bind.1 held with ⟨value, opening, _, rest, head, tail, rfl⟩ | ⟨fault, failed, rfl⟩
  · rw [← List.append_assoc]
    apply second _ _ _ value head tail
    · exact fun turn member => calmly turn (List.mem_append_right _ member)
    · exact first head (fun turn member => calmly turn (List.mem_append_left _ member)) started
  · exact first failed calmly started

theorem leads_bind {run : Run α} {next : α → Run β} (first : run.Leads calm start middle torn)
    (second : ∀ value, (next value).Leads calm middle ends torn) :
    (run >>= next).Leads calm start ends torn :=
  leads_bind_held first fun _ _ _ value _ => second value

theorem leads_discard {run : Run α} (leads : run.Leads calm start ends torn) :
    (discard run).Leads calm start ends torn := by
  intro history before trace after result held calmly started
  obtain ⟨inner, inside, rfl⟩ := held_discard.1 held
  have reached := leads inside calmly started
  cases inner with
  | ok value => exact reached
  | error fault => exact reached

/-- A failure that is caught goes on from what it has torn. -/
theorem leads_outcome_bind {run : Run α} {next : Except Fault α → Run β}
    (first : run.Leads calm start middle torn)
    (done : ∀ value, (next (.ok value)).Leads calm middle ends lost)
    (failed : ∀ fault, (next (.error fault)).Leads calm torn ends lost) :
    (outcome run >>= next).Leads calm start ends lost := by
  intro history before trace after result held calmly started
  obtain ⟨inner, opening, _, rest, head, tail, rfl⟩ := held_outcome_bind.1 held
  rw [← List.append_assoc]
  have later : ∀ turn ∈ rest, calm turn :=
    fun turn member => calmly turn (List.mem_append_right _ member)
  have reached := first head (fun turn member => calmly turn (List.mem_append_left _ member)) started
  cases inner with
  | ok value => exact done value tail later reached
  | error fault => exact failed fault tail later reached

theorem keeps_pure (value : α) : (pure value : Run α).Keeps calm invariant :=
  (leads_pure value).keeps

theorem keeps_throw (fault : Fault) : (throw fault : Run α).Keeps calm invariant :=
  (leads_throw fault (.refl _)).keeps

theorem keeps_bind {run : Run α} {next : α → Run β} (first : run.Keeps calm invariant)
    (second : ∀ value, (next value).Keeps calm invariant) :
    (run >>= next).Keeps calm invariant :=
  (leads_bind (first.leads (.refl _)) fun value => (second value).leads (.refl _)).keeps

theorem keeps_discard {run : Run α} (kept : run.Keeps calm invariant) :
    (discard run).Keeps calm invariant :=
  (leads_discard (kept.leads (.refl _))).keeps

theorem keeps_outcome {run : Run α} (kept : run.Keeps calm invariant) :
    (outcome run).Keeps calm invariant := by
  intro history before trace after result held calmly
  obtain ⟨inner, held, -⟩ := held_outcome.1 held
  exact kept held calmly

theorem keeps_of_asks {allowed : Request → Prop} {run : Run α} (asks : run.Asks allowed)
    (each : ∀ ⦃history⦄ ⦃before : Records⦄ ⦃turn⦄ ⦃after : Records⦄, allowed turn.asked →
      calm turn → before.Answers turn.asked turn.reply after → invariant history before.status →
      invariant (history ++ [turn]) after.status) : run.Keeps calm invariant := by
  intro history before trace after result held
  unfold Held at held
  unfold Asks at asks
  generalize ExceptT.run run = dialogue at held asks
  intro calmly kept
  -- one turn after the other, with the history growing at its end
  induction held generalizing history with
  | done => simpa using kept
  | @ask asked next reply before middle after trace result answered rest ih =>
      rw [List.append_cons]
      apply ih (asks.2 reply)
      · exact fun turn member => calmly turn (List.mem_cons_of_mem _ member)
      · exact @each history before ⟨asked, reply⟩ middle asks.1 (calmly _ List.mem_cons_self)
          answered kept

theorem keeps_of_idles {run : Run α} (lasting : Lasting calm invariant)
    (asks : run.Asks (·.idles)) : run.Keeps calm invariant := by
  refine keeps_of_asks asks ?_
  intro history before turn after idles calmly answered kept
  rw [Records.status_of_idles idles answered]
  exact lasting idles calmly kept

theorem keeps_of_passes {run : Run α} (lasting : Lasting calm invariant)
    (asks : run.Asks (·.passes)) : run.Keeps calm invariant :=
  keeps_of_idles lasting (asks_mono asks Request.idles_of_passes)

theorem keeps_ask {asked : Request} (lasting : Lasting calm invariant)
    (idles : asked.idles = true) : (ask asked).Keeps calm invariant :=
  keeps_of_idles lasting (asks_ask idles)

theorem keeps_status (lasting : Lasting calm invariant) (key : String) :
    (status key).Keeps calm invariant :=
  keeps_bind (keeps_bind (keeps_ask lasting rfl) fun _ => keeps_pure _) fun _ => keeps_pure _

theorem Held.looked {run : Run α} {before after : Records} {trace : List Turn}
    {result : Except Fault α} (held : run.Held before trace after result)
    (looks : run.Asks (·.looks)) : after = before := by
  apply held.spared
  apply asks_mono looks
  intro request looks
  exact Request.spares_of_passes request (Request.passes_of_looks request looks)

end Run

/-! Parts of the runs that pass. -/

namespace Guide

open Run

theorem passes_of_looks {α : Type} {run : Run α} (looks : run.Asks (·.looks)) :
    run.Asks (·.passes) :=
  asks_mono looks Request.passes_of_looks

theorem asks_spares {α : Type} {run : Run α} (asks : run.Asks (·.passes)) :
    run.Asks (·.spares) :=
  asks_mono asks Request.spares_of_passes

theorem pause_passes (delay : Amount) : (Run.pause delay).Asks (·.passes) := by
  refine asks_bind (asks_ofMisuse _) fun positive => ?_
  split
  · exact asks_bind (asks_ofMisuse _) fun _ => ⟨rfl, fun _ => trivial⟩
  · trivial

theorem held_looking_bind {α β : Type} {run : Run α} {next : α → Run β} {before after : Records}
    {trace : List Turn} {result : Except Fault β} (looks : run.Asks (·.looks))
    (returns : run.Returns) :
    (run >>= next).Held before trace after result ↔
      ∃ value opening rest, run.Held before opening before (.ok value) ∧
        (next value).Held before rest after result ∧ trace = opening ++ rest := by
  rw [held_bind]
  constructor
  · rintro (⟨value, opening, _, rest, looked, tail, rfl⟩ | ⟨fault, failed, -⟩)
    · obtain rfl := looked.looked looks
      exact ⟨value, opening, rest, looked, tail, rfl⟩
    · obtain ⟨value, same⟩ := returns failed
      cases same
  · rintro ⟨value, opening, rest, looked, tail, rfl⟩
    exact .inl ⟨value, opening, before, rest, looked, tail, rfl⟩

theorem settings_looks : Run.settings.Asks (·.looks) :=
  asks_ask rfl

theorem perform_passes (command : Command) : command.perform.Asks (·.passes) :=
  asks_bind (asks_ask rfl) fun _ =>
    asks_mono (Command.carryOut_works command) Request.passes_of_works

theorem check_looks (step : Step) : (check step).Asks (·.looks) :=
  Requirement.evaluate_looks _ _

theorem check_returns (step : Step) : (check step).Returns :=
  Requirement.evaluate_returns _ _

theorem ready_returns (step : Step) : (ready step).Returns :=
  returns_bind (check_returns step) fun _ => returns_pure _

theorem ready_looks (step : Step) : (ready step).Asks (·.looks) :=
  asks_bind (check_looks step) fun _ => asks_pure _

theorem objectivesMet_looks (step : Step) : (objectivesMet step).Asks (·.looks) := by
  unfold objectivesMet
  split
  · trivial
  · trivial
  · exact asks_bind (Requirement.evaluate_looks _ _) fun _ => asks_pure _

theorem objectivesMet_returns (step : Step) : (objectivesMet step).Returns := by
  unfold objectivesMet
  split
  · exact returns_pure _
  · exact returns_pure _
  · exact returns_bind (Requirement.evaluate_returns _ _) fun _ => returns_pure _

theorem mayAttempt_looks (attempt : Nat) : (mayAttempt attempt).Asks (·.looks) :=
  asks_bind settings_looks fun _ => asks_ofMisuse _

theorem patience_looks : patience.Asks (·.looks) :=
  asks_bind settings_looks fun _ => asks_pure _

theorem retryPause_passes (attempt : Nat) : (retryPause attempt).Asks (·.passes) := by
  refine asks_bind (passes_of_looks settings_looks) fun _ => asks_bind (asks_ofMisuse _) fun _ => ?_
  split
  · trivial
  · exact asks_bind (pause_passes _) fun _ => asks_pure _

theorem pauseAfter_passes (step : Step) : (pauseAfter step).Asks (·.passes) :=
  asks_bind (passes_of_looks settings_looks) fun _ => pause_passes _

theorem container_looks (selector : String) : (container selector).Asks (·.looks) := by
  refine asks_bind Control.contentRoot_looks fun _ => ?_
  refine asks_bind (Selector.resolve_looks _ _) fun _ => ?_
  split <;> trivial

theorem readChildren_looks (selector : String) (elements : List Element) :
    (readChildren selector elements).Asks (·.looks) := by
  induction elements with
  | nil => trivial
  | cons element rest ih =>
      refine asks_bind (asks_page rfl) fun _ => ?_
      split
      · trivial
      · exact ih
      · exact asks_bind ih fun _ => asks_pure _

theorem children_looks (inside : Element) (selector : String) :
    (children inside selector).Asks (·.looks) := by
  refine asks_bind (Selector.query_looks _ _) fun _ => ?_
  refine asks_bind (readChildren_looks _ _) fun _ => ?_
  split <;> trivial

theorem delayOf_looks (delay : Option Nat) : (delayOf delay).Asks (·.looks) := by
  unfold delayOf
  split
  · trivial
  · exact asks_bind settings_looks fun _ => asks_pure _

theorem obstacle_looks (inner : InnerAction) (index : Nat) :
    (obstacle inner index).Asks (·.looks) := by
  unfold obstacle
  split
  · trivial
  · trivial
  · refine asks_bind settings_looks fun _ => ?_
    refine asks_bind (Requirement.evaluateWithin_looks _ _ _) fun _ => ?_
    split
    · trivial
    · split <;> trivial

theorem showThenDoInner_passes (inner : InnerAction) :
    (showThenDoInner inner).Asks (·.passes) := by
  refine asks_bind (asks_discard (perform_passes _)) fun _ => ?_
  refine asks_bind (passes_of_looks settings_looks) fun _ => ?_
  exact asks_bind (pause_passes _) fun _ => asks_discard (perform_passes _)

/-! Attempts and sequences. -/

section

variable {calm : Turn → Prop} {whole torn lost : Invariant} {step : Step}

/-- What is whole is kept up by the successful runs of the step, and the way back to idle mends
what the other ones have torn. -/
structure Mended (calm : Turn → Prop) (whole torn : Invariant) (step : Step) : Prop where
  lasting : Lasting calm whole
  tears : whole.Implies torn
  runs : ∀ mode, (runStep step mode).Leads calm whole whole torn
  mends : (Run.reset step.key).Leads calm torn whole torn

theorem mended_of_keeps (lasting : Lasting calm whole)
    (runs : ∀ mode, (runStep step mode).Keeps calm whole)
    (resets : (Run.reset step.key).Keeps calm whole) : Mended calm whole whole step where
  lasting := lasting
  tears := .refl _
  runs mode := (runs mode).leads (.refl _)
  mends := resets.leads (.refl _)

theorem Mended.passing {α : Type} {run : Run α} (mended : Mended calm whole torn step)
    (passes : run.Asks (·.passes)) : run.Leads calm whole whole torn :=
  (keeps_of_passes mended.lasting passes).leads mended.tears

theorem Mended.looking {α : Type} {run : Run α} (mended : Mended calm whole torn step)
    (looks : run.Asks (·.looks)) : run.Leads calm whole whole torn :=
  mended.passing (passes_of_looks looks)

theorem recover_leads (mended : Mended calm whole torn step) (attempt : Nat) (fault : Fault) :
    (recover step attempt fault).Leads calm torn whole torn := by
  unfold recover
  split
  · exact leads_throw _ (.refl _)
  · apply leads_bind (leads_discard mended.mends)
    intro _
    exact leads_discard (mended.passing (retryPause_passes _))

theorem showAttempts_leads (mended : Mended calm whole torn step) (patience attempt : Nat) :
    (showAttempts step patience attempt).Leads calm whole whole torn := by
  induction patience generalizing attempt with
  | zero => exact leads_pure _
  | succ patience ih =>
      refine leads_bind (mended.looking (mayAttempt_looks _)) fun allowed => ?_
      split
      · exact leads_pure _
      · refine leads_bind (mended.looking (ready_looks step)) fun passed => ?_
        split
        · refine leads_bind (mended.passing (retryPause_passes _)) fun again => ?_
          split
          · exact ih _
          · exact leads_pure _
        · apply leads_outcome_bind (mended.runs .preview)
          · intro _
            exact leads_bind (mended.looking settings_looks) fun _ =>
              mended.passing (pause_passes _)
          · intro fault
            exact leads_bind (recover_leads mended _ _) fun _ => ih _

theorem showThenDo_leads (mended : Mended calm whole torn step) :
    (showThenDo step).Leads calm whole whole torn := by
  refine leads_bind (mended.runs .preview) fun _ => ?_
  refine leads_bind (mended.looking settings_looks) fun _ => ?_
  refine leads_bind (mended.passing (pause_passes _)) fun _ => ?_
  refine leads_bind (mended.looking (ready_looks step)) fun _ => ?_
  split
  · exact leads_bind (mended.runs .commit) fun _ => leads_pure _
  · exact leads_pure _

theorem doAttempts_leads (mended : Mended calm whole torn step) (isLast : Bool)
    (patience attempt : Nat) :
    (doAttempts step isLast patience attempt).Leads calm whole whole torn := by
  induction patience generalizing attempt with
  | zero => exact leads_pure _
  | succ patience ih =>
      refine leads_bind (mended.looking (mayAttempt_looks _)) fun allowed => ?_
      split
      · exact leads_pure _
      · refine leads_bind (mended.looking (ready_looks step)) fun passed => ?_
        split
        · refine leads_bind (mended.passing (retryPause_passes _)) fun again => ?_
          split
          · exact ih _
          · exact leads_pure _
        · apply leads_outcome_bind (showThenDo_leads mended)
          · intro done
            cases done with
            | true =>
                dsimp only
                split
                · exact leads_pure _
                · exact mended.passing (pauseAfter_passes step)
            | false =>
                -- a failure while waiting has torn nothing that a recovery does not mend
                apply leads_outcome_bind (mended.passing (retryPause_passes _))
                · exact fun _ => ih _
                · exact fun _ => leads_bind (recover_leads mended _ _) fun _ => ih _
          · exact fun fault => leads_bind (recover_leads mended _ _) fun _ => ih _

theorem prepare_leads (lasting : Lasting calm whole) (tears : whole.Implies torn)
    (resets : (Run.reset step.key).Leads calm whole whole torn)
    (completes : (completeByObjectives step).Leads calm whole whole torn) :
    (prepare step).Leads calm whole whole torn := by
  have status : (Run.status step.key).Leads calm whole whole torn :=
    (keeps_status lasting _).leads tears
  have looking := keeps_of_passes lasting (passes_of_looks (objectivesMet_looks step))
  refine leads_bind (looking.leads tears) fun met => ?_
  split
  · refine leads_bind status fun _ => ?_
    dsimp only
    split
    · exact leads_bind (leads_discard completes) fun _ => leads_pure _
    · exact leads_pure _
  · refine leads_bind status fun _ => ?_
    dsimp only
    split
    · exact leads_bind (leads_discard resets) fun _ => leads_pure _
    · exact leads_pure _

/-! Tours. -/

def touring (sequence : String) (attempts : Step → Bool → Nat → Run Unit) (position : Nat) :
    List Step → Run Unit
  | [] => pure ()
  | step :: rest => do
      Run.setIndex sequence position
      if ← prepare step then attempts step rest.isEmpty (← patience)
      touring sequence attempts (position + 1) rest

theorem showAll_eq_touring (sequence : String) (steps : List Step) (position : Nat) :
    showAll sequence position steps =
      touring sequence (fun step _ patience => showAttempts step patience 0) position steps := by
  induction steps generalizing position with
  | nil => rfl
  | cons step rest ih => rw [showAll, touring, ih]

theorem doAll_eq_touring (sequence : String) (steps : List Step) (position : Nat) :
    doAll sequence position steps =
      touring sequence (fun step isLast patience => doAttempts step isLast patience 0) position
        steps := by
  induction steps generalizing position with
  | nil => rfl
  | cons step rest ih => rw [doAll, touring, ih]

/-- What binds hand on holds of a tour if it holds of all that the tour does at its steps. -/
theorem touring_of_each (property : (α : Type) → Run α → Prop) {sequence : String}
    {attempts : Step → Bool → Nat → Run Unit} {steps : List Step}
    (done : property Unit (pure ()))
    (binds : ∀ {α β : Type} {run : Run α} {next : α → Run β}, property α run →
      (∀ value, property β (next value)) → property β (run >>= next))
    (reached : ∀ position, property Unit (Run.setIndex sequence position))
    (patient : property Nat patience)
    (prepares : ∀ step ∈ steps, property Bool (prepare step))
    (tries : ∀ step ∈ steps, ∀ isLast patience, property Unit (attempts step isLast patience))
    (position : Nat) : property Unit (touring sequence attempts position steps) := by
  induction steps generalizing position with
  | nil => exact done
  | cons step rest ih =>
      have tail := ih (List.forall_mem_cons.1 prepares).2 (List.forall_mem_cons.1 tries).2
      refine binds (reached position) fun _ => ?_
      refine binds (prepares _ List.mem_cons_self) fun wanted => ?_
      split
      · refine binds patient fun most => ?_
        exact binds (tries _ List.mem_cons_self _ most) fun _ => tail _
      · exact tail _

theorem touring_leads (lasting : Lasting calm whole) (loses : whole.Implies lost)
    {sequence : String} {attempts : Step → Bool → Nat → Run Unit} {steps : List Step}
    (prepares : ∀ step ∈ steps, (prepare step).Leads calm whole whole lost)
    (tries : ∀ step ∈ steps, ∀ isLast patience,
      (attempts step isLast patience).Leads calm whole whole lost) (position : Nat) :
    (touring sequence attempts position steps).Leads calm whole whole lost := by
  have patient := keeps_of_passes lasting (passes_of_looks patience_looks)
  exact touring_of_each (fun α run => run.Leads calm whole whole lost) (leads_pure _) leads_bind
    (fun _ => (keeps_ask lasting rfl).leads loses) (patient.leads loses) prepares tries position

/-! Calls. -/

theorem leaving_keeps {α : Type} {run : Run α} (lasting : Lasting calm whole) (selector : String)
    (keeps : run.Keeps calm whole) : (leaving selector run).Keeps calm whole := by
  refine keeps_bind (keeps_outcome keeps) fun result => ?_
  refine keeps_bind (keeps_ask lasting rfl) fun _ => ?_
  split
  · exact keeps_pure _
  · exact keeps_throw _

def enclosed (step : Step) (showOnly : Bool) : Run Unit := do
  begin step.key
  failing step.key (walk step showOnly)
  Run.moveTo step.key .completed

theorem runSequence_keeps (lasting : Lasting calm whole) {showOnly : Bool}
    (inside : (enclosed step showOnly).Keeps calm whole) :
    (runSequence step showOnly).Keeps calm whole := by
  refine keeps_bind (keeps_ask lasting rfl) fun active => ?_
  split
  · exact keeps_pure _
  · refine keeps_bind (keeps_ask lasting rfl) fun _ => ?_
    exact keeps_bind (leaving_keeps lasting _ inside) fun _ => keeps_pure _

theorem reportRun_keeps (lasting : Lasting calm whole) (step : Step) (requirements : Assessment)
    (result : Except Fault Unit) : (reportRun step requirements result).Keeps calm whole := by
  unfold reportRun
  dsimp only
  split
  · exact keeps_bind (keeps_status lasting _) fun _ => keeps_pure _
  · split
    · exact keeps_throw _
    · exact keeps_bind (keeps_status lasting _) fun _ => keeps_pure _
  · exact keeps_bind (keeps_status lasting _) fun _ => keeps_pure _

theorem asks_reportRun {allowed : Request → Prop} {step : Step} {requirements : Assessment}
    {result : Except Fault Unit} (looks : allowed .states) :
    (reportRun step requirements result).Asks allowed := by
  unfold reportRun
  dsimp only
  split
  · exact asks_bind (asks_status looks) fun _ => asks_pure _
  · split
    · exact asks_throw _
    · exact asks_bind (asks_status looks) fun _ => asks_pure _
  · exact asks_bind (asks_status looks) fun _ => asks_pure _

theorem trigger_keeps (lasting : Lasting calm whole) (mode : Mode)
    (completes : (completeByObjectives step).Keeps calm whole)
    (multiple : isMultiple step = true → (runMultistep step).Keeps calm whole)
    (sequence : (runSequence step (mode == .preview)).Keeps calm whole)
    (single : (runStep step mode).Keeps calm whole) : (trigger step mode).Keeps calm whole := by
  have looking {α : Type} {run : Run α} (looks : run.Asks (·.looks)) : run.Keeps calm whole :=
    keeps_of_passes lasting (passes_of_looks looks)
  refine keeps_bind (looking (objectivesMet_looks step)) fun met => ?_
  split
  · exact completes
  · refine keeps_bind (keeps_status lasting _) fun status => ?_
    dsimp only
    split
    · exact keeps_pure _
    · cases body : step.body with
      | multiple actions delay => exact multiple (by simp [isMultiple, body])
      | single =>
          refine keeps_bind (looking (check_looks step)) fun requirements => ?_
          split
          · refine keeps_bind (keeps_outcome ?_) fun result => reportRun_keeps lasting _ _ _
            unfold runPlain
            split
            · exact keeps_discard sequence
            · exact single
          · exact keeps_pure _

end

end Guide

end Walkthrough
