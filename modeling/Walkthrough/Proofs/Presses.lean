import Walkthrough.Proofs.Contracts
import Walkthrough.Proofs.Composing
import Walkthrough.Proofs.Reports
/-!
Presses of one control side by side. A press looks whether the step is running or completed, then
checks its requirements, which takes time, and then sets the step running without a second look. So
a press is kept from running the step only if it looks at it while the step is busy: two presses
that have both looked before either begins will both run it.
-/

namespace Walkthrough

/-- Requests that neither set a step running nor announce a command. -/
def Request.holdsBack : Request → Prop
  | move asked => asked.status ≠ .running
  | announce _ => False
  | _ => True

theorem Request.holdsBack_of_keepsBooks (request : Request) (keeps : request.keepsBooks = true) :
    request.holdsBack := by
  cases request <;> simp_all [keepsBooks, Request.looks, holdsBack]

theorem Request.holdsBack_of_looks (request : Request) (looks : request.looks = true) :
    request.holdsBack :=
  holdsBack_of_keepsBooks request (keepsBooks_of_looks request looks)

theorem Dialogue.asks_all {α : Type} (dialogue : Dialogue Request.Answer α) :
    dialogue.Asks fun _ => True := by
  induction dialogue with
  | done result => trivial
  | ask asked next ih => exact ⟨trivial, ih⟩

namespace Guide

open Run

variable {α : Type} {key : String} {step : Step} {past : List Turn}

def Available (key : String) : Past := fun past =>
  ∃ store : Store, (⟨.states, store⟩ : Turn) ∈ past ∧ isBusy (store.status key) = false

def SeenWalked (step : Step) : Past := fun past =>
  step.isSequence = true ∧ ∃ active : List String,
    (⟨.activeSequences, active⟩ : Turn) ∈ past ∧ step.target ∈ active

/-- A press sets the step running only after it has seen that it may, and announces commands only
after it has set the step running. -/
def pressing (key : String) : Contract where
  allows past
    | .move move => move.step = key → move.status = .running → Available key past
    | .announce _ => Began key past
    | _ => True
  assumes _ _ := True

def Entitled (key : String) : Past := fun past => Available key past ∧ Began key past

def Lasts (told : Past) : Prop :=
  ∀ ⦃past longer⦄, told past → past ⊆ longer → told longer

theorem lasts_true : Lasts fun _ => True :=
  fun _ _ _ _ => trivial

theorem lasts_available : Lasts (Available key) := by
  intro past longer available part
  obtain ⟨store, member, free⟩ := available
  exact ⟨store, part member, free⟩

theorem lasts_began : Lasts (Began key) :=
  fun _ _ began part => began.mono part

theorem lasts_entitled : Lasts (Entitled key) :=
  fun _ _ entitled part => ⟨lasts_available entitled.1 part, lasts_began entitled.2 part⟩

theorem allows_of_holdsBack {asked : Request} (holds : asked.holdsBack) :
    (pressing key).allows past asked := by
  cases asked with
  | move move => exact fun _ running => absurd running holds
  | announce command => exact holds.elim
  | _ => trivial

theorem allows_of_entitled (entitled : Entitled key past) (asked : Request) :
    (pressing key).allows past asked := by
  cases asked with
  | move move => exact fun _ _ => entitled.1
  | announce command => exact entitled.2
  | _ => trivial

theorem entitled_honours (run : Run α) :
    run.Honours (pressing key) (Entitled key) (fun _ => Entitled key) (Entitled key) :=
  honours_of_asks (Dialogue.asks_all _)
    (fun _ asked _ entitled => allows_of_entitled entitled asked)
    fun _ _ _ _ entitled => lasts_entitled entitled (List.subset_append_left _ _)

theorem holdingBack_honours {told : Past} {run : Run α} (lasts : Lasts told)
    (asks : run.Asks Request.holdsBack) :
    run.Honours (pressing key) told (fun _ => told) told :=
  honours_of_asks asks (fun _ _ holds _ => allows_of_holdsBack holds)
    fun _ _ _ _ kept => lasts kept (List.subset_append_left _ _)

theorem looking_honours {told : Past} {run : Run α} (lasts : Lasts told)
    (looks : run.Asks (·.looks)) : run.Honours (pressing key) told (fun _ => told) told :=
  holdingBack_honours lasts (asks_mono looks Request.holdsBack_of_looks)

theorem reset_holdsBack (key : String) : (Run.reset key).Asks Request.holdsBack :=
  asks_reset trivial Status.noConfusion

/-- What is begun is begun by a press that has seen the step available. -/
theorem begin_honours :
    (begin key).Honours (pressing key) (Available key) (fun _ => Entitled key) (Available key) := by
  have grown {past : List Turn} (available : Available key past) (turn : Turn) :
      Available key (past ++ [turn]) := lasts_available available (List.subset_append_left _ _)
  have running : (Run.moveTo key .running).Honours (pressing key) (Available key)
      (fun _ => Entitled key) (Available key) := by
    refine honours_discard (honours_move ?_ ?_ ?_)
    · exact fun _ available _ _ => available
    · exact fun _ state available _ => ⟨grown available _, state, by simp⟩
    · exact fun _ _ available _ => grown available _
  have looks : (Run.status key).Honours (pressing key) (Available key)
      (fun _ => Available key) (Available key) :=
    honours_status (fun _ _ => trivial) fun _ _ available _ => grown available _
  refine honours_bind _ looks fun status => ?_
  dsimp only
  split
  · exact honours_bind _ (holdingBack_honours lasts_available (asks_discard (reset_holdsBack key)))
      fun _ => running
  · exact running

theorem beginning_honours {next : Unit → Run α} :
    (begin key >>= next).Honours (pressing key) (Available key) (fun _ => Entitled key)
      (Available key) := by
  refine honours_bind _ begin_honours fun _ => ?_
  exact (entitled_honours (next ())).tearing fun _ told => told.1

/-! Outcomes. -/

def Served (step : Step) : Past := fun past => Began step.key past ∨ SeenWalked step past

theorem lasts_served : Lasts (Served step) := by
  intro past longer served part
  rcases served with began | ⟨isSequence, active, member, walked⟩
  · exact .inl (lasts_began began part)
  · exact .inr ⟨isSequence, active, part member, walked⟩

/-- An outcome tells of an execution only if the press was served. -/
def Accounted (step : Step) (outcome : Outcome) : Past := fun past =>
  outcome.executed = true → Served step past

theorem accounted_of_withheld {outcome : Outcome} (withheld : outcome.executed = false) :
    Accounted step outcome past := by
  intro executed
  rw [withheld] at executed
  cases executed

theorem completeByObjectives_honours (step : Step) :
    (completeByObjectives step).Honours (pressing key) (fun _ => True) (Accounted step)
      (fun _ => True) := by
  have holding {α : Type} {run : Run α} (asks : run.Asks Request.holdsBack) :
      run.Honours (pressing key) (fun _ => True) (fun _ _ => True) (fun _ => True) :=
    holdingBack_honours lasts_true asks
  have completes : (completing step.key).Honours (pressing key) (fun _ => True)
      (Accounted step) (fun _ => True) := by
    refine honours_bind (fun _ _ => True) ?_ fun _ =>
      honours_pure fun _ _ => accounted_of_withheld rfl
    refine honours_discard (honours_move ?_ ?_ ?_)
    · exact fun _ _ => allows_of_holdsBack Status.noConfusion
    · exact fun _ _ _ _ => trivial
    · exact fun _ _ _ _ => trivial
  have marked : (if !isMultiple step then
      discard (Control.markCompleted (some step.key)) >>= fun _ => completing step.key
      else completing step.key).Honours (pressing key) (fun _ => True)
        (Accounted step) (fun _ => True) := by
    split
    · refine honours_bind _ (holding (asks_discard ?_)) fun _ => completes
      exact asks_mono (Control.markCompleted_keepsBooks _) Request.holdsBack_of_keepsBooks
    · exact completes
  refine honours_bind (fun _ _ => True) ?_ fun status => ?_
  · exact honours_status (fun _ _ => trivial) fun _ _ _ _ => trivial
  · dsimp only
    split
    · exact honours_pure fun _ _ => accounted_of_withheld rfl
    · split
      · exact honours_bind _ (holding (asks_discard (reset_holdsBack _))) fun _ => marked
      · exact marked

theorem leaving_honours {selector : String} {run : Run α} {start ends : Past} (lasts : Lasts ends)
    (inside : run.Honours (pressing key) start (fun _ => ends) (fun _ => True)) :
    (leaving selector run).Honours (pressing key) start (fun _ => ends) (fun _ => True) := by
  have leaves {told : Past} (lasts : Lasts told) :
      (Run.ask (.leaveSequence selector)).Honours (pressing key) told (fun _ => told)
        (fun _ => True) :=
    honours_ask (fun _ _ => trivial) fun _ _ begins _ =>
      lasts begins (List.subset_append_left _ _)
  refine honours_outcome_bind inside (fun value => ?_) fun fault => ?_
  · exact honours_bind _ (leaves lasts) fun _ => honours_pure fun _ told => told
  · exact honours_bind _ (leaves lasts_true) fun _ => honours_throw fun _ told => told

theorem runSequence_honours (isSequence : step.isSequence = true) (showOnly : Bool) :
    (runSequence step showOnly).Honours (pressing step.key) (Available step.key)
      (fun _ => Served step) (fun _ => True) := by
  have encloses : (enclosed step showOnly).Honours (pressing step.key) (Available step.key)
      (fun _ => Began step.key) (fun _ => True) :=
    (beginning_honours.telling fun _ _ told => told.2).forget
  refine honours_bind (fun active past => Available step.key past ∧
    (⟨.activeSequences, active⟩ : Turn) ∈ past) ?_ fun active => ?_
  · refine honours_ask (fun _ _ => trivial) fun _ active available _ => ?_
    exact ⟨lasts_available available (List.subset_append_left _ _), by simp⟩
  · split
    · next walked =>
        refine honours_pure fun past told => .inr ⟨isSequence, active, told.2, ?_⟩
        simpa using walked
    · refine honours_bind (fun _ => Available step.key) ?_ fun _ => ?_
      · refine honours_ask (fun _ _ => trivial) fun _ _ told _ => ?_
        exact lasts_available told.1 (List.subset_append_left _ _)
      · refine honours_bind _ (leaving_honours lasts_began encloses) fun _ => ?_
        exact honours_pure fun _ told => .inl told

theorem runPlain_honours (step : Step) (mode : Mode) :
    (runPlain step mode).Honours (pressing step.key) (Available step.key)
      (fun _ => Served step) (fun _ => True) := by
  unfold runPlain
  split
  · next isSequence => exact honours_discard (runSequence_honours isSequence _)
  · exact (beginning_honours.telling fun _ _ told => .inl told.2).forget

theorem reportRun_ok_honours (assessment : Assessment) :
    (reportRun step assessment (.ok ())).Honours (pressing step.key) (Served step)
      (Accounted step) (fun _ => True) := by
  refine honours_bind (fun _ => Served step) ?_ fun _ =>
    honours_pure fun _ served _ => served
  exact honours_status (fun _ _ => trivial) fun _ _ served _ =>
    lasts_served served (List.subset_append_left _ _)

theorem reportRun_error_honours (assessment : Assessment) (fault : Fault) :
    (reportRun step assessment (.error fault)).Honours (pressing step.key) (fun _ => True)
      (Accounted step) (fun _ => True) := by
  have looks : (Run.status step.key).Honours (pressing step.key) (fun _ => True)
      (fun _ _ => True) (fun _ => True) :=
    honours_status (fun _ _ => trivial) fun _ _ _ _ => trivial
  unfold reportRun
  cases fault with
  | guide error =>
      dsimp only
      split
      · exact honours_throw fun _ _ => trivial
      · exact honours_bind _ looks fun _ => honours_pure fun _ _ => accounted_of_withheld rfl
  | _ => exact honours_bind _ looks fun _ => honours_pure fun _ _ => accounted_of_withheld rfl

theorem runActions_honours (actions : List InnerAction) (delay : Option Nat)
    (assessment : Assessment) :
    (runActions step.key actions delay assessment).Honours (pressing step.key)
      (Available step.key) (Accounted step) (fun _ => True) := by
  refine honours_bind _ (looking_honours lasts_available (delayOf_looks delay)).forget
    fun wait => ?_
  exact (beginning_honours.telling fun _ _ told _ => .inl told.2).forget

theorem admitted_honours (step : Step) (mode : Mode) (assessment : Assessment) :
    (admitted step mode assessment).Honours (pressing step.key) (Available step.key)
      (Accounted step) (fun _ => True) := by
  unfold admitted
  split
  · refine honours_outcome_bind (runPlain_honours step mode) (fun _ => ?_) fun fault => ?_
    · exact reportRun_ok_honours assessment
    · exact reportRun_error_honours assessment fault
  · exact runActions_honours _ _ _

theorem assessing_honours (step : Step) (mode : Mode) (status : Status) :
    (assessing step mode status).Honours (pressing step.key) (Available step.key)
      (Accounted step) (fun _ => True) := by
  refine honours_bind _ (looking_honours lasts_available (check_looks step)).forget
    fun assessment => ?_
  unfold respond
  dsimp only
  split
  · exact admitted_honours step mode assessment
  · exact honours_pure fun _ _ => accounted_of_withheld rfl

theorem gated_honours {go : Status → Run Outcome}
    (goes : ∀ status, (go status).Honours (pressing step.key) (Available step.key)
      (Accounted step) (fun _ => True)) :
    (gated step go).Honours (pressing step.key) (fun _ => True) (Accounted step)
      (fun _ => True) := by
  refine honours_bind _ (looking_honours lasts_true (objectivesMet_looks step)) fun met => ?_
  split
  · exact completeByObjectives_honours step
  · refine honours_bind (fun status past => isBusy status = false →
      Available step.key past) ?_ fun status => ?_
    · exact honours_status (fun _ _ => trivial) fun _ store _ _ free => ⟨store, by simp, free⟩
    · split
      · exact honours_pure fun _ _ => accounted_of_withheld rfl
      · next free =>
          exact (goes status).starting fun _ told => told (by simpa using free)

theorem trigger_honours (step : Step) (mode : Mode) :
    (trigger step mode).Honours (pressing step.key) (fun _ => True) (Accounted step)
      (fun _ => True) := by
  cases body : step.body with
  | single =>
      rw [trigger_single body]
      exact gated_honours fun _ => assessing_honours step mode _
  | multiple actions delay =>
      rw [trigger_multiple body]
      refine gated_honours fun _ => ?_
      exact (gated_honours fun _ => assessing_honours step mode _).starting fun _ _ => trivial

end Guide

/-! The meeting. -/

section

open Guide Run

variable {ι : Type} [DecidableEq ι] {step : Step} {key : String}
variable {start middle now : Meeting ι Outcome} {minutes : List (Minute ι)}

theorem Meeting.Reached.busy_of_busy (reached : start.Reached minutes now)
    (busy : isBusy (start.records.status key) = true)
    (kept : ∀ minute ∈ minutes, minute.turn.moved key ≠ some .idle ∧
      minute.turn.moved key ≠ some .error) : isBusy (now.records.status key) = true := by
  induction reached with
  | start => exact busy
  | @turn minutes middle minute now reached speaks ih =>
      have before := ih fun minute member => kept minute (List.mem_append_left _ member)
      obtain ⟨idle, error⟩ := kept minute (by simp)
      cases moved : minute.turn.moved key with
      | none =>
          rw [speaks.status_of_unmoved moved]
          exact before
      | some status =>
          rw [(speaks.status_of_moved moved).2]
          cases status with
          | idle => exact absurd moved idle
          | error => exact absurd moved error
          | running | completed => rfl

/-- What comes of presses of one control side by side. -/
structure Pressed (step : Step) (minutes : List (Minute ι)) (now : Meeting ι Outcome) : Prop where
  /-- Who sets the step running after somebody else did has looked at it before, or saw it after it
  was made idle again or failed. -/
  started : ∀ earlier first begun between second again later,
    minutes = earlier ++ ⟨first, begun⟩ :: (between ++ ⟨second, again⟩ :: later) →
    begun.moved step.key = some .running → again.moved step.key = some .running →
    Available step.key (turnsOf second earlier) ∨
      ∃ left right, between = left ++ right ∧ Available step.key (turnsOf second right) ∧
        ∃ minute ∈ left, minute.turn.moved step.key = some .idle ∨
          minute.turn.moved step.key = some .error
  /-- Only who has set the step running acts. -/
  acted : ∀ earlier speaker command later,
    minutes = earlier ++ ⟨speaker, .announce command, ()⟩ :: later →
    Began step.key (turnsOf speaker earlier)
  /-- Only who has set the step running tells of an execution, or who found its sequence walked. -/
  reported : ∀ speaker outcome, now.talks speaker = .done (.ok outcome) →
    outcome.executed = true → Served step (turnsOf speaker minutes)

variable {modes : ι → Mode} {records : Records}

theorem presses_honour (reached : (Meeting.opening records fun speaker =>
      trigger step (modes speaker)).Reached minutes now) :
    Meeting.Honours (fun _ => pressing step.key)
      (fun _ => Run.ending (Accounted step) fun _ => True) minutes now := by
  refine reached.honours ?_ fun _ _ _ => trivial
  exact Meeting.honours_opening fun speaker => trigger_honours step (modes speaker) trivial

theorem left_of_available {begun : ι} {turn : Turn} {between : List (Minute ι)} {speaker : ι}
    (begins : middle.Speaks ⟨begun, turn⟩ start)
    (running : turn.moved key = some .running) (reached : start.Reached between now)
    (available : Available key (turnsOf speaker between)) :
    ∃ left right, between = left ++ right ∧ Available key (turnsOf speaker right) ∧
      ∃ minute ∈ left, minute.turn.moved key = some .idle ∨
        minute.turn.moved key = some .error := by
  obtain ⟨store, member, free⟩ := available
  obtain ⟨left, right, rfl⟩ := List.append_of_mem (mem_turnsOf.1 member)
  refine ⟨left, ⟨speaker, .states, store⟩ :: right, rfl, ⟨store, ?_, free⟩, ?_⟩
  · exact mem_turnsOf.2 List.mem_cons_self
  · apply Classical.byContradiction
    intro kept
    obtain ⟨before, after, first, looks, -⟩ := reached.cut
    have busy : isBusy (start.records.status key) = true := by
      rw [(begins.status_of_moved running).2]
      rfl
    have still := first.busy_of_busy busy fun minute member =>
      ⟨fun idle => kept ⟨minute, member, .inl idle⟩, fun error => kept ⟨minute, member, .inr error⟩⟩
    cases looks with
    | turn _ _ _ answered =>
        -- the look told how the step stood then
        obtain ⟨rfl, -⟩ := answered
        exact Bool.false_ne_true (free.symm.trans still)

/-- However presses of one control are interleaved, whoever sets the step running has seen that he
may; but he may have seen it before somebody else set it running, so that it is run again. Nobody
else acts, or tells of an execution, except on a sequence that was seen being walked. -/
theorem presses_of_reached (reached : (Meeting.opening records fun speaker =>
      trigger step (modes speaker)).Reached minutes now) : Pressed step minutes now where
  started := by
    rintro earlier first begun between second again later rfl running rerun
    obtain ⟨before, after, opening, begins, rest⟩ := reached.cut
    obtain ⟨last, next, within, resumes, -⟩ := rest.cut
    have whole := (opening.turn begins).trans within
    have allowed := resumes.allowed (presses_honour whole)
    obtain ⟨move, state, rfl, own, again⟩ := Turn.eq_of_moved rerun
    have available := allowed own again
    -- he has seen the step available before the first start, or between the two
    rw [turnsOf_append, turnsOf_append] at available
    obtain ⟨store, member, free⟩ := available
    rcases List.mem_append.1 member with past | since
    · rcases List.mem_append.1 past with past | now
      · exact .inl ⟨store, past, free⟩
      · -- setting the step running is no look
        have same := List.mem_singleton.1 (mem_turnsOf.1 now)
        cases same
        cases running
    · exact .inr (left_of_available begins running within ⟨store, since, free⟩)
  acted := by
    rintro earlier speaker command later rfl
    obtain ⟨before, after, opening, announces, -⟩ := reached.cut
    exact announces.allowed (presses_honour opening)
  reported := by
    intro speaker outcome done executed
    have told := presses_honour reached speaker
    rw [done] at told
    exact told executed

def tollDetour : Step :=
  { detour with requirements := some "on-page:/" }

def tollgate : Scene where
  page
    | .location => .ok "/"
    | call => roadside.page call
  tuning := roadside.tuning

/-- Two presses of one control, of which the second looks at the step while the first checks its
requirements: both take the route. -/
theorem tollgate_passed_twice :
    ∃ minutes now, (Meeting.opening ⟨[], []⟩ fun _ : Bool => trigger tollDetour .commit).Reached
        minutes now ∧
      Pressed tollDetour minutes now ∧
      ∀ speaker, ∃ outcome, now.talks speaker = .done (.ok outcome) ∧ outcome.executed = true := by
  have reached := Meeting.attend_reached tollgate
    ([false, true] ++ List.replicate 14 false ++ List.replicate 16 true)
    (.opening ⟨[], []⟩ fun _ : Bool => trigger tollDetour .commit)
  refine ⟨_, _, reached, presses_of_reached reached, ?_⟩
  rintro (_ | _)
  · exact ⟨_, rfl, rfl⟩
  · exact ⟨_, rfl, rfl⟩

end

end Walkthrough
