import Walkthrough.Proofs.Meeting
import Walkthrough.Proofs.Moves
/-!
What speakers can count on from each other. A contract says what a speaker may ask after his turns so
far, as long as the answers to him are what he may assume. A talk honours a contract by what it asks,
whatever is answered and whoever else speaks in between; so a meeting of such speakers goes on
within their contracts until somebody hears what he did not have to expect.
-/

namespace Walkthrough

structure Contract where
  allows : List Turn → Request → Prop
  assumes : List Turn → Turn → Prop

abbrev Past := List Turn → Prop

namespace Dialogue

variable {α β : Type} {contract : Contract}

/-- Every request is allowed, and the end is as it should be, unless an answer was not as assumed. -/
def Honours (contract : Contract) (ends : α → Past) :
    List Turn → Dialogue Request.Answer α → Prop
  | past, .done result => ends result past
  | past, .ask asked next =>
      contract.allows past asked ∧ ∀ reply, contract.assumes past ⟨asked, reply⟩ →
        (next reply).Honours contract ends (past ++ [⟨asked, reply⟩])

theorem honours_bind {middle : α → Past} {ends : β → Past} {past : List Turn}
    {dialogue : Dialogue Request.Answer α} {continuation : α → Dialogue Request.Answer β}
    (first : dialogue.Honours contract middle past)
    (second : ∀ value past, middle value past → (continuation value).Honours contract ends past) :
    (dialogue.bind continuation).Honours contract ends past := by
  induction dialogue generalizing past with
  | done value => exact second value past first
  | ask asked next ih => exact ⟨first.1, fun reply assumed => ih reply (first.2 reply assumed)⟩

theorem Honours.weaken {ends wider : α → Past} {past : List Turn}
    {dialogue : Dialogue Request.Answer α} (honours : dialogue.Honours contract ends past)
    (weaker : ∀ value past, ends value past → wider value past) :
    dialogue.Honours contract wider past := by
  induction dialogue generalizing past with
  | done value => exact weaker value past honours
  | ask asked next ih => exact ⟨honours.1, fun reply assumed => ih reply (honours.2 reply assumed)⟩

end Dialogue

namespace Run

variable {α β : Type} {contract : Contract} {start torn lost : Past}

def ending (ends : α → Past) (torn : Past) : Except Fault α → Past
  | .ok value => ends value
  | .error _ => torn

/-- From where `start` is told, the run honours the contract, until `ends` is told of its value, or
`torn` after a failure. -/
def Honours (contract : Contract) (start : Past) (ends : α → Past) (torn : Past)
    (run : Run α) : Prop :=
  ∀ ⦃past⦄, start past → (ExceptT.run run).Honours contract (ending ends torn) past

variable {ends : α → Past}

theorem honours_pure {value : α} (told : ∀ ⦃past⦄, start past → ends value past) :
    (pure value : Run α).Honours contract start ends torn :=
  told

theorem honours_throw {fault : Fault} (told : ∀ ⦃past⦄, start past → torn past) :
    (throw fault : Run α).Honours contract start ends torn :=
  told

theorem honours_bind {ends : β → Past} {run : Run α} {next : α → Run β} (middle : α → Past)
    (first : run.Honours contract start middle torn)
    (second : ∀ value, (next value).Honours contract (middle value) ends torn) :
    (run >>= next).Honours contract start ends torn := by
  intro past begins
  refine Dialogue.honours_bind (first begins) ?_
  intro result past told
  cases result with
  | ok value => exact second value told
  | error fault => exact told

theorem honours_outcome_bind {middle : α → Past} {ends : β → Past} {run : Run α}
    {next : Except Fault α → Run β} (first : run.Honours contract start middle lost)
    (done : ∀ value, (next (.ok value)).Honours contract (middle value) ends torn)
    (failed : ∀ fault, (next (.error fault)).Honours contract lost ends torn) :
    (outcome run >>= next).Honours contract start ends torn := by
  intro past begins
  have opened : ExceptT.run (outcome run >>= next) =
      (ExceptT.run run).bind fun result => (next result).run := Dialogue.bind_assoc _ _ _
  rw [opened]
  refine Dialogue.honours_bind (first begins) ?_
  intro result past told
  cases result with
  | ok value => exact done value told
  | error fault => exact failed fault told

theorem honours_tryCatch {run : Run α} {rescue : Fault → Run α}
    (first : run.Honours contract start ends lost)
    (second : ∀ fault, (rescue fault).Honours contract lost ends torn) :
    (tryCatch run rescue).Honours contract start ends torn := by
  intro past begins
  refine Dialogue.honours_bind (first begins) ?_
  intro result past told
  cases result with
  | ok value => exact told
  | error fault => exact second fault told

theorem Honours.starting {run : Run α} {begins : Past}
    (honours : run.Honours contract start ends torn) (before : ∀ ⦃past⦄, begins past → start past) :
    run.Honours contract begins ends torn :=
  fun _ told => honours (before told)

theorem Honours.telling {run : Run α} {wider : α → Past}
    (honours : run.Honours contract start ends torn)
    (after : ∀ value ⦃past⦄, ends value past → wider value past) :
    run.Honours contract start wider torn := by
  intro past begins
  refine (honours begins).weaken ?_
  intro result past told
  cases result with
  | ok value => exact after value told
  | error fault => exact told

theorem Honours.tearing {run : Run α} {tears : Past}
    (honours : run.Honours contract start ends torn) (fails : ∀ ⦃past⦄, torn past → tears past) :
    run.Honours contract start ends tears := by
  intro past begins
  refine (honours begins).weaken ?_
  intro result past told
  cases result with
  | ok value => exact told
  | error fault => exact fails told

theorem Honours.forget {run : Run α} (honours : run.Honours contract start ends torn) :
    run.Honours contract start ends (fun _ => True) :=
  honours.tearing fun _ _ => trivial

theorem Honours.of_never {run : Run α}
    (honours : run.Honours contract start (fun _ _ => False) torn) :
    run.Honours contract start ends torn :=
  honours.telling fun _ _ never => never.elim

theorem honours_discard {ends : Past} {run : Run α}
    (honours : run.Honours contract start (fun _ => ends) torn) :
    (discard run).Honours contract start (fun _ => ends) torn := by
  have bound : (discard run : Run Unit) = run >>= fun _ => pure () :=
    (bind_pure_comp (fun _ => ()) run).symm
  rw [bound]
  exact honours_bind _ honours fun _ => honours_pure fun _ told => told

theorem honours_ask {asked : Request} {ends : asked.Answer → Past}
    (allowed : ∀ ⦃past⦄, start past → contract.allows past asked)
    (told : ∀ ⦃past⦄ reply, start past → contract.assumes past ⟨asked, reply⟩ →
      ends reply (past ++ [⟨asked, reply⟩])) :
    (ask asked).Honours contract start ends torn :=
  fun _ begins => ⟨allowed begins, fun reply assumed => told reply begins assumed⟩

theorem honours_move {move : Move} {ends : StepState → Past}
    (allowed : ∀ ⦃past⦄, start past → contract.allows past (.move move))
    (accepted : ∀ ⦃past⦄ state, start past → contract.assumes past ⟨.move move, .ok state⟩ →
      ends state (past ++ [⟨.move move, .ok state⟩]))
    (refused : ∀ ⦃past⦄ error, start past → contract.assumes past ⟨.move move, .error error⟩ →
      torn (past ++ [⟨.move move, .error error⟩])) :
    (Run.move move).Honours contract start ends torn := by
  intro past begins
  refine ⟨allowed begins, fun reply assumed => ?_⟩
  cases reply with
  | ok state => exact accepted state begins assumed
  | error error => exact refused error begins assumed

theorem honours_state {key : String} {ends : StepState → Past}
    (allowed : ∀ ⦃past⦄, start past → contract.allows past .states)
    (told : ∀ ⦃past⦄ (store : Store), start past → contract.assumes past ⟨.states, store⟩ →
      ends (store.get key) (past ++ [⟨.states, store⟩])) :
    (state key).Honours contract start ends torn :=
  fun _ begins => ⟨allowed begins, fun store assumed => told store begins assumed⟩

theorem honours_status {key : String} {ends : Status → Past}
    (allowed : ∀ ⦃past⦄, start past → contract.allows past .states)
    (told : ∀ ⦃past⦄ (store : Store), start past → contract.assumes past ⟨.states, store⟩ →
      ends (store.status key) (past ++ [⟨.states, store⟩])) :
    (status key).Honours contract start ends torn :=
  fun _ begins => ⟨allowed begins, fun store assumed => told store begins assumed⟩

theorem honours_of_asks {permitted : Request → Prop} {run : Run α} (asks : run.Asks permitted)
    (allowed : ∀ ⦃past asked⦄, permitted asked → start past → contract.allows past asked)
    (kept : ∀ ⦃past turn⦄, permitted turn.asked → contract.assumes past turn → start past →
      start (past ++ [turn])) : run.Honours contract start (fun _ => start) start := by
  unfold Honours
  unfold Asks at asks
  generalize ExceptT.run run = dialogue at asks
  intro past begins
  -- one turn after the other, with the past growing at its end
  induction dialogue generalizing past with
  | done result =>
      cases result with
      | ok value => exact begins
      | error fault => exact begins
  | ask asked next ih =>
      refine ⟨allowed asks.1 begins, fun reply assumed => ?_⟩
      exact ih reply (asks.2 reply) (@kept past ⟨asked, reply⟩ asks.1 assumed begins)

end Run

/-! Meetings. -/

variable {ι α : Type} [DecidableEq ι]

namespace Meeting

variable {start middle now : Meeting ι α} {minutes : List (Minute ι)}
variable {contract : ι → Contract} {ends : ι → Except Fault α → Past}

def Honours (contract : ι → Contract) (ends : ι → Except Fault α → Past)
    (minutes : List (Minute ι)) (now : Meeting ι α) : Prop :=
  ∀ speaker, (now.talks speaker).Honours (contract speaker) (ends speaker)
    (turnsOf speaker minutes)

theorem honours_opening {records : Records} {runs : ι → Run α}
    (honours : ∀ speaker,
      (ExceptT.run (runs speaker)).Honours (contract speaker) (ends speaker) []) :
    Honours contract ends [] (.opening records runs) :=
  honours

theorem Speaks.allowed {minute : Minute ι} (speaks : middle.Speaks minute now)
    (honours : Honours contract ends minutes middle) :
    (contract minute.speaker).allows (turnsOf minute.speaker minutes) minute.turn.asked := by
  cases speaks with
  | @turn speaker asked next free asks reply records answered =>
      have told := honours speaker
      rw [asks] at told
      exact told.1

theorem Speaks.honours {minute : Minute ι} (speaks : middle.Speaks minute now)
    (honours : Honours contract ends minutes middle)
    (assumed : (contract minute.speaker).assumes (turnsOf minute.speaker minutes) minute.turn) :
    Honours contract ends (minutes ++ [minute]) now := by
  cases speaks with
  | @turn speaker asked next free asks reply records answered =>
      intro other
      by_cases same : other = speaker
      · subst same
        have told := honours other
        rw [asks] at told
        rw [turnsOf_own, heard_talk_own]
        exact told.2 reply assumed
      · rw [turnsOf_other minutes (Ne.symm same), heard_talk_other _ same]
        exact honours other

theorem Reached.honours (reached : start.Reached minutes now)
    (honours : Honours contract ends [] start)
    (assumed : ∀ speaker past turn, (contract speaker).assumes past turn) :
    Honours contract ends minutes now := by
  induction reached with
  | start => exact honours
  | turn _ speaks ih => exact speaks.honours ih (assumed _ _ _)

end Meeting

/-! What becomes of one step in a meeting. -/

def Turn.moved (key : String) : Turn → Option Status
  | ⟨.move move, .ok _⟩ => if move.step = key then some move.status else none
  | _ => none

section

variable {key : String} {status : Status}

theorem Turn.eq_of_moved {turn : Turn} (moved : turn.moved key = some status) :
    ∃ move state, turn = ⟨.move move, .ok state⟩ ∧ move.step = key ∧ move.status = status := by
  obtain ⟨asked, reply⟩ := turn
  cases asked with
  | move move =>
      cases reply with
      | ok state =>
          simp only [Turn.moved, Option.ite_none_right_eq_some, Option.some.injEq] at moved
          exact ⟨move, state, rfl, moved⟩
      | error error => cases moved
  | _ => cases moved

theorem Turn.moved_move {move : Move} {state : StepState} (own : move.step = key) :
    (⟨.move move, .ok state⟩ : Turn).moved key = some move.status :=
  if_pos own

variable {before after : Records} {asked : Request} {reply : asked.Answer}

theorem Records.status_of_moved (answered : before.Answers asked reply after)
    (moved : Turn.moved key ⟨asked, reply⟩ = some status) :
    (before.status key).mayBecome status = true ∧ after.status key = status := by
  obtain ⟨move, state, same, rfl, rfl⟩ := Turn.eq_of_moved moved
  cases same
  rcases Moves.cases answered with ⟨may, -, -, reached⟩ | ⟨-, ⟨error, refused, -⟩, -⟩
  · exact ⟨may, reached⟩
  · cases refused

theorem Records.status_of_unmoved (answered : before.Answers asked reply after)
    (unmoved : Turn.moved key ⟨asked, reply⟩ = none) : after.status key = before.status key := by
  cases asked with
  | move move =>
      rcases Moves.cases answered with ⟨-, ⟨state, rfl⟩, same, -⟩ | ⟨-, -, rfl⟩
      · apply same.status
        rintro rfl
        simp [Turn.moved] at unmoved
      · rfl
  | setIndex step index =>
      obtain rfl := answered
      exact setIndex_status before step key index
  | enterSequence selector =>
      obtain rfl := answered
      unfold enter
      split <;> rfl
  | leaveSequence selector =>
      obtain rfl := answered
      rfl
  | _ => rw [eq_of_answers rfl answered]

end

namespace Meeting

variable {start middle now : Meeting ι α} {minutes : List (Minute ι)} {key : String}

theorem Speaks.status_of_moved {minute : Minute ι} {status : Status}
    (speaks : middle.Speaks minute now) (moved : minute.turn.moved key = some status) :
    (middle.records.status key).mayBecome status = true ∧ now.records.status key = status := by
  cases speaks with
  | turn _ _ _ answered => exact Records.status_of_moved answered moved

theorem Speaks.status_of_unmoved {minute : Minute ι} (speaks : middle.Speaks minute now)
    (unmoved : minute.turn.moved key = none) :
    now.records.status key = middle.records.status key := by
  cases speaks with
  | turn _ _ _ answered => exact Records.status_of_unmoved answered unmoved

end Meeting

end Walkthrough
