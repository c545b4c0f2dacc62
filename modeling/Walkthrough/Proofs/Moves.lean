import Walkthrough.Proofs.Transcript
import Walkthrough.Guide.Attempt
/-!
What single requests do to the records. A move touches one step only, is accepted exactly if the
table of moves has it, and is otherwise refused without a trace in the records.
-/

namespace Walkthrough

namespace Store

theorem transition_of_mayBecome {store : Store} {move : Move}
    (may : (store.status move.step).mayBecome move.status = true) :
    ∃ change, store.transition move =
      .ok (change, store.put move.step (moved (store.get move.step) move)) := by
  unfold status at may
  simp [transition, may]

theorem transition_of_not_mayBecome {store : Store} {move : Move}
    (may : (store.status move.step).mayBecome move.status = false) :
    ∃ error, error.isConsistency = false ∧ store.transition move = .error error := by
  unfold status at may
  exact ⟨.transition move.step (store.get move.step).status.name move.status.name, rfl,
    by simp [transition, may]⟩

end Store

namespace Records

/-- The state of no other step is touched. -/
structure SameBut (key : String) (before after : Records) : Prop where
  active : after.active = before.active
  others : ∀ other, other ≠ key → after.store.get other = before.store.get other

theorem SameBut.refl (key : String) (records : Records) : SameBut key records records :=
  ⟨rfl, fun _ _ => rfl⟩

theorem SameBut.trans {key : String} {before middle after : Records}
    (first : SameBut key before middle) (second : SameBut key middle after) :
    SameBut key before after := by
  constructor
  · rw [second.active, first.active]
  · intro other distinct
    rw [second.others other distinct, first.others other distinct]

theorem SameBut.status {key other : String} {before after : Records}
    (same : SameBut key before after) (distinct : other ≠ key) :
    after.status other = before.status other := by
  unfold Records.status Store.status
  rw [same.others other distinct]

def write (records : Records) (key : String) (state : StepState) : Records :=
  { records with store := records.store.put key state }

theorem write_sameBut (records : Records) (key : String) (state : StepState) :
    SameBut key records (records.write key state) :=
  ⟨rfl, fun _ distinct => Store.get_put_other _ _ distinct⟩

theorem write_get (records : Records) (key : String) (state : StepState) :
    (records.write key state).store.get key = state :=
  Store.get_put_same _ _ _

theorem write_status (records : Records) (key : String) (state : StepState) :
    (records.write key state).status key = state.status := by
  unfold status Store.status
  rw [write_get]

variable {before after : Records} {move : Move} {reply : Except GuideError StepState}

theorem Moves.of_mayBecome (moves : before.Moves move reply after)
    (may : (before.status move.step).mayBecome move.status = true) :
    reply = .ok (Store.moved (before.store.get move.step) move) ∧
      after = before.write move.step (Store.moved (before.store.get move.step) move) := by
  obtain ⟨change, accepted⟩ := Store.transition_of_mayBecome may
  unfold Moves at moves
  rw [accepted] at moves
  exact ⟨by rw [moves.1, Store.get_put_same], moves.2⟩

theorem Moves.of_not_mayBecome (moves : before.Moves move reply after)
    (may : (before.status move.step).mayBecome move.status = false) :
    (∃ error, reply = .error error ∧ error.isConsistency = false) ∧ after = before := by
  obtain ⟨error, kind, refused⟩ := Store.transition_of_not_mayBecome may
  unfold Moves at moves
  rw [refused] at moves
  exact ⟨⟨error, moves.1, kind⟩, moves.2⟩

theorem Moves.cases (moves : before.Moves move reply after) :
    ((before.status move.step).mayBecome move.status = true ∧ (∃ state, reply = .ok state) ∧
      SameBut move.step before after ∧ after.status move.step = move.status) ∨
    ((before.status move.step).mayBecome move.status = false ∧
      (∃ error, reply = .error error ∧ error.isConsistency = false) ∧ after = before) := by
  cases may : (before.status move.step).mayBecome move.status with
  | true =>
      obtain ⟨accepted, rfl⟩ := moves.of_mayBecome may
      exact .inl ⟨rfl, ⟨_, accepted⟩, write_sameBut _ _ _, write_status _ _ _⟩
  | false => exact .inr ⟨rfl, moves.of_not_mayBecome may⟩

theorem Moves.sameBut (moves : before.Moves move reply after) :
    SameBut move.step before after := by
  rcases moves.cases with ⟨-, -, same, -⟩ | ⟨-, -, rfl⟩
  · exact same
  · exact .refl _ _

theorem setIndex_sameBut (records : Records) (key : String) (index : Int) :
    SameBut key records { records with store := records.store.setIndex key index } :=
  write_sameBut records key _

theorem setIndex_status (records : Records) (key other : String) (index : Int) :
    Records.status { records with store := records.store.setIndex key index } other =
      records.status other := by
  by_cases same : other = key
  · subst same
    exact write_status records other _
  · exact (setIndex_sameBut records key index).status same

end Records

namespace Run

variable {before after : Records} {trace : List Turn}

theorem held_move {move : Move} {result : Except Fault StepState} :
    (Run.move move).Held before trace after result ↔
      ∃ reply, before.Moves move reply after ∧ trace = [⟨.move move, reply⟩] ∧
        result = reply.mapError Fault.guide := by
  refine held_ask_bind.trans ?_
  constructor
  · rintro ⟨reply, middle, rest, moves, tail, rfl⟩
    cases reply with
    | ok state =>
        obtain ⟨rfl, rfl, rfl⟩ := held_pure.1 tail
        exact ⟨_, moves, rfl, rfl⟩
    | error error =>
        obtain ⟨rfl, rfl, rfl⟩ := held_throw.1 tail
        exact ⟨_, moves, rfl, rfl⟩
  · rintro ⟨reply, moves, rfl, rfl⟩
    cases reply with
    | ok state => exact ⟨_, _, _, moves, held_pure.2 ⟨rfl, rfl, rfl⟩, rfl⟩
    | error error => exact ⟨_, _, _, moves, held_throw.2 ⟨rfl, rfl, rfl⟩, rfl⟩

theorem held_moveTo {key : String} {status : Status} {result : Except Fault Unit} :
    (moveTo key status).Held before trace after result ↔
      ∃ reply, before.Moves ⟨key, status, none, none⟩ reply after ∧
        trace = [⟨.move ⟨key, status, none, none⟩, reply⟩] ∧
        result = (reply.mapError Fault.guide).map fun _ => () := by
  refine held_discard.trans ?_
  constructor
  · rintro ⟨inner, held, rfl⟩
    obtain ⟨reply, moves, rfl, rfl⟩ := held_move.1 held
    exact ⟨reply, moves, rfl, rfl⟩
  · rintro ⟨reply, moves, rfl, rfl⟩
    exact ⟨_, held_move.2 ⟨reply, moves, rfl, rfl⟩, rfl⟩

theorem held_reset {key : String} {result : Except Fault StepState}
    (held : (reset key).Held before trace after result) :
    (∃ state, result = .ok state) ∧ after.status key = .idle ∧
      Records.SameBut key before after ∧
      ((before.status key = .idle ∧ after = before ∧ trace = [⟨.states, before.store⟩]) ∨
        (before.status key ≠ .idle ∧ ∃ state,
          trace = [⟨.states, before.store⟩, ⟨.move ⟨key, .idle, none, none⟩, .ok state⟩])) := by
  have opened : reset key = ask .states >>= fun store =>
      if (store.get key).status = .idle then pure (store.get key)
      else Run.move ⟨key, .idle, none, none⟩ := by
    simp only [reset, state, bind_assoc, pure_bind]
  rw [opened] at held
  obtain ⟨reply, middle, rest, ⟨rfl, rfl⟩, tail, rfl⟩ := held_ask_bind.1 held
  split at tail
  · next idle =>
      obtain ⟨rfl, rfl, rfl⟩ := held_pure.1 tail
      exact ⟨⟨_, rfl⟩, idle, .refl _ _, .inl ⟨idle, rfl, rfl⟩⟩
  · next busy =>
      obtain ⟨reply, moves, rfl, rfl⟩ := held_move.1 tail
      obtain ⟨rfl, rfl⟩ := moves.of_mayBecome (Status.mayBecome_idle_of_ne _ busy)
      exact ⟨⟨_, rfl⟩, Records.write_status _ _ _, Records.write_sameBut _ _ _,
        .inr ⟨busy, _, rfl⟩⟩

end Run

end Walkthrough
