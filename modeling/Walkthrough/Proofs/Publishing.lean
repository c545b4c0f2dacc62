import Walkthrough.Proofs.Course
/-!
What listeners are told. Every accepted move publishes how the step stood before and how it stands
now, so the changes that a talk publishes can be told from its turns and from the records it
started with. A step that is set running publishes its start, after its way back to idle if it had
one.
-/

namespace Walkthrough

namespace Records

def following (records : Records) : Request → Records
  | .move move =>
      match records.store.transition move with
      | .ok (_, store) => { records with store := store }
      | .error _ => records
  | .setIndex step index => { records with store := records.store.setIndex step index }
  | .enterSequence selector => records.enter selector
  | .leaveSequence selector => records.leave selector
  | _ => records

/-- The change that a request publishes, which is that of an accepted move. -/
def news (records : Records) : Request → List StateChange
  | .move move =>
      match records.store.transition move with
      | .ok (change, _) => [change]
      | .error _ => []
  | _ => []

def published (records : Records) : List Turn → List StateChange
  | [] => []
  | turn :: rest =>
      records.news turn.asked ++ (records.following turn.asked).published rest

variable {before after : Records}

theorem Answers.following_eq {asked : Request} {reply : asked.Answer}
    (answered : before.Answers asked reply after) : before.following asked = after := by
  cases asked with
  | states | activeSequences => exact answered.2.symm
  | move move =>
      have moves : before.Moves move reply after := answered
      unfold Moves at moves
      unfold following
      cases accepted : before.store.transition move with
      | ok pair =>
          rw [accepted] at moves
          simp [accepted, moves.2]
      | error error =>
          rw [accepted] at moves
          simp [accepted, moves.2]
  | _ => exact Eq.symm answered

theorem published_of_passes {trace : List Turn}
    (passes : ∀ turn ∈ trace, turn.asked.passes = true) (records : Records) :
    records.published trace = [] := by
  induction trace generalizing records with
  | nil => rfl
  | cons turn rest ih =>
      have here := passes turn List.mem_cons_self
      have quiet : records.news turn.asked = [] := by
        cases asked : turn.asked with
        | move move =>
            rw [asked] at here
            cases here
        | _ => rfl
      rw [published, quiet, List.nil_append]
      exact ih (fun turn member => passes turn (List.mem_cons_of_mem _ member)) _

theorem published_move (move : Move)
    (may : (before.status move.step).mayBecome move.status = true)
    (reply : Except GuideError StepState) :
    before.published [⟨.move move, reply⟩] =
      [⟨move.step, before.status move.step, move.status,
        (Store.moved (before.store.get move.step) move).error,
        (Store.moved (before.store.get move.step) move).index⟩] := by
  have allowed : (before.store.get move.step).status.mayBecome move.status = true := may
  simp [published, news, Store.transition, allowed, Records.status, Store.status]

theorem published_concat {turn : Turn} (quiet : ∀ records : Records, records.news turn.asked = [])
    (trace : List Turn) (records : Records) :
    records.published (trace ++ [turn]) = records.published trace := by
  induction trace generalizing records with
  | nil => simp [published, quiet]
  | cons first rest ih => rw [List.cons_append, published, published, ih]

theorem get_following_move (move : Move)
    (may : (before.status move.step).mayBecome move.status = true) :
    (before.following (.move move)).store.get move.step =
      Store.moved (before.store.get move.step) move := by
  have allowed : (before.store.get move.step).status.mayBecome move.status = true := may
  simp [following, Store.transition, allowed, Store.get_put_same]

end Records

theorem Run.Held.foldl_following {α : Type} {run : Run α} {before after : Records}
    {trace : List Turn} {result : Except Fault α} (held : run.Held before trace after result) :
    trace.foldl (fun records turn => records.following turn.asked) before = after := by
  unfold Held at held
  generalize ExceptT.run run = dialogue at held
  induction held with
  | done => rfl
  | ask answered _ ih => rw [List.foldl_cons, answered.following_eq, ih]

theorem Run.Held.published_append {α : Type} {run : Run α} {before after : Records}
    {trace : List Turn} {result : Except Fault α} (held : run.Held before trace after result)
    (rest : List Turn) :
    before.published (trace ++ rest) = before.published trace ++ after.published rest := by
  unfold Held at held
  generalize ExceptT.run run = dialogue at held
  induction held with
  | done => rfl
  | ask answered _ ih =>
      rw [List.cons_append, Records.published, Records.published, answered.following_eq, ih,
        List.append_assoc]

/-- The index with which a step starts to run; on the way back to idle it is lost. -/
def StepState.resumed (state : StepState) : Option Int :=
  if state.status = .idle then state.index else none

namespace Guide

open Run

variable {before after : Records} {trace : List Turn} {key : String}

def startChanges (key : String) (state : StepState) : List StateChange :=
  (if state.status = .idle then [] else [⟨key, state.status, .idle, none, none⟩]) ++
    [⟨key, .idle, .running, none, state.resumed⟩]

theorem published_running {result : Except Fault Unit}
    (held : (Run.moveTo key .running).Held before trace after result)
    (idle : before.status key = .idle) :
    before.published trace = [⟨key, .idle, .running, none, (before.store.get key).index⟩] ∧
      after.store.get key = ⟨.running, (before.store.get key).index, none⟩ := by
  obtain ⟨reply, moves, rfl, rfl⟩ := held_moveTo.1 held
  have may : (before.status key).mayBecome .running = true := by
    rw [idle]
    rfl
  obtain ⟨-, rfl⟩ := moves.of_mayBecome may
  rw [Records.published_move _ may, Records.write_get, idle]
  exact ⟨rfl, rfl⟩

theorem published_reset {result : Except Fault StepState}
    (held : (Run.reset key).Held before trace after result) (busy : before.status key ≠ .idle) :
    before.published trace = [⟨key, before.status key, .idle, none, none⟩] ∧
      after.store.get key = .fresh := by
  have may := Status.mayBecome_idle_of_ne _ busy
  have written := held.foldl_following
  obtain ⟨-, -, -, ⟨idle, -⟩ | ⟨-, state, rfl⟩⟩ := held_reset held
  · exact absurd idle busy
  · have told := Records.published_move ⟨key, .idle, none, none⟩ may (.ok state)
    subst written
    constructor
    · exact told
    · exact Records.get_following_move ⟨key, .idle, none, none⟩ may

theorem held_begin_ok (held : (begin key).Held before trace after (.ok ())) :
    before.status key ≠ .running ∧ after.status key = .running ∧
      Records.SameBut key before after := by
  rcases held_begin held with ⟨-, -, error, -, same⟩ | ⟨live, -, running, same⟩
  · cases same
  · exact ⟨live, running, same⟩

theorem published_begin (held : (begin key).Held before trace after (.ok ())) :
    before.published trace = startChanges key (before.store.get key) ∧
      after.store.get key = ⟨.running, (before.store.get key).resumed, none⟩ := by
  obtain ⟨live, -⟩ := held_begin_ok held
  obtain ⟨rest, tail, rfl⟩ := held_status_bind.1 held
  change before.published rest = _ ∧ _
  dsimp only at tail
  split at tail
  · next closed =>
      have busy : (before.store.get key).status ≠ .idle := by
        intro idle
        have idle : before.status key = .idle := idle
        rw [idle] at closed
        cases closed
      have index : (before.store.get key).resumed = none := if_neg busy
      obtain ⟨_, opening, idle, _, resets, runs, rfl⟩ := held_bind_ok.1 tail
      obtain ⟨inner, resets, -⟩ := held_discard.1 resets
      obtain ⟨told, fresh⟩ := published_reset resets busy
      have status : idle.status key = .idle := by
        unfold Records.status Store.status
        rw [fresh]
        rfl
      obtain ⟨later, state⟩ := published_running runs status
      rw [resets.published_append, told, later, state, fresh, startChanges, index, if_neg busy]
      exact ⟨rfl, rfl⟩
  · next opened =>
      have idle : (before.store.get key).status = .idle := by
        change before.status key = .idle
        cases status : before.status key with
        | idle => rfl
        | running => exact absurd status live
        | completed | error => simp [status] at opened
      have index : (before.store.get key).resumed = (before.store.get key).index := if_pos idle
      obtain ⟨told, state⟩ := published_running tail idle
      rw [told, state, startChanges, index, if_pos idle]
      exact ⟨rfl, rfl⟩

end Guide

end Walkthrough
