import Walkthrough.Request
import Walkthrough.Step
/-!
What a run asks and what it hears. The records of the steps answer for themselves: they say what is
written in them and take down what they are told. Everything else, which is the page, the facts,
the pauses and the settings, may answer in any way at all, by a failure too. A run is held from one
state of the records to another, with the turns of the talk in between and a result at the end.
-/

namespace Walkthrough

/-- What all runs share: the states of the steps, and the sequences that are being walked. -/
structure Records where
  store : Store
  active : List String

/-- One question with its answer. -/
structure Turn where
  asked : Request
  reply : asked.Answer

namespace Records

def status (records : Records) (step : String) : Status :=
  records.store.status step

def enter (records : Records) (selector : String) : Records :=
  if records.active.contains selector then records
  else { records with active := records.active ++ [selector] }

def leave (records : Records) (selector : String) : Records :=
  { records with active := records.active.filter (· != selector) }

/-- An accepted move is written down, a refused one changes nothing. -/
def Moves (before : Records) (move : Move) (reply : Except GuideError StepState)
    (after : Records) : Prop :=
  match before.store.transition move with
  | .ok (_, store) => reply = .ok (store.get move.step) ∧ after = { before with store := store }
  | .error error => reply = .error error ∧ after = before

/-- The answers that a request can get, and the records afterwards. -/
def Answers (before : Records) : (asked : Request) → asked.Answer → Records → Prop
  | .states, reply, after => reply = before.store ∧ after = before
  | .activeSequences, reply, after => reply = before.active ∧ after = before
  | .move move, reply, after => before.Moves move reply after
  | .setIndex step index, _, after =>
      after = { before with store := before.store.setIndex step index }
  | .enterSequence selector, _, after => after = before.enter selector
  | .leaveSequence selector, _, after => after = before.leave selector
  | .page _, _, after | .lookup _, _, after | .collect _, _, after | .pause _, _, after
  | .announce _, _, after | .settings, _, after => after = before

theorem Answers.unique {before middle after : Records} {asked : Request} {reply : asked.Answer}
    (first : before.Answers asked reply middle) (second : before.Answers asked reply after) :
    middle = after := by
  cases asked with
  | states | activeSequences => exact first.2.trans second.2.symm
  | move move =>
      have first : before.Moves move reply middle := first
      have second : before.Moves move reply after := second
      unfold Moves at first second
      cases moved : before.store.transition move with
      | ok pair =>
          rw [moved] at first second
          exact first.2.trans second.2.symm
      | error error =>
          rw [moved] at first second
          exact first.2.trans second.2.symm
  | _ => exact Eq.trans first (Eq.symm second)

end Records

/-! Dialogues. -/

namespace Dialogue

variable {α β : Type} {before after : Records} {trace : List Turn}

inductive Held : Dialogue Request.Answer α → Records → List Turn → Records → α → Prop where
  | done (result : α) (records : Records) : Held (.done result) records [] records result
  | ask {asked : Request} {next : asked.Answer → Dialogue Request.Answer α} {reply : asked.Answer}
      {before middle after : Records} {trace : List Turn} {result : α}
      (answered : before.Answers asked reply middle)
      (rest : Held (next reply) middle trace after result) :
      Held (.ask asked next) before (⟨asked, reply⟩ :: trace) after result

theorem held_done_iff {value result : α} :
    Held (.done value) before trace after result ↔
      trace = [] ∧ after = before ∧ result = value := by
  constructor
  · intro held
    cases held
    exact ⟨rfl, rfl, rfl⟩
  · rintro ⟨rfl, rfl, rfl⟩
    exact .done _ _

theorem held_ask_iff {asked : Request} {next : asked.Answer → Dialogue Request.Answer α}
    {result : α} :
    Held (.ask asked next) before trace after result ↔
      ∃ reply middle rest, before.Answers asked reply middle ∧
        Held (next reply) middle rest after result ∧ trace = ⟨asked, reply⟩ :: rest := by
  constructor
  · intro held
    cases held with
    | ask answered rest => exact ⟨_, _, _, answered, rest, rfl⟩
  · rintro ⟨reply, middle, rest, answered, held, rfl⟩
    exact .ask answered held

theorem held_bind_iff {dialogue : Dialogue Request.Answer α}
    {continuation : α → Dialogue Request.Answer β} {result : β} :
    Held (dialogue.bind continuation) before trace after result ↔
      ∃ value first middle second, Held dialogue before first middle value ∧
        Held (continuation value) middle second after result ∧ trace = first ++ second := by
  constructor
  · intro held
    induction dialogue generalizing before trace with
    | done value => exact ⟨value, [], before, trace, .done _ _, held, rfl⟩
    -- the first turn is asked by the first part
    | ask asked next ih =>
        obtain ⟨reply, middle, rest, answered, tail, rfl⟩ := held_ask_iff.1 held
        obtain ⟨value, first, between, second, head, last, rfl⟩ := ih reply tail
        exact ⟨value, _, between, second, .ask answered head, last, rfl⟩
  · rintro ⟨value, first, middle, second, head, last, rfl⟩
    induction head with
    | done => exact last
    | ask answered _ ih => exact .ask answered (ih last)

/-- A dialogue is determined by the answers it hears: two talks of it, of which one does not go on
where the other has ended, are one talk. -/
theorem Held.unique {dialogue : Dialogue Request.Answer α} {middle : Records}
    {other rest later : List Turn} {result found : α}
    (first : dialogue.Held before trace middle result)
    (second : dialogue.Held before other after found) (same : trace ++ rest = other ++ later) :
    trace = other ∧ middle = after ∧ result = found := by
  induction first generalizing other with
  | done value records =>
      obtain ⟨rfl, rfl, rfl⟩ := held_done_iff.1 second
      exact ⟨rfl, rfl, rfl⟩
  | @ask asked next reply before middle last trace result answered held ih =>
      obtain ⟨heard, between, turns, replied, tail, rfl⟩ := held_ask_iff.1 second
      -- the first turns are the same, so the same answer was heard
      obtain ⟨turn, others⟩ := List.cons.inj same
      have reply_eq : reply = heard := eq_of_heq (Turn.mk.inj turn).2
      subst reply_eq
      have middle_eq : middle = between := answered.unique replied
      subst middle_eq
      obtain ⟨rfl, ends, results⟩ := ih tail others
      exact ⟨rfl, ends, results⟩

end Dialogue

/-! Runs. -/

namespace Run

variable {α β : Type} {before after : Records} {trace : List Turn}

def Held (run : Run α) (before : Records) (trace : List Turn) (after : Records)
    (result : Except Fault α) : Prop :=
  Dialogue.Held (ExceptT.run run) before trace after result

theorem Held.unique {run : Run α} {middle : Records} {other rest later : List Turn}
    {result found : Except Fault α} (first : run.Held before trace middle result)
    (second : run.Held before other after found) (same : trace ++ rest = other ++ later) :
    trace = other ∧ middle = after ∧ result = found :=
  Dialogue.Held.unique first second same

theorem Held.result_unique {run : Run α} {middle : Records} {result found : Except Fault α}
    (first : run.Held before trace middle result) (second : run.Held before trace after found) :
    result = found :=
  (first.unique second (rfl : trace ++ [] = trace ++ [])).2.2

theorem held_pure {value : α} {result : Except Fault α} :
    (pure value : Run α).Held before trace after result ↔
      trace = [] ∧ after = before ∧ result = .ok value :=
  Dialogue.held_done_iff

theorem held_pure_ok {value found : α} :
    (pure value : Run α).Held before trace after (.ok found) ↔
      trace = [] ∧ after = before ∧ found = value := by
  rw [held_pure, Except.ok.injEq]

theorem not_held_pure_error {value : α} {fault : Fault} :
    ¬(pure value : Run α).Held before trace after (.error fault) := by
  rw [held_pure]
  rintro ⟨-, -, same⟩
  cases same

theorem held_throw {fault : Fault} {result : Except Fault α} :
    (throw fault : Run α).Held before trace after result ↔
      trace = [] ∧ after = before ∧ result = .error fault :=
  Dialogue.held_done_iff

/-- Either both parts of a run are held one after the other, or the first one fails. -/
theorem held_bind {run : Run α} {next : α → Run β} {result : Except Fault β} :
    (run >>= next).Held before trace after result ↔
      (∃ value first middle second, run.Held before first middle (.ok value) ∧
        (next value).Held middle second after result ∧ trace = first ++ second) ∨
      ∃ fault, run.Held before trace after (.error fault) ∧ result = .error fault := by
  refine Dialogue.held_bind_iff.trans ?_
  constructor
  · rintro ⟨value, first, middle, second, head, last, rfl⟩
    cases value with
    | ok value => exact .inl ⟨value, first, middle, second, head, last, rfl⟩
    | error fault =>
        obtain ⟨rfl, rfl, rfl⟩ := Dialogue.held_done_iff.1 last
        exact .inr ⟨fault, by rw [List.append_nil]; exact head, rfl⟩
  · rintro (⟨value, first, middle, second, head, last, rfl⟩ | ⟨fault, failed, rfl⟩)
    · exact ⟨.ok value, first, middle, second, head, last, rfl⟩
    · exact ⟨.error fault, trace, after, [], failed, .done _ _, by simp⟩

theorem held_bind_ok {run : Run α} {next : α → Run β} {found : β} :
    (run >>= next).Held before trace after (.ok found) ↔
      ∃ value first middle second, run.Held before first middle (.ok value) ∧
        (next value).Held middle second after (.ok found) ∧ trace = first ++ second := by
  rw [held_bind]
  constructor
  · rintro (both | ⟨fault, -, same⟩)
    · exact both
    · cases same
  · exact .inl

theorem held_bind_pure_ok {run : Run α} {finish : α → β} {found : β} :
    (run >>= fun value => pure (finish value)).Held before trace after (.ok found) ↔
      ∃ value, run.Held before trace after (.ok value) ∧ found = finish value := by
  rw [held_bind_ok]
  constructor
  · rintro ⟨value, first, middle, second, head, last, rfl⟩
    obtain ⟨rfl, rfl, rfl⟩ := held_pure_ok.1 last
    exact ⟨value, by rwa [List.append_nil], rfl⟩
  · rintro ⟨value, held, rfl⟩
    exact ⟨value, trace, after, [], held, held_pure_ok.2 ⟨rfl, rfl, rfl⟩, by simp⟩

theorem held_bind_pure_error {run : Run α} {finish : α → β} {fault : Fault} :
    (run >>= fun value => pure (finish value)).Held before trace after (.error fault) ↔
      run.Held before trace after (.error fault) := by
  rw [held_bind]
  constructor
  · rintro (⟨_, _, _, _, -, last, -⟩ | ⟨fault, failed, same⟩)
    · exact (not_held_pure_error last).elim
    · cases same
      exact failed
  · exact fun failed => .inr ⟨fault, failed, rfl⟩

theorem held_map {run : Run α} {change : α → β} {result : Except Fault β} :
    (change <$> run).Held before trace after result ↔
      ∃ inner, run.Held before trace after inner ∧ result = inner.map change := by
  rw [← bind_pure_comp, held_bind]
  constructor
  · rintro (⟨value, first, middle, second, head, last, rfl⟩ | ⟨fault, failed, rfl⟩)
    · obtain ⟨rfl, rfl, rfl⟩ := held_pure.1 last
      exact ⟨.ok value, by simpa using head, rfl⟩
    · exact ⟨.error fault, failed, rfl⟩
  · rintro ⟨inner, held, rfl⟩
    cases inner with
    | ok value => exact .inl ⟨value, trace, after, [], held, held_pure.2 ⟨rfl, rfl, rfl⟩, by simp⟩
    | error fault => exact .inr ⟨fault, held, rfl⟩

theorem held_discard {run : Run α} {result : Except Fault Unit} :
    (discard run).Held before trace after result ↔
      ∃ inner, run.Held before trace after inner ∧ result = inner.map fun _ => () :=
  held_map

theorem held_tryCatch {run : Run α} {rescue : Fault → Run α} {result : Except Fault α} :
    (tryCatch run rescue).Held before trace after result ↔
      (∃ value, run.Held before trace after (.ok value) ∧ result = .ok value) ∨
      ∃ fault first middle second, run.Held before first middle (.error fault) ∧
        (rescue fault).Held middle second after result ∧ trace = first ++ second := by
  refine Dialogue.held_bind_iff.trans ?_
  constructor
  · rintro ⟨value, first, middle, second, head, last, rfl⟩
    cases value with
    | ok value =>
        obtain ⟨rfl, rfl, rfl⟩ := Dialogue.held_done_iff.1 last
        exact .inl ⟨value, by rw [List.append_nil]; exact head, rfl⟩
    | error fault => exact .inr ⟨fault, first, middle, second, head, last, rfl⟩
  · rintro (⟨value, held, rfl⟩ | ⟨fault, first, middle, second, head, last, rfl⟩)
    · exact ⟨.ok value, trace, after, [], held, .done _ _, by simp⟩
    · exact ⟨.error fault, first, middle, second, head, last, rfl⟩

/-! Single requests. -/

theorem held_ask {asked : Request} {result : Except Fault asked.Answer} :
    (ask asked).Held before trace after result ↔
      ∃ reply, before.Answers asked reply after ∧ trace = [⟨asked, reply⟩] ∧
        result = .ok reply := by
  constructor
  · intro held
    obtain ⟨reply, middle, rest, answered, tail, rfl⟩ := Dialogue.held_ask_iff.1 held
    obtain ⟨rfl, rfl, rfl⟩ := Dialogue.held_done_iff.1 tail
    exact ⟨reply, answered, rfl, rfl⟩
  · rintro ⟨reply, answered, rfl, rfl⟩
    exact .ask answered (.done _ _)

theorem held_ask_bind {asked : Request} {next : asked.Answer → Run α} {result : Except Fault α} :
    (ask asked >>= next).Held before trace after result ↔
      ∃ reply middle rest, before.Answers asked reply middle ∧
        (next reply).Held middle rest after result ∧ trace = ⟨asked, reply⟩ :: rest :=
  Dialogue.held_ask_iff

theorem held_page {call : PageCall} {result : Except Fault call.Answer} :
    (page call).Held before trace after result ↔
      trace = [⟨.page call, result⟩] ∧ after = before := by
  constructor
  · intro held
    obtain ⟨reply, middle, rest, answered, tail, rfl⟩ := Dialogue.held_ask_iff.1 held
    obtain ⟨rfl, rfl, rfl⟩ := Dialogue.held_done_iff.1 tail
    exact ⟨rfl, answered⟩
  · rintro ⟨rfl, rfl⟩
    exact .ask rfl (.done _ _)

theorem held_settings_bind {next : Tuning → Run α} {result : Except Fault α} :
    (settings >>= next).Held before trace after result ↔
      ∃ tuning rest, (next tuning).Held before rest after result ∧
        trace = ⟨.settings, tuning⟩ :: rest := by
  refine held_ask_bind.trans ?_
  constructor
  · rintro ⟨tuning, middle, rest, rfl, held, rfl⟩
    exact ⟨tuning, rest, held, rfl⟩
  · rintro ⟨tuning, rest, held, rfl⟩
    exact ⟨tuning, before, rest, rfl, held, rfl⟩

theorem held_status_bind {key : String} {next : Status → Run α} {result : Except Fault α} :
    (status key >>= next).Held before trace after result ↔
      ∃ rest, (next (before.status key)).Held before rest after result ∧
        trace = ⟨.states, before.store⟩ :: rest := by
  have opened : (status key >>= next) =
      ask .states >>= fun store => next (store.get key).status := by
    simp only [status, state, bind_assoc, pure_bind]
  rw [opened, held_ask_bind]
  constructor
  · rintro ⟨reply, middle, rest, ⟨rfl, rfl⟩, held, rfl⟩
    exact ⟨rest, held, rfl⟩
  · rintro ⟨rest, held, rfl⟩
    exact ⟨_, before, rest, ⟨rfl, rfl⟩, held, rfl⟩

theorem held_outcome {run : Run α} {result : Except Fault (Except Fault α)} :
    (outcome run).Held before trace after result ↔
      ∃ inner, run.Held before trace after inner ∧ result = .ok inner := by
  constructor
  · intro held
    obtain ⟨inner, first, middle, second, head, last, rfl⟩ := Dialogue.held_bind_iff.1 held
    obtain ⟨rfl, rfl, rfl⟩ := Dialogue.held_done_iff.1 last
    exact ⟨inner, by rw [List.append_nil]; exact head, rfl⟩
  · rintro ⟨inner, held, rfl⟩
    exact Dialogue.held_bind_iff.2 ⟨inner, trace, after, [], held, .done _ _, by simp⟩

theorem held_outcome_bind {run : Run α} {next : Except Fault α → Run β}
    {result : Except Fault β} :
    (outcome run >>= next).Held before trace after result ↔
      ∃ inner first middle second, run.Held before first middle inner ∧
        (next inner).Held middle second after result ∧ trace = first ++ second := by
  rw [held_bind]
  constructor
  · rintro (⟨value, first, middle, second, head, last, rfl⟩ | ⟨fault, failed, rfl⟩)
    · obtain ⟨inner, held, same⟩ := held_outcome.1 head
      cases same
      exact ⟨value, first, middle, second, held, last, rfl⟩
    · obtain ⟨inner, held, same⟩ := held_outcome.1 failed
      cases same
  · rintro ⟨inner, first, middle, second, held, last, rfl⟩
    exact .inl ⟨inner, first, middle, second, held_outcome.2 ⟨inner, held, rfl⟩, last, rfl⟩

theorem held_ofMisuse {value : Except Misuse α} {result : Except Fault α} :
    (ofMisuse value).Held before trace after result ↔
      trace = [] ∧ after = before ∧ result = value.mapError Fault.misuse := by
  cases value with
  | ok value => exact held_pure
  | error cause => exact held_throw

end Run

/-! Whoever answers. -/

section Answering

variable {σ α : Type} (answer : (asked : Request) → StateM σ asked.Answer) (view : σ → Records)

def Faithful : Prop :=
  ∀ asked situation,
    (view situation).Answers asked ((answer asked).run situation).1
      (view ((answer asked).run situation).2)

/-- A run that is put to someone whose answers about the records are true is held, whatever else
is answered. So every run comes to an end. -/
theorem held_of_faithful (faithful : Faithful answer view) (run : Run α) (situation : σ) :
    ∃ trace,
      run.Held (view situation) trace
        (view ((Dialogue.holdWith answer run.run).run situation).2)
        ((Dialogue.holdWith answer run.run).run situation).1 ∧
      ∀ turn ∈ trace, ∃ met, turn.reply = ((answer turn.asked).run met).1 := by
  suffices general : ∀ (dialogue : Dialogue Request.Answer (Except Fault α)) (situation : σ),
      ∃ trace,
        dialogue.Held (view situation) trace
          (view ((Dialogue.holdWith answer dialogue).run situation).2)
          ((Dialogue.holdWith answer dialogue).run situation).1 ∧
        ∀ turn ∈ trace, ∃ met, turn.reply = ((answer turn.asked).run met).1 from
    general run.run situation
  intro dialogue
  -- whoever answers, the dialogue grows by one turn for each request
  induction dialogue with
  | done result =>
      intro situation
      exact ⟨[], .done _ _, by simp⟩
  | ask asked next ih =>
      intro situation
      obtain ⟨trace, held, known⟩ :=
        ih ((answer asked).run situation).1 ((answer asked).run situation).2
      refine ⟨_, .ask (faithful asked situation) held, ?_⟩
      intro turn member
      rcases List.mem_cons.1 member with rfl | later
      · exact ⟨situation, rfl⟩
      · exact known turn later

end Answering

/-- Surroundings that always answer alike: the page replies to a call without memory, the tuning is
fixed, no fact is to be had, and no pause fails. -/
structure Scene where
  page : (call : PageCall) → Except Fault call.Answer
  tuning : Tuning

namespace Scene

def unhurried (attempts : Int) : Tuning where
  highlightDuration := .int 0
  retryMax := .whole attempts
  retryDelay := .whole 0
  showOnlyStepDelay := .whole 0
  previewSettle := .whole 0
  actionDelay := .whole 0
  stateChangeDelay := .whole 0
  multistepShowDelay := .whole 0
  multistepStepDelay := .whole 0
  requirementTimeout := .whole 0
  unknownRequirementsPass := false
  menuSelector := .text ""
  contentRootSelector := .text ""

def move (move : Move) : StateM Records (Except GuideError StepState) :=
  fun records =>
    match records.store.transition move with
    | .ok (_, store) => (.ok (store.get move.step), { records with store := store })
    | .error error => (.error error, records)

def answer (scene : Scene) (asked : Request) : StateM Records asked.Answer :=
  match asked with
  | .page call => pure (scene.page call)
  | .lookup _ => pure (.now (.error (.broken "no facts")))
  | .collect _ => pure (.error (.broken "no facts"))
  | .pause _ => pure (.ok ())
  | .announce _ => pure ()
  | .settings => pure scene.tuning
  | .states => fun records => (records.store, records)
  | .move asked => move asked
  | .setIndex step index => fun records =>
      ((), { records with store := records.store.setIndex step index })
  | .activeSequences => fun records => (records.active, records)
  | .enterSequence selector => fun records => ((), records.enter selector)
  | .leaveSequence selector => fun records => ((), records.leave selector)

theorem faithful (scene : Scene) : Faithful scene.answer id := by
  intro asked records
  cases asked with
  | move asked =>
      change records.Moves asked (move asked records).1 (move asked records).2
      unfold Records.Moves move
      cases records.store.transition asked with
      | ok pair => exact ⟨rfl, rfl⟩
      | error error => exact ⟨rfl, rfl⟩
  | states | activeSequences => exact ⟨rfl, rfl⟩
  | _ => rfl

def outcome {α : Type} (scene : Scene) (run : Run α) (records : Records) :
    Except Fault α × Records :=
  (Dialogue.holdWith scene.answer run.run).run records

def Gave (scene : Scene) (turn : Turn) : Prop :=
  ∃ met, turn.reply = ((scene.answer turn.asked).run met).1

theorem held {α : Type} (scene : Scene) (run : Run α) (records : Records) :
    ∃ trace, run.Held records trace (scene.outcome run records).2 (scene.outcome run records).1 ∧
      ∀ turn ∈ trace, scene.Gave turn :=
  held_of_faithful scene.answer id scene.faithful run records

theorem answer_unique {scene : Scene} {asked : Request} {reply : asked.Answer}
    {before after : Records} (gave : scene.Gave ⟨asked, reply⟩)
    (answered : before.Answers asked reply after) :
    (scene.answer asked).run before = (reply, after) := by
  obtain ⟨met, same⟩ := gave
  cases asked with
  | states | activeSequences =>
      obtain ⟨rfl, rfl⟩ := answered
      rfl
  | move asked =>
      have moves : before.Moves asked reply after := answered
      change move asked before = (reply, after)
      unfold Records.Moves at moves
      unfold move
      cases accepted : before.store.transition asked with
      | ok pair =>
          rw [accepted] at moves
          obtain ⟨rfl, rfl⟩ := moves
          rfl
      | error error =>
          rw [accepted] at moves
          obtain ⟨rfl, rfl⟩ := moves
          rfl
  | setIndex | enterSequence | leaveSequence =>
      obtain rfl := answered
      rfl
  | _ =>
      obtain rfl := answered
      cases same
      rfl

/-- A run that was held with the scene comes to what it comes to there, wherever it is part of
another one. -/
theorem outcome_of_held {α : Type} {scene : Scene} {run : Run α} {before after : Records}
    {trace : List Turn} {result : Except Fault α} (held : run.Held before trace after result)
    (given : ∀ turn ∈ trace, scene.Gave turn) : scene.outcome run before = (result, after) := by
  unfold Run.Held at held
  unfold outcome
  generalize ExceptT.run run = dialogue at held
  induction held with
  | done => rfl
  | @ask asked next reply before middle after trace result answered rest ih =>
      obtain ⟨here, later⟩ := List.forall_mem_cons.1 given
      have told : (Dialogue.holdWith scene.answer (.ask asked next)).run before =
          (Dialogue.holdWith scene.answer (next ((scene.answer asked).run before).1)).run
            ((scene.answer asked).run before).2 := rfl
      rw [told, answer_unique here answered]
      exact ih later

end Scene

def detour : Step where
  action := .navigate
  target := "/detour"
  value := none
  requirements := none
  objectives := none
  hints := none
  identity := .ofStep "detour"
  custom := []
  body := .single

def signpost : List (String × String) :=
  [("data-targetaction", "navigate"), ("data-reftarget", "/detour"), ("data-requirements", ""),
    ("data-step-id", "detour")]

/-- A page with that one control, on which everything succeeds. -/
def roadside : Scene where
  page
    | .query .. => .ok [0]
    | .attributes _ => .ok signpost
    | .pushRoute _ | .markCompleted _ | .clearCompleted _ | .completionEvent .. | .settle => .ok ()
    | _ => .error (.page "empty")
  tuning := Scene.unhurried 3

end Walkthrough
