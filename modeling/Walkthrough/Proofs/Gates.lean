import Walkthrough.Proofs.Assessing
import Walkthrough.Proofs.Choreography
/-!
The gates in front of a step. Pressing its control starts with an inquiry, which only reads: are
the objectives met, is the step busy, are its requirements met? A multi-step is inquired into
twice. What follows depends on nothing but the findings; only a step whose objectives are not met,
that is neither running nor completed, and whose requirements are all met, goes on to act.
-/

namespace Walkthrough

def Request.reads : Request → Bool
  | states => true
  | request => request.looks

theorem Request.reads_of_looks (request : Request) (looks : request.looks = true) :
    request.reads = true := by
  cases request <;> simp_all [Request.looks, reads]

namespace Run

theorem Held.reads {α : Type} {run : Run α} {before after : Records} {trace : List Turn}
    {result : Except Fault α} (held : run.Held before trace after result)
    (looks : run.Asks (·.looks)) :
    ∀ turn ∈ trace, turn.asked.reads = true :=
  held.asked (asks_mono looks Request.reads_of_looks)

end Run

namespace Guide

open Run

variable {step : Step} {mode : Mode} {before after : Records} {trace : List Turn}

/-! The inquiry. -/

/-- What is found before a step is run: a verdict for each look at its objectives, and the
assessment of its requirements if it comes to that. A multi-step is inquired into again by its own
run. -/
inductive Inquiry (step : Step) (records : Records) :
    Bool → List Turn → List Bool → Option Assessment → Prop where
  | met {twice opening}
      (objectives : (objectivesMet step).Held records opening records (.ok true)) :
      Inquiry step records twice opening [true] none
  | busy {twice opening}
      (objectives : (objectivesMet step).Held records opening records (.ok false))
      (busy : isBusy (records.status step.key) = true) :
      Inquiry step records twice (opening ++ [⟨.states, records.store⟩]) [false] none
  | assessed {opening looks assessment}
      (objectives : (objectivesMet step).Held records opening records (.ok false))
      (free : isBusy (records.status step.key) = false)
      (checks : (check step).Held records looks records (.ok assessment)) :
      Inquiry step records false (opening ++ ⟨.states, records.store⟩ :: looks) [false]
        (some assessment)
  | again {opening rest verdicts required}
      (objectives : (objectivesMet step).Held records opening records (.ok false))
      (free : isBusy (records.status step.key) = false)
      (later : Inquiry step records false rest verdicts required) :
      Inquiry step records true (opening ++ ⟨.states, records.store⟩ :: rest)
        (false :: verdicts) required

namespace Inquiry

variable {records : Records} {twice : Bool} {opening : List Turn} {verdicts : List Bool}
variable {required : Option Assessment}

theorem reads (inquiry : Inquiry step records twice opening verdicts required) :
    ∀ turn ∈ opening, turn.asked.reads = true := by
  have objectives {opening : List Turn} {verdict : Bool}
      (held : (objectivesMet step).Held records opening records (.ok verdict)) :
      ∀ turn ∈ opening, turn.asked.reads = true :=
    held.reads (objectivesMet_looks step)
  induction inquiry with
  | met looked => exact objectives looked
  | busy looked _ =>
      exact List.forall_mem_append.2 ⟨objectives looked, List.forall_mem_cons.2 ⟨rfl, by simp⟩⟩
  | assessed looked _ checks =>
      refine List.forall_mem_append.2 ⟨objectives looked, List.forall_mem_cons.2 ⟨rfl, ?_⟩⟩
      exact checks.reads (check_looks step)
  | again looked _ _ ih =>
      exact List.forall_mem_append.2 ⟨objectives looked, List.forall_mem_cons.2 ⟨rfl, ih⟩⟩

theorem free_of_required {assessment : Assessment}
    (inquiry : Inquiry step records twice opening verdicts (some assessment)) :
    true ∉ verdicts ∧ isBusy (records.status step.key) = false := by
  generalize found : some assessment = required at inquiry
  induction inquiry with
  | met | busy => cases found
  | assessed _ free _ => exact ⟨by simp, free⟩
  | again _ free _ ih => exact ⟨by simpa using (ih found).1, free⟩

end Inquiry

/-! What follows the inquiry. -/

def admitted (step : Step) (mode : Mode) (assessment : Assessment) : Run Outcome :=
  match step.body with
  | .single => Run.outcome (runPlain step mode) >>= reportRun step assessment
  | .multiple actions delay => runActions step.key actions delay assessment

def refusal (step : Step) (explanation : String) : String :=
  match step.body with
  | .single => withHints step.hints explanation
  | .multiple .. => explanation

def respond (step : Step) (mode : Mode) (status : Status) (met : Bool) :
    Option Assessment → Run Outcome
  | none =>
      if met then completeByObjectives step
      else pure (.withheld step.key status (busyMessage status))
  | some assessment =>
      if assessment.passed then admitted step mode assessment
      else pure { Outcome.withheld step.key status (refusal step assessment.explanation) with
        requirements := some assessment }

/-- The objectives and the state of a step are looked at in one way, whatever is behind them. -/
def gated (step : Step) (go : Status → Run Outcome) : Run Outcome := do
  if ← objectivesMet step then completeByObjectives step
  else
    let status ← Run.status step.key
    if isBusy status then return .withheld step.key status (busyMessage status)
    else go status

def assessing (step : Step) (mode : Mode) (status : Status) : Run Outcome :=
  check step >>= fun assessment => respond step mode status false (some assessment)

theorem trigger_single (single : step.body = .single) :
    trigger step mode = gated step (assessing step mode) := by
  obtain ⟨_, _, _, _, _, _, _, _, body⟩ := step
  cases single
  rfl

theorem trigger_multiple {actions : List InnerAction} {delay : Option Nat}
    (multiple : step.body = .multiple actions delay) :
    trigger step mode = gated step fun _ => gated step (assessing step mode) := by
  obtain ⟨_, _, _, _, _, _, _, _, body⟩ := step
  cases multiple
  rfl

theorem held_gated {go : Status → Run Outcome} {result : Except Fault Outcome} :
    (gated step go).Held before trace after result ↔
      (∃ opening rest, (objectivesMet step).Held before opening before (.ok true) ∧
        (completeByObjectives step).Held before rest after result ∧ trace = opening ++ rest) ∨
      ∃ opening rest, (objectivesMet step).Held before opening before (.ok false) ∧
        trace = opening ++ ⟨.states, before.store⟩ :: rest ∧
        (if isBusy (before.status step.key) then
            pure (.withheld step.key (before.status step.key)
              (busyMessage (before.status step.key)))
          else go (before.status step.key)).Held before rest after result := by
  unfold gated
  rw [held_looking_bind (objectivesMet_looks step) (objectivesMet_returns step)]
  constructor
  · rintro ⟨met, opening, rest, looked, tail, rfl⟩
    cases met with
    | true => exact .inl ⟨opening, rest, looked, tail, rfl⟩
    | false =>
        obtain ⟨later, response, rfl⟩ := held_status_bind.1 tail
        exact .inr ⟨opening, later, looked, rfl, response⟩
  · rintro (⟨opening, rest, looked, tail, rfl⟩ | ⟨opening, rest, looked, rfl, tail⟩)
    · exact ⟨true, opening, rest, looked, tail, rfl⟩
    · refine ⟨false, opening, ⟨.states, before.store⟩ :: rest, looked, ?_, rfl⟩
      exact held_status_bind.2 ⟨rest, tail, rfl⟩

def Answered (step : Step) (mode : Mode) (twice : Bool) (before : Records) (trace : List Turn)
    (after : Records) (result : Except Fault Outcome) : Prop :=
  ∃ opening rest verdicts required, Inquiry step before twice opening verdicts required ∧
    (respond step mode (before.status step.key) (verdicts.contains true) required).Held
      before rest after result ∧ trace = opening ++ rest

theorem answered_of_gated {go : Status → Run Outcome} {twice : Bool}
    {result : Except Fault Outcome}
    (held : (gated step go).Held before trace after result)
    (goesOn : ∀ opening rest, (objectivesMet step).Held before opening before (.ok false) →
      isBusy (before.status step.key) = false →
      (go (before.status step.key)).Held before rest after result →
      Answered step mode twice before (opening ++ ⟨.states, before.store⟩ :: rest) after result) :
    Answered step mode twice before trace after result := by
  rcases held_gated.1 held with
    ⟨opening, rest, looked, tail, rfl⟩ | ⟨opening, rest, looked, rfl, tail⟩
  · exact ⟨opening, rest, [true], none, .met looked, tail, rfl⟩
  · split at tail
    · next busy => exact ⟨_, rest, [false], none, .busy looked busy, tail, by simp⟩
    · next free => exact goesOn opening rest looked (by simpa using free) tail

theorem answered_of_assessing {result : Except Fault Outcome}
    (held : (gated step (assessing step mode)).Held before trace after result) :
    Answered step mode false before trace after result := by
  apply answered_of_gated held
  intro opening rest looked free tail
  obtain ⟨assessment, looks, rest, checks, response, rfl⟩ :=
    (held_looking_bind (check_looks step) (check_returns step)).1 tail
  exact ⟨_, rest, [false], some assessment, .assessed looked free checks, response, by simp⟩

theorem answered_of_trigger {result : Except Fault Outcome}
    (held : (trigger step mode).Held before trace after result) :
    Answered step mode (isMultiple step) before trace after result := by
  cases body : step.body with
  | single =>
      rw [trigger_single body] at held
      have once : isMultiple step = false := by simp [isMultiple, body]
      rw [once]
      exact answered_of_assessing held
  | multiple actions delay =>
      rw [trigger_multiple body] at held
      have twice : isMultiple step = true := by simp [isMultiple, body]
      rw [twice]
      apply answered_of_gated held
      intro opening rest looked free tail
      obtain ⟨later, rest, verdicts, required, inquiry, response, rfl⟩ :=
        answered_of_assessing tail
      exact ⟨_, rest, false :: verdicts, required, .again looked free inquiry,
        by simpa using response, by simp⟩

/-! Gates. -/

/-- Every requirement of the step has a verdict of its own, and each of them is that it is met. -/
def Approved (step : Step) (assessment : Assessment) : Prop :=
  assessment.verdicts.length = (Requirement.parseAll (step.requirements.getD "")).length ∧
    ∀ verdict ∈ assessment.verdicts, verdict.passed = true

theorem approved_of_check {assessment : Assessment}
    (held : (check step).Held before trace after (.ok assessment))
    (passed : assessment.passed = true) : Approved step assessment := by
  obtain ⟨-, _, same, assessed⟩ := Requirement.assessed_of_evaluate held
  cases same
  rw [assessed.passed, List.all_eq_true] at passed
  exact ⟨assessed.judged.length_eq.symm, passed⟩

theorem Inquiry.approved {records : Records} {twice : Bool} {opening : List Turn}
    {verdicts : List Bool} {assessment : Assessment}
    (inquiry : Inquiry step records twice opening verdicts (some assessment))
    (passed : assessment.passed = true) : Approved step assessment := by
  generalize found : some assessment = required at inquiry
  induction inquiry with
  | met | busy => cases found
  | assessed _ _ checks =>
      cases found
      exact approved_of_check checks passed
  | again _ _ _ ih => exact ih found

theorem held_withheld {status : Status} {required : Option Assessment}
    {result : Except Fault Outcome}
    (held : (respond step mode status false required).Held before trace after result)
    (shut : ∀ assessment, required = some assessment → assessment.passed = false) :
    trace = [] ∧ after = before ∧ ∃ outcome, result = .ok outcome ∧
      outcome.executed = false ∧ outcome.requirements = required := by
  cases required with
  | none =>
      obtain ⟨rfl, rfl, rfl⟩ := held_pure.1 held
      exact ⟨rfl, rfl, _, rfl, rfl, rfl⟩
  | some assessment =>
      simp only [respond, shut assessment rfl] at held
      obtain ⟨rfl, rfl, rfl⟩ := held_pure.1 held
      exact ⟨rfl, rfl, _, rfl, rfl, rfl⟩

theorem respond_mute {status : Status} {met : Bool} {required : Option Assessment}
    (shut : ∀ assessment, required = some assessment → assessment.passed = false) :
    (respond step mode status met required).Asks (·.mute) := by
  cases required with
  | none =>
      simp only [respond]
      split
      · exact completeByObjectives_mute step
      · exact asks_pure _
  | some assessment =>
      simp only [respond, shut assessment rfl]
      exact asks_pure _

theorem mute_of_reads (request : Request) (reads : request.reads = true) : request.mute = true := by
  cases request <;> simp_all [Request.reads, Request.looks, Request.mute]

theorem commands_answered {opening rest : List Turn} {verdicts : List Bool}
    {required : Option Assessment} {twice : Bool} {result : Except Fault Outcome}
    (inquiry : Inquiry step before twice opening verdicts required)
    (response : (respond step mode (before.status step.key) (verdicts.contains true)
      required).Held before rest after result)
    (acts : commands (opening ++ rest) ≠ []) :
    true ∉ verdicts ∧ isBusy (before.status step.key) = false ∧
      ∃ assessment, required = some assessment ∧ assessment.passed = true := by
  have silent : commands opening = [] :=
    commands_mute fun turn member => mute_of_reads _ (inquiry.reads turn member)
  have open_gate : ¬∀ assessment, required = some assessment → assessment.passed = false := by
    intro shut
    rw [commands_append, silent, commands_of_mute response (respond_mute shut)] at acts
    exact acts rfl
  cases required with
  | none => simp at open_gate
  | some assessment =>
      exact ⟨inquiry.free_of_required.1, inquiry.free_of_required.2, assessment, rfl,
        by simpa using open_gate⟩

/-- A trigger starts with an inquiry that only reads. If the objectives are found not to be met,
and the step is completed or its requirements are not met, the trigger ends there; nothing has been
done, and the outcome says so. If the objectives are found to be met, no action is carried out. So
actions are carried out only for a step that was idle or in an error, whose objectives were not met
and whose requirements were all met. -/
theorem trigger_gated {result : Except Fault Outcome}
    (held : (trigger step mode).Held before trace after result) :
    ∃ opening rest verdicts required, trace = opening ++ rest ∧
      Inquiry step before (isMultiple step) opening verdicts required ∧
      (∀ turn ∈ opening, turn.asked.reads = true) ∧
      (true ∉ verdicts → (before.status step.key = .completed ∨
          ∃ assessment, required = some assessment ∧ assessment.passed = false) →
        rest = [] ∧ after = before ∧ ∃ outcome, result = .ok outcome ∧
          outcome.executed = false ∧ outcome.requirements = required) ∧
      (true ∈ verdicts → commands trace = []) ∧
      (commands trace ≠ [] →
        (before.status step.key = .idle ∨ before.status step.key = .error) ∧ true ∉ verdicts ∧
          ∃ assessment, required = some assessment ∧ Approved step assessment) := by
  obtain ⟨opening, rest, verdicts, required, inquiry, response, rfl⟩ := answered_of_trigger held
  refine ⟨opening, rest, verdicts, required, rfl, inquiry, inquiry.reads, ?_, ?_, ?_⟩
  · intro unmet shut
    have none_met : verdicts.contains true = false := by simpa using unmet
    rw [none_met] at response
    apply held_withheld response
    rintro assessment rfl
    rcases shut with completed | ⟨other, same, failed⟩
    -- the requirements of a completed step are not even looked at
    · have free := inquiry.free_of_required.2
      rw [completed] at free
      cases free
    · cases same
      exact failed
  · intro met
    apply Classical.byContradiction
    intro acts
    exact (commands_answered inquiry response acts).1 met
  · intro acts
    obtain ⟨unmet, free, assessment, rfl, passed⟩ := commands_answered inquiry response acts
    refine ⟨?_, unmet, assessment, rfl, inquiry.approved passed⟩
    cases status : before.status step.key with
    | idle => exact .inl rfl
    | error => exact .inr rfl
    | running | completed =>
        rw [status] at free
        cases free

theorem detour_gated :
    ∃ trace after result, (trigger detour .commit).Held ⟨[], []⟩ trace after result ∧
      ∃ opening rest verdicts required, trace = opening ++ rest ∧
        Inquiry detour ⟨[], []⟩ false opening verdicts required ∧
        (commands trace ≠ [] → true ∉ verdicts ∧
          ∃ assessment, required = some assessment ∧ Approved detour assessment) := by
  obtain ⟨trace, held, -⟩ := roadside.held (trigger detour .commit) ⟨[], []⟩
  obtain ⟨opening, rest, verdicts, required, same, inquiry, -, -, -, gates⟩ := trigger_gated held
  exact ⟨trace, _, _, held, opening, rest, verdicts, required, same, inquiry,
    fun acts => (gates acts).2⟩

end Guide

end Walkthrough
