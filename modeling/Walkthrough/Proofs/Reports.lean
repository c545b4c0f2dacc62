import Walkthrough.Proofs.Gates
import Walkthrough.Proofs.Running
import Walkthrough.Proofs.Confinement
/-!
What the outcome of a trigger tells. Its status is the one that the step then has, and it tells of
an execution exactly if the trigger set the step running and the run came to its end without a
failure. A plain step that was shown is then idle, and every other step is completed.
-/

namespace Walkthrough.Guide

open Run

variable {key : String} {step : Step} {mode : Mode} {before after : Records} {trace : List Turn}

/-! Runs without a failure. -/

def Began (key : String) (trace : List Turn) : Prop :=
  ∃ state, (⟨.move ⟨key, .running, none, none⟩, .ok state⟩ : Turn) ∈ trace

theorem Began.mono {longer : List Turn} (began : Began key trace) (part : trace ⊆ longer) :
    Began key longer := by
  obtain ⟨state, member⟩ := began
  exact ⟨state, part member⟩

theorem began_of_begin (held : (begin key).Held before trace after (.ok ())) :
    Began key trace := by
  have running {before : Records} {trace : List Turn}
      (held : (Run.moveTo key .running).Held before trace after (.ok ())) : Began key trace := by
    obtain ⟨reply, -, rfl, same⟩ := held_moveTo.1 held
    cases reply with
    | ok state => exact ⟨state, List.mem_cons_self⟩
    | error error => cases same
  obtain ⟨rest, tail, rfl⟩ := held_status_bind.1 held
  apply Began.mono _ (List.subset_cons_self _ _)
  dsimp only at tail
  split at tail
  · obtain ⟨_, opening, _, _, -, last, rfl⟩ := held_bind_ok.1 tail
    exact (running last).mono (List.subset_append_right _ _)
  · exact running tail

theorem failAt_outcome {index : Nat} {message : String} {outcome : Outcome}
    (held : (failAt key index message).Held before trace after (.ok outcome)) :
    outcome.status = .error ∧ outcome.executed = false := by
  obtain ⟨_, _, _, _, -, ended, -⟩ := held_bind_ok.1 held
  obtain ⟨-, -, same⟩ := held_pure.1 ended
  cases same
  exact ⟨rfl, rfl⟩

/-- By induction on the inner actions, the first of which to fail gives the outcome. -/
theorem runInner_outcome {delay : Amount} {index : Nat} {actions : List InnerAction}
    {failed : Outcome}
    (held : (runInner key delay index actions).Held before trace after (.ok (some failed))) :
    failed.status = .error ∧ failed.executed = false := by
  have fails {before : Records} {trace : List Turn} {index : Nat} {message : String}
      (held : (failAt key index message >>= fun outcome => pure (some outcome)).Held
        before trace after (.ok (some failed))) :
      failed.status = .error ∧ failed.executed = false := by
    obtain ⟨_, _, _, _, failing, ended, -⟩ := held_bind_ok.1 held
    obtain ⟨-, -, same⟩ := held_pure.1 ended
    cases same
    exact failAt_outcome failing
  induction actions generalizing before trace index with
  | nil =>
      obtain ⟨-, -, same⟩ := held_pure.1 held
      cases same
  | cons inner rest ih =>
      obtain ⟨_, _, _, -, body, -⟩ := held_ask_bind.1 held
      obtain ⟨found, _, _, _, -, next, -⟩ := held_bind_ok.1 body
      cases found with
      | some message => exact fails next
      | none =>
          obtain ⟨acted, _, _, _, -, last, -⟩ := held_outcome_bind.1 next
          cases acted with
          | error fault => exact fails last
          | ok _ =>
              dsimp only at last
              split at last
              · obtain ⟨_, _, _, _, -, others, -⟩ := held_bind_ok.1 last
                exact ih others
              · exact ih last

def throughActions (key : String) (actions : List InnerAction) (delay : Option Nat) :
    Run (Option Outcome) := do
  let wait ← delayOf delay
  begin key
  runInner key wait 0 actions

/-- The run that the step was admitted to came first, and came to its end without a failure. -/
inductive RanThrough (step : Step) (mode : Mode) (before : Records) : List Turn → Prop where
  | plain {ran middle later} (single : step.body = .single)
      (runs : (runPlain step mode).Held before ran middle (.ok ())) :
      RanThrough step mode before (ran ++ later)
  | multiple {actions delay ran middle later} (multiple : step.body = .multiple actions delay)
      (runs : (throughActions step.key actions delay).Held before ran middle (.ok none)) :
      RanThrough step mode before (ran ++ ⟨.page .settle, .ok ()⟩ :: later)

theorem held_throughActions {actions : List InnerAction} {delay : Option Nat}
    {failure : Option Outcome}
    (held : (throughActions key actions delay).Held before trace after (.ok failure)) :
    Began key trace ∧ InnerEnd key trace after (.ok failure) ∧
      ∀ failed, failure = some failed → failed.status = .error ∧ failed.executed = false := by
  obtain ⟨_, opening, _, _, -, body, rfl⟩ := held_bind_ok.1 held
  obtain ⟨⟨⟩, beginning, begun, _, begins, inner, rfl⟩ := held_bind_ok.1 body
  have running : begun.status key = .running := by
    rcases held_begin begins with ⟨-, -, _, -, same⟩ | ⟨-, -, running, -⟩
    · cases same
    · exact running
  refine ⟨(began_of_begin begins).mono ?_,
    ((held_runInner running inner).prepend _).prepend _, ?_⟩
  · intro turn member
    simp [member]
  · rintro failed rfl
    exact runInner_outcome inner

def endOf (step : Step) (mode : Mode) : Status :=
  match step.body, step.isSequence, mode with
  | .single, false, .preview => .idle
  | _, _, _ => .completed

theorem sequence_ran {showOnly : Bool} {selector : String}
    (inactive : before.active.contains step.target = false)
    (held : (runSequence step showOnly).Held before trace after (.ok selector)) :
    Began step.key trace ∧ after.status step.key = .completed := by
  obtain ⟨ran, middle, inner, encloses, rfl, same, rfl⟩ := held_runSequence inactive held
  cases inner with
  | error fault => cases same
  | ok value =>
      obtain ⟨opening, _, _, _, _, begins, -, moves, rfl⟩ := held_enclosed_ok encloses
      refine ⟨(began_of_begin begins).mono ?_, ?_⟩
      · intro turn member
        simp [member]
      · rcases moves.cases with ⟨-, -, -, completed⟩ | ⟨-, ⟨_, refused, -⟩, -⟩
        · exact completed
        · cases refused

theorem plain_ran (single : step.body = .single)
    (inactive : before.active.contains step.target = false)
    (held : (runPlain step mode).Held before trace after (.ok ())) :
    Began step.key trace ∧ after.status step.key = endOf step mode := by
  unfold runPlain at held
  split at held
  · next sequence =>
      obtain ⟨inner, runs, same⟩ := held_discard.1 held
      cases inner with
      | error fault => cases same
      | ok selector =>
          have ran := sequence_ran inactive runs
          exact ⟨ran.1, by simp [ran.2, endOf, single, sequence]⟩
  · next plain =>
      have plain : step.isSequence = false := by simpa using plain
      obtain ⟨progress, course, same⟩ := course_of_held held
      obtain rfl := Progress.eq_ended same
      have status := course.status_eq
      cases course with
      | shown begins =>
          exact ⟨(began_of_begin begins).mono (List.subset_append_left _ _),
            by rw [status]; simp [endOf, single, plain]⟩
      | completed begins =>
          exact ⟨(began_of_begin begins).mono (List.subset_append_left _ _),
            by rw [status]; simp [endOf, single, plain]⟩

theorem RanThrough.began (ran : RanThrough step mode before trace)
    (inactive : before.active.contains step.target = false) : Began step.key trace := by
  cases ran with
  | plain single runs =>
      exact (plain_ran single inactive runs).1.mono (List.subset_append_left _ _)
  | multiple _ runs => exact (held_throughActions runs).1.mono (List.subset_append_left _ _)

/-! Outcomes. -/

theorem held_completeByObjectives_ok {outcome : Outcome}
    (held : (completeByObjectives step).Held before trace after (.ok outcome)) :
    outcome = .withheld step.key .completed doneMessage := by
  have completes {before : Records} {trace : List Turn}
      (held : (completing step.key).Held before trace after (.ok outcome)) :
      outcome = .withheld step.key .completed doneMessage := by
    obtain ⟨_, _, _, _, -, ended, -⟩ := held_bind_ok.1 held
    obtain ⟨-, -, same⟩ := held_pure.1 ended
    cases same
    rfl
  have marked {before : Records} {trace : List Turn}
      (held : (if !isMultiple step then
          discard (Control.markCompleted (some step.key)) >>= fun _ => completing step.key
        else completing step.key).Held before trace after (.ok outcome)) :
      outcome = .withheld step.key .completed doneMessage := by
    split at held
    · obtain ⟨_, _, _, _, -, rest, -⟩ := held_bind_ok.1 held
      exact completes rest
    · exact completes held
  obtain ⟨rest, tail, -⟩ := held_status_bind.1 held
  dsimp only at tail
  split at tail
  · next done =>
      obtain ⟨-, -, same⟩ := held_pure.1 tail
      cases same
      rw [done]
  · split at tail
    · obtain ⟨_, _, _, _, -, rest, -⟩ := held_bind_ok.1 tail
      exact marked rest
    · exact marked tail

theorem held_reportRun_ok {assessment : Assessment} {inner : Except Fault Unit}
    {outcome : Outcome}
    (held : (reportRun step assessment inner).Held before trace after (.ok outcome)) :
    after = before ∧ outcome.status = before.status step.key ∧
      (outcome.executed = true ↔ inner = .ok ()) ∧ outcome.requirements = some assessment := by
  unfold reportRun at held
  dsimp only at held
  split at held
  · obtain ⟨rest, tail, -⟩ := held_status_bind.1 held
    obtain ⟨-, rfl, same⟩ := held_pure.1 tail
    cases same
    exact ⟨rfl, rfl, by simp, rfl⟩
  · split at held
    · obtain ⟨-, -, same⟩ := held_throw.1 held
      cases same
    · obtain ⟨rest, tail, -⟩ := held_status_bind.1 held
      obtain ⟨-, rfl, same⟩ := held_pure.1 tail
      cases same
      exact ⟨rfl, rfl, by simp, rfl⟩
  · obtain ⟨rest, tail, -⟩ := held_status_bind.1 held
    obtain ⟨-, rfl, same⟩ := held_pure.1 tail
    cases same
    exact ⟨rfl, rfl, by simp, rfl⟩

def completeActions (key : String) (actions : List InnerAction) (assessment : Assessment) :
    Option Outcome → Run Outcome
  | some failed => pure failed
  | none => do
      Run.page .settle
      discard (Run.move ⟨key, .completed, none, some (actions.length - 1 : Nat)⟩)
      return ⟨key, .completed, true, none, some assessment, []⟩

theorem runActions_eq (key : String) (actions : List InnerAction) (delay : Option Nat)
    (assessment : Assessment) :
    runActions key actions delay assessment =
      throughActions key actions delay >>= completeActions key actions assessment := by
  unfold runActions throughActions
  rw [bind_assoc]
  congr 1
  funext wait
  exact (bind_assoc _ _ _).symm

theorem held_runActions_ok {actions : List InnerAction} {delay : Option Nat}
    {assessment : Assessment} {outcome : Outcome}
    (held : (runActions key actions delay assessment).Held before trace after (.ok outcome)) :
    outcome.status = after.status key ∧
      ((outcome.executed = true ∧ after.status key = .completed ∧
          ∃ ran middle later, trace = ran ++ ⟨.page .settle, .ok ()⟩ :: later ∧
            (throughActions key actions delay).Held before ran middle (.ok none)) ∨
        (outcome.executed = false ∧ ∃ failed,
          (throughActions key actions delay).Held before trace after (.ok (some failed)))) := by
  rw [runActions_eq] at held
  obtain ⟨failure, ran, middle, _, through, rest, rfl⟩ := held_bind_ok.1 held
  obtain ⟨-, ends, failing⟩ := held_throughActions through
  cases failure with
  | some failed =>
      obtain ⟨rfl, rfl, same⟩ := held_pure.1 rest
      cases same
      obtain ⟨failed, withheld⟩ := failing _ rfl
      have status : after.status key = .error := ends
      rw [List.append_nil]
      exact ⟨failed.trans status.symm, .inr ⟨withheld, _, through⟩⟩
  | none =>
      have running : middle.status key = .running := ends
      obtain ⟨⟨⟩, _, _, _, settles, last, rfl⟩ := held_bind_ok.1 rest
      obtain ⟨rfl, rfl⟩ := held_page.1 settles
      obtain ⟨same, status⟩ := held_last_move running (by rfl) last
      cases same
      have status : after.status key = .completed := status
      exact ⟨status.symm, .inl ⟨rfl, status, ran, _, _, rfl, through⟩⟩

/-! Reports. -/

/-- What an outcome has to tell about the response to an inquiry. -/
structure Truthful (step : Step) (mode : Mode) (before : Records) (required : Option Assessment)
    (trace : List Turn) (after : Records) (outcome : Outcome) : Prop where
  status_eq : outcome.status = after.status step.key
  executed_iff : outcome.executed = true ↔ Began step.key trace ∧
    ∃ assessment, required = some assessment ∧ assessment.passed = true ∧
      RanThrough step mode before trace
  ends : outcome.executed = true → after.status step.key = endOf step mode

theorem truthful_of_withheld {required : Option Assessment} {outcome : Outcome}
    (status : outcome.status = after.status step.key) (withheld : outcome.executed = false)
    (shut : ∀ assessment, required = some assessment → assessment.passed = false) :
    Truthful step mode before required trace after outcome where
  status_eq := status
  executed_iff := by
    rw [withheld]
    constructor
    · intro executed
      cases executed
    · rintro ⟨-, assessment, same, passed, -⟩
      rw [shut assessment same] at passed
      cases passed
  ends := by
    rw [withheld]
    intro executed
    cases executed

theorem truthful_of_plain {assessment : Assessment} {outcome : Outcome}
    (single : step.body = .single) (passed : assessment.passed = true)
    (inactive : before.active.contains step.target = false)
    (held : (Run.outcome (runPlain step mode) >>= reportRun step assessment).Held
      before trace after (.ok outcome)) :
    Truthful step mode before (some assessment) trace after outcome := by
  obtain ⟨inner, ran, middle, later, runs, reports, rfl⟩ := held_outcome_bind.1 held
  obtain ⟨rfl, status, executed, -⟩ := held_reportRun_ok reports
  constructor
  · exact status
  · rw [executed]
    constructor
    · rintro rfl
      have through : RanThrough step mode before (ran ++ later) := .plain single runs
      exact ⟨through.began inactive, assessment, rfl, passed, through⟩
    · rintro ⟨-, _, -, -, through⟩
      generalize turns : ran ++ later = trace at through
      cases through with
      | plain _ found => exact (runs.unique found turns).2.2
      | multiple multiple => simp [single] at multiple
  · intro done
    obtain rfl := executed.1 done
    exact (plain_ran single inactive runs).2

theorem truthful_of_multiple {assessment : Assessment} {outcome : Outcome}
    {actions : List InnerAction} {delay : Option Nat}
    (multiple : step.body = .multiple actions delay)
    (passed : assessment.passed = true)
    (held : (runActions step.key actions delay assessment).Held before trace after (.ok outcome)) :
    Truthful step mode before (some assessment) trace after outcome := by
  obtain ⟨status, ended⟩ := held_runActions_ok held
  rcases ended with ⟨executed, completed, ran, _, later, rfl, through⟩ | ⟨executed, failed, through⟩
  · constructor
    · exact status
    · have ran : RanThrough step mode before (ran ++ ⟨.page .settle, .ok ()⟩ :: later) :=
        .multiple multiple through
      have began := (held_throughActions through).1.mono
        (List.subset_append_left _ (⟨.page .settle, .ok ()⟩ :: later))
      simp only [executed, true_iff]
      exact ⟨began, assessment, rfl, passed, ran⟩
    · intro _
      rw [completed]
      simp [endOf, multiple]
  · constructor
    · exact status
    · rw [executed]
      constructor
      · intro executed
        cases executed
      · rintro ⟨-, _, -, -, ran⟩
        generalize turns : trace = longer at ran
        cases ran with
        | plain single => simp [multiple] at single
        | multiple other found =>
            rw [multiple] at other
            cases other
            -- a run cannot both fail and come to its end on the same turns
            have ended := turns.symm.trans (List.append_nil _).symm
            obtain ⟨-, -, same⟩ := found.unique through ended
            cases same
    · rw [executed]
      intro executed
      cases executed

theorem truthful_of_respond {verdicts : List Bool} {required : Option Assessment}
    {outcome : Outcome} (inactive : before.active.contains step.target = false)
    (held : (respond step mode (before.status step.key) (verdicts.contains true) required).Held
      before trace after (.ok outcome)) :
    Truthful step mode before required trace after outcome := by
  cases required with
  | none =>
      simp only [respond] at held
      split at held
      · have status := (shortcut_of_held held).status_eq
        obtain rfl := held_completeByObjectives_ok held
        exact truthful_of_withheld status.symm rfl (by simp)
      · obtain ⟨-, rfl, same⟩ := held_pure.1 held
        cases same
        exact truthful_of_withheld rfl rfl (by simp)
  | some assessment =>
      simp only [respond] at held
      split at held
      · next passed =>
          unfold admitted at held
          split at held
          · next single => exact truthful_of_plain single passed inactive held
          · next multiple => exact truthful_of_multiple multiple passed held
      · next failed =>
          obtain ⟨-, rfl, same⟩ := held_pure.1 held
          cases same
          exact truthful_of_withheld rfl rfl (by simpa using failed)

/-- A trigger of a sequence that is not being walked, or of any other step, tells the truth: the
status in its outcome is the one the step has afterwards, and it tells of an execution exactly if
it set the step running and the run came to its end without a failure. -/
theorem trigger_reports {outcome : Outcome}
    (held : (trigger step mode).Held before trace after (.ok outcome))
    (inactive : before.active.contains step.target = false) :
    outcome.status = after.status step.key ∧
      (outcome.executed = true → after.status step.key = endOf step mode) ∧
      ∃ opening rest verdicts required, trace = opening ++ rest ∧
        Inquiry step before (isMultiple step) opening verdicts required ∧
        (outcome.executed = true ↔ Began step.key trace ∧
          ∃ assessment, required = some assessment ∧ assessment.passed = true ∧
            RanThrough step mode before rest) := by
  obtain ⟨opening, rest, verdicts, required, inquiry, response, rfl⟩ := answered_of_trigger held
  have told := truthful_of_respond inactive response
  refine ⟨told.status_eq, told.ends, opening, rest, verdicts, required, rfl, inquiry, ?_⟩
  rw [told.executed_iff]
  constructor
  · rintro ⟨began, ran⟩
    exact ⟨began.mono (List.subset_append_right _ _), ran⟩
  · rintro ⟨-, assessment, same, passed, ran⟩
    exact ⟨ran.began inactive, assessment, same, passed, ran⟩

theorem detour_reports :
    ∃ trace after outcome, (trigger detour .commit).Held ⟨[], []⟩ trace after (.ok outcome) ∧
      ([] : List String).contains detour.target = false ∧ outcome.executed = true ∧
      outcome.status = after.status detour.key ∧ after.status detour.key = .completed ∧
      Began detour.key trace := by
  obtain ⟨trace, held, -⟩ := roadside.held (trigger detour .commit) ⟨[], []⟩
  obtain ⟨outcome, result, executed⟩ :
      ∃ outcome, (roadside.outcome (trigger detour .commit) ⟨[], []⟩).1 = .ok outcome ∧
        outcome.executed = true := ⟨_, rfl, rfl⟩
  rw [result] at held
  obtain ⟨status, ends, _, _, _, _, -, -, told⟩ := trigger_reports held rfl
  exact ⟨trace, _, outcome, held, rfl, executed, status, ends executed, (told.1 executed).1⟩

end Walkthrough.Guide
