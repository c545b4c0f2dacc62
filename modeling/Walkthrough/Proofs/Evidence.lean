import Mathlib.Data.List.Forall2
import Walkthrough.Proofs.Escapes
import Walkthrough.Proofs.Reports
import Walkthrough.Proofs.Tours
/-!
Why a step is skipped. A trigger of a step, or its preparation inside a container, completes it
without acting only if the evaluation of its objectives has just passed: what the page and the
facts have answered in it is evidence for every check of the expression, if it holds any. A name
that stands for no check has no evidence but the settings, if they let such names pass.
-/

namespace Walkthrough

namespace Requirement

open Run

variable {subject : Subject} {requirement : Requirement} {trace whole : List Turn}
variable {before after : Records}

/-- The answers on which a requirement passes, to a check of the page or to the question for the
fact that is judged. -/
inductive Evidence (subject : Subject) (requirement : Requirement) (whole : List Turn) : Prop where
  | seen {run verdict before turns after} (direct : requirement.check subject = .direct run)
      (held : run.Held before turns after (.ok verdict)) (passed : verdict.passed = true)
      (part : turns <:+: whole) : Evidence subject requirement whole
  | told {asked judge answer verdict} (fact : requirement.check subject = .fact asked judge)
      (heard : (⟨.lookup asked, .now (.ok answer)⟩ : Turn) ∈ whole ∨
        (⟨.collect asked, .ok answer⟩ : Turn) ∈ whole)
      (judged : judge answer = .ok verdict) (passed : verdict.passed = true) :
      Evidence subject requirement whole

theorem Evidence.mono (evidence : Evidence subject requirement trace) (part : trace <:+: whole) :
    Evidence subject requirement whole := by
  cases evidence with
  | seen direct held passed inside => exact .seen direct held passed (inside.trans part)
  | told fact heard judged passed =>
      exact .told fact (heard.imp (part.subset ·) (part.subset ·)) judged passed

theorem Evidence.lenient (evidence : Evidence subject requirement whole)
    (unknown : requirement.kind = .unknown) :
    ∃ tuning : Tuning, (⟨.settings, tuning⟩ : Turn) ∈ whole ∧
      tuning.unknownRequirementsPass = true := by
  -- Such a check asks nothing but the settings.
  have same : requirement.check subject = .direct (unknownCheck requirement.raw) := by
    simp [Requirement.check, unknown]
  cases evidence with
  | seen direct held passed part =>
      rw [same] at direct
      cases direct
      obtain ⟨tuning, rest, tail, rfl⟩ := held_settings_bind.1 held
      obtain ⟨-, -, verdict⟩ := held_pure.1 tail
      cases verdict
      exact ⟨tuning, part.subset List.mem_cons_self, passed⟩
  | told fact =>
      rw [same] at fact
      cases fact

/-! Evaluations. -/

theorem passed_ofOutcome {raw : String} {outcome : Except Fault Verdict}
    (passed : (Verdict.ofOutcome raw outcome).passed = true) :
    ∃ verdict, outcome = .ok verdict ∧ verdict.passed = true := by
  cases outcome with
  | ok verdict => exact ⟨verdict, rfl, passed⟩
  | error fault => cases passed

theorem judged_of_bind {reply : Except Fault Json} {judge : Json → Except Fault Verdict}
    {verdict : Verdict} (judged : reply.bind judge = .ok verdict) :
    ∃ answer, reply = .ok answer ∧ judge answer = .ok verdict := by
  cases reply with
  | ok answer => exact ⟨answer, rfl, judged⟩
  | error fault => cases judged

theorem evidence_of_judged {verdict : Verdict}
    (judged : Judged subject whole requirement verdict) (passed : verdict.passed = true) :
    Evidence subject requirement whole := by
  cases judged with
  | seen direct held part =>
      obtain ⟨verdict, rfl, holds⟩ := passed_ofOutcome passed
      exact .seen direct held holds part
  | told fact heard =>
      obtain ⟨verdict, judged, holds⟩ := passed_ofOutcome passed
      obtain ⟨answer, rfl, judged⟩ := judged_of_bind judged
      exact .told fact (.inl heard) judged holds
  | awaited fact _ heard =>
      obtain ⟨verdict, judged, holds⟩ := passed_ofOutcome passed
      obtain ⟨answer, rfl, judged⟩ := judged_of_bind judged
      exact .told fact (.inr heard) judged holds

/-- By induction on the requirements, each with its own verdict. -/
theorem evidence_of_verdicts {requirements : List Requirement} {verdicts : List Verdict}
    (judged : List.Forall₂ (Judged subject whole) requirements verdicts)
    (passed : ∀ verdict ∈ verdicts, verdict.passed = true) :
    ∀ requirement ∈ requirements, Evidence subject requirement whole := by
  induction judged with
  | nil => simp
  | cons first _ ih =>
      rw [List.forall_mem_cons] at passed
      exact List.forall_mem_cons.2 ⟨evidence_of_judged first passed.1, ih passed.2⟩

theorem evidence_of_evaluate {expression : Option String} {assessment : Assessment}
    (held : (evaluate expression subject).Held before trace after (.ok assessment))
    (passed : assessment.passed = true) :
    ∀ requirement ∈ parseAll (expression.getD ""), Evidence subject requirement trace := by
  obtain ⟨-, _, same, assessed⟩ := assessed_of_evaluate held
  cases same
  rw [assessed.passed, List.all_eq_true] at passed
  exact evidence_of_verdicts assessed.judged passed

end Requirement

namespace Guide

open Run

variable {step : Step} {mode : Mode} {key : String} {before after : Records}
variable {trace whole : List Turn}

def Proven (step : Step) (whole : List Turn) : Prop :=
  ∃ objectives, step.objectives = some objectives ∧ objectives ≠ "" ∧
    ∀ requirement ∈ Requirement.parseAll objectives,
      requirement.Evidence step.subject whole

theorem Proven.mono (proven : Proven step trace) (part : trace <:+: whole) :
    Proven step whole := by
  obtain ⟨objectives, given, filled, evidence⟩ := proven
  exact ⟨objectives, given, filled, fun requirement member =>
    (evidence requirement member).mono part⟩

theorem proven_of_objectivesMet
    (held : (objectivesMet step).Held before trace after (.ok true)) : Proven step trace := by
  unfold objectivesMet at held
  split at held
  · obtain ⟨-, -, same⟩ := held_pure.1 held
    cases same
  · obtain ⟨-, -, same⟩ := held_pure.1 held
    cases same
  · next objectives given filled =>
      obtain ⟨assessment, _, _, _, evaluates, ended, rfl⟩ := held_bind_ok.1 held
      obtain ⟨rfl, -, same⟩ := held_pure.1 ended
      have passed : assessment.passed = true := by simpa using same.symm
      have evidence := Requirement.evidence_of_evaluate evaluates passed
      rw [Option.getD_some] at evidence
      rw [List.append_nil]
      refine ⟨objectives, filled, ?_, evidence⟩
      rintro rfl
      exact given rfl

theorem Inquiry.proven {twice : Bool} {verdicts : List Bool} {required : Option Assessment}
    (inquiry : Inquiry step before twice trace verdicts required) (met : true ∈ verdicts) :
    Proven step trace := by
  induction inquiry with
  | met objectives => exact proven_of_objectivesMet objectives
  | busy | assessed => simp at met
  | again _ _ _ ih =>
      refine (ih (by simpa using met)).mono (List.IsSuffix.isInfix ?_)
      rw [List.append_cons]
      exact List.suffix_append _ _

/-! Runs that are not skips. -/

def Starts {α : Type} (key : String) (run : Run α) : Prop :=
  ∀ ⦃before trace after result⦄, run.Held before trace after result →
    Began key trace ∨ after.status key = before.status key

section Starting

variable {α β : Type} {run : Run α} {next : α → Run β}

theorem status_of_idling {result : Except Fault α} (asks : run.Asks (·.idles))
    (held : run.Held before trace after result) : after.status key = before.status key := by
  have steady : Lasting (fun _ => True) (fun _ statuses => statuses key = before.status key) :=
    fun _ _ _ _ _ kept => kept
  exact @keeps_of_idles _ _ _ run steady asks [] _ _ _ _ held (fun _ _ => trivial) rfl

theorem starts_of_idles (asks : run.Asks (·.idles)) : Starts key run :=
  fun _ _ _ _ held => .inr (status_of_idling asks held)

theorem starts_before (first : Starts key run) (second : ∀ value, (next value).Asks (·.idles)) :
    Starts key (run >>= next) := by
  intro before trace after result held
  rcases held_bind.1 held with ⟨value, opening, middle, rest, runs, tail, rfl⟩ | ⟨fault, failed, -⟩
  · rw [status_of_idling (second value) tail]
    exact (first runs).imp_left (·.mono (List.subset_append_left _ _))
  · exact first failed

theorem starts_after (first : run.Asks (·.idles)) (second : ∀ value, Starts key (next value)) :
    Starts key (run >>= next) := by
  intro before trace after result held
  rcases held_bind.1 held with ⟨value, opening, middle, rest, runs, tail, rfl⟩ | ⟨fault, failed, -⟩
  · rw [← status_of_idling first runs]
    exact (second value tail).imp_left (·.mono (List.subset_append_right _ _))
  · exact .inr (status_of_idling first failed)

theorem starts_outcome (starts : Starts key run) : Starts key (Run.outcome run) := by
  intro before trace after result held
  obtain ⟨inner, runs, -⟩ := held_outcome.1 held
  exact starts runs

theorem starts_discard (starts : Starts key run) : Starts key (discard run) := by
  intro before trace after result held
  obtain ⟨inner, runs, -⟩ := held_discard.1 held
  exact starts runs

theorem starts_begin {next : Unit → Run β} : Starts key (begin key >>= next) := by
  intro before trace after result held
  rcases held_bind.1 held with ⟨_, opening, middle, rest, begins, -, rfl⟩ | ⟨fault, refused, -⟩
  · exact .inl ((began_of_begin begins).mono (List.subset_append_left _ _))
  · rcases held_begin refused with ⟨-, rfl, -⟩ | ⟨-, same, -⟩
    · exact .inr rfl
    · cases same

end Starting

theorem starts_runSequence (step : Step) (showOnly : Bool) :
    Starts step.key (runSequence step showOnly) := by
  refine starts_after (asks_ask rfl) fun active => ?_
  split
  · exact starts_of_idles (asks_pure _)
  · refine starts_after (asks_ask rfl) fun _ => starts_before ?_ fun _ => asks_pure _
    -- Before anything is done inside the container, the step itself is set running.
    refine starts_before (starts_outcome starts_begin) fun result => ?_
    refine asks_bind (asks_ask rfl) fun _ => ?_
    split
    · exact asks_pure _
    · exact asks_throw _

theorem starts_runStep (step : Step) (mode : Mode) : Starts step.key (runStep step mode) := by
  cases mode with
  | preview =>
      rw [runStep_preview]
      exact starts_begin
  | commit =>
      rw [runStep_commit]
      exact starts_begin

theorem starts_runPlain (step : Step) (mode : Mode) : Starts step.key (runPlain step mode) := by
  unfold runPlain
  split
  · exact starts_discard (starts_runSequence step _)
  · exact starts_runStep step mode

theorem starts_admitted (step : Step) (mode : Mode) (assessment : Assessment) :
    Starts step.key (admitted step mode assessment) := by
  unfold admitted
  split
  · exact starts_before (starts_outcome (starts_runPlain step mode)) fun _ => asks_reportRun rfl
  · refine starts_after ?_ fun _ => starts_begin
    exact asks_mono (passes_of_looks (delayOf_looks _)) Request.idles_of_passes

theorem admitted_not_done {assessment : Assessment} :
    ¬(admitted step mode assessment).Held before trace after
      (.ok (.withheld step.key .completed doneMessage)) := by
  intro held
  unfold admitted at held
  split at held
  · obtain ⟨inner, _, _, _, -, reports, -⟩ := held_outcome_bind.1 held
    obtain ⟨-, -, -, ⟨⟩⟩ := held_reportRun_ok reports
  · obtain ⟨status, ⟨executed, -⟩ | ⟨-, failed, through⟩⟩ := held_runActions_ok held
    · cases executed
    · obtain ⟨-, ends, -⟩ := held_throughActions through
      have failed : after.status step.key = .error := ends
      rw [failed] at status
      cases status

/-! Skips. -/

/-- A step is skipped if it comes to be completed by a trigger that does not set it running, if a
trigger tells that it was done before, or if its preparation finds that it needs no run. -/
inductive Skipped (step : Step) (before : Records) (trace : List Turn) (after : Records) : Prop where
  | unstarted {pressed result} (held : (trigger step pressed).Held before trace after result)
      (undone : before.status step.key ≠ .completed) (done : after.status step.key = .completed)
      (unstarted : ¬Began step.key trace) : Skipped step before trace after
  | told {pressed} (held : (trigger step pressed).Held before trace after
      (.ok (.withheld step.key .completed doneMessage))) : Skipped step before trace after
  | prepared (held : (prepare step).Held before trace after (.ok false)) :
      Skipped step before trace after

theorem met_of_respond {rest : List Turn} {verdicts : List Bool} {required : Option Assessment}
    {result : Except Fault Outcome}
    (response : (respond step mode (before.status step.key) (verdicts.contains true)
      required).Held before rest after result)
    (skips : ¬Began step.key rest ∧ after.status step.key ≠ before.status step.key ∨
      result = .ok (.withheld step.key .completed doneMessage)) : true ∈ verdicts := by
  apply Classical.byContradiction
  intro unmet
  have unmet : verdicts.contains true = false := by simpa using unmet
  cases required with
  | none =>
      -- The step is busy. It may be completed, but then the message is another one.
      simp only [respond, unmet] at response
      obtain ⟨-, rfl, rfl⟩ := held_pure.1 response
      rcases skips with ⟨-, changed⟩ | told
      · exact changed rfl
      · have other : busyMessage .completed ≠ doneMessage := by decide
        simp only [Except.ok.injEq, Outcome.withheld, Outcome.mk.injEq, Option.some.injEq] at told
        obtain ⟨-, done, -, told, -⟩ := told
        rw [done] at told
        exact other told
  | some assessment =>
      simp only [respond] at response
      split at response
      · rcases skips with ⟨unstarted, changed⟩ | rfl
        · rcases starts_admitted _ _ _ response with began | same
          · exact unstarted began
          · exact changed same
        · exact admitted_not_done response
      · obtain ⟨-, rfl, rfl⟩ := held_pure.1 response
        rcases skips with ⟨-, changed⟩ | told
        · exact changed rfl
        · simp [Outcome.withheld] at told

theorem proven_of_trigger {result : Except Fault Outcome}
    (held : (trigger step mode).Held before trace after result)
    (skips : ¬Began step.key trace ∧ after.status step.key ≠ before.status step.key ∨
      result = .ok (.withheld step.key .completed doneMessage)) :
    Proven step trace ∧ commands trace = [] ∧
      ∃ rest, (completeByObjectives step).Held before rest after result := by
  obtain ⟨opening, rest, verdicts, required, inquiry, response, rfl⟩ := answered_of_trigger held
  have met : true ∈ verdicts := by
    refine met_of_respond response (skips.imp_left fun ⟨unstarted, changed⟩ => ⟨?_, changed⟩)
    exact fun began => unstarted (began.mono (List.subset_append_right _ _))
  refine ⟨(inquiry.proven met).mono (List.prefix_append _ _).isInfix, ?_, rest, ?_⟩
  · apply Classical.byContradiction
    intro acts
    exact (commands_answered inquiry response acts).1 met
  · cases required with
    | none => simpa [respond, met] using response
    | some assessment => exact absurd met inquiry.free_of_required.1

theorem completed_of_completeByObjectives {outcome : Outcome}
    (held : (completeByObjectives step).Held before trace after (.ok outcome)) :
    after.status step.key = .completed :=
  (shortcut_of_held held).status_eq

theorem proven_of_prepare (held : (prepare step).Held before trace after (.ok false)) :
    Proven step trace ∧ commands trace = [] ∧ after.status step.key = .completed := by
  refine ⟨?_, commands_of_mute held (asks_prepare rfl Request.mute_of_keepsBooks rfl rfl), ?_⟩
  · obtain ⟨opening, rest, rfl, objectives, -⟩ := held_prepare_ok held
    exact (proven_of_objectivesMet objectives).mono (List.prefix_append _ _).isInfix
  · obtain ⟨opening, rest, rfl, -, finishes⟩ := held_prepare_ok held
    obtain ⟨_, tail, rfl⟩ := held_status_bind.1 finishes
    split at tail
    · obtain ⟨inner, completes, same⟩ := held_discard.1 tail
      cases inner with
      | ok outcome => exact completed_of_completeByObjectives completes
      | error fault => cases same
    · next done =>
        obtain ⟨-, rfl, -⟩ := held_pure.1 tail
        simpa using done

/-- A step is skipped only on evidence: no command is announced, the step is completed, and its
objectives are an expression of which every check, if there is one, passed on the answers of that
very talk. A name that stands for no check is among them only if settings read in that talk let such
names pass; so one that stands for a check has passed where they do not. -/
theorem skipped_on_evidence (skipped : Skipped step before trace after) :
    commands trace = [] ∧ after.status step.key = .completed ∧
      ∃ objectives, step.objectives = some objectives ∧ objectives ≠ "" ∧
        (Requirement.parseAll objectives ≠ [] →
          (∀ requirement ∈ Requirement.parseAll objectives,
            requirement.Evidence step.subject trace ∧
            (requirement.kind = .unknown →
              ∃ tuning : Tuning, (⟨.settings, tuning⟩ : Turn) ∈ trace ∧
                tuning.unknownRequirementsPass = true)) ∧
          ((∀ tuning : Tuning, (⟨.settings, tuning⟩ : Turn) ∈ trace →
              tuning.unknownRequirementsPass = false) →
            ∃ requirement ∈ Requirement.parseAll objectives, requirement.kind ≠ .unknown ∧
              requirement.Evidence step.subject trace)) := by
  have known : Proven step trace ∧ commands trace = [] ∧ after.status step.key = .completed := by
    cases skipped with
    | unstarted held undone done unstarted =>
        have changed : after.status step.key ≠ before.status step.key := by
          rw [done]
          exact Ne.symm undone
        obtain ⟨proven, silent, -⟩ := proven_of_trigger held (.inl ⟨unstarted, changed⟩)
        exact ⟨proven, silent, done⟩
    | told held =>
        obtain ⟨proven, silent, rest, completes⟩ := proven_of_trigger held (.inr rfl)
        exact ⟨proven, silent, completed_of_completeByObjectives completes⟩
    | prepared held => exact proven_of_prepare held
  obtain ⟨⟨objectives, given, filled, evidence⟩, silent, completed⟩ := known
  refine ⟨silent, completed, objectives, given, filled, fun some_check => ⟨?each, ?known⟩⟩
  case each =>
    intro requirement member
    exact ⟨evidence requirement member, (evidence requirement member).lenient⟩
  case known =>
    intro strict
    obtain ⟨requirement, member⟩ := List.exists_mem_of_ne_nil _ some_check
    refine ⟨requirement, member, fun unknown => ?_, evidence requirement member⟩
    obtain ⟨tuning, read, passes⟩ := (evidence requirement member).lenient unknown
    simp [strict tuning read] at passes

def lenient : Scene :=
  { roadside with tuning := { Scene.unhurried 3 with unknownRequirementsPass := true } }

theorem held_lenient :
    ∃ trace after, (trigger madeDetour .commit).Held ⟨[], []⟩ trace after
      (.ok (.withheld madeDetour.key .completed doneMessage)) := by
  obtain ⟨trace, held, -⟩ := lenient.held (trigger madeDetour .commit) ⟨[], []⟩
  have result : (lenient.outcome (trigger madeDetour .commit) ⟨[], []⟩).1 =
      .ok (.withheld madeDetour.key .completed doneMessage) := by rfl
  rw [result] at held
  exact ⟨trace, _, held⟩

theorem parseAll_made : Requirement.parseAll "made" = [⟨.unknown, "made", ""⟩] := by
  decide

theorem madeDetour_skipped :
    ∃ trace after, Skipped madeDetour ⟨[], []⟩ trace after ∧ commands trace = [] ∧
      after.status madeDetour.key = .completed ∧
      ∃ tuning : Tuning, (⟨.settings, tuning⟩ : Turn) ∈ trace ∧
        tuning.unknownRequirementsPass = true := by
  obtain ⟨trace, after, held⟩ := held_lenient
  obtain ⟨silent, completed, objectives, given, -, checked⟩ := skipped_on_evidence (.told held)
  cases given
  obtain ⟨evidence, -⟩ := checked (by simp [parseAll_made])
  refine ⟨trace, after, .told held, silent, completed, (evidence ⟨.unknown, "made", ""⟩ ?_).2 rfl⟩
  simp [parseAll_made]

def blankDetour : Step :=
  { detour with objectives := some "," }

def strict : Scene :=
  { roadside with tuning := { Scene.unhurried 3 with unknownRequirementsPass := false } }

theorem held_strict :
    ∃ trace after, (trigger blankDetour .commit).Held ⟨[], []⟩ trace after
      (.ok (.withheld blankDetour.key .completed doneMessage)) ∧
      ∀ tuning : Tuning, (⟨.settings, tuning⟩ : Turn) ∈ trace →
        tuning.unknownRequirementsPass = false := by
  obtain ⟨trace, held, known⟩ := strict.held (trigger blankDetour .commit) ⟨[], []⟩
  have result : (strict.outcome (trigger blankDetour .commit) ⟨[], []⟩).1 =
      .ok (.withheld blankDetour.key .completed doneMessage) := by rfl
  rw [result] at held
  refine ⟨trace, _, held, fun tuning read => ?_⟩
  obtain ⟨met, same⟩ := known _ read
  obtain rfl : tuning = strict.tuning := same
  rfl

/-- A name that stands for no check may be all there is to the objectives of a skipped step; and
where such names do not pass, a separator may be all there is. -/
theorem skipped_without_known_check :
    (¬∀ (step : Step) (before : Records) (trace : List Turn) (after : Records),
      Skipped step before trace after → ∃ objectives, step.objectives = some objectives ∧
        ∃ requirement ∈ Requirement.parseAll objectives, requirement.kind ≠ .unknown) ∧
    ¬∀ (step : Step) (before : Records) (trace : List Turn) (after : Records),
      Skipped step before trace after →
      (∀ tuning : Tuning, (⟨.settings, tuning⟩ : Turn) ∈ trace →
        tuning.unknownRequirementsPass = false) →
      ∃ objectives, step.objectives = some objectives ∧ Requirement.parseAll objectives ≠ [] := by
  constructor
  · intro claimed
    obtain ⟨trace, after, held⟩ := held_lenient
    obtain ⟨objectives, given, requirement, member, known⟩ := claimed _ _ _ _ (.told held)
    cases given
    rw [parseAll_made, List.mem_singleton] at member
    subst member
    exact known rfl
  · intro claimed
    obtain ⟨trace, after, held, unmoved⟩ := held_strict
    obtain ⟨objectives, given, filled⟩ := claimed _ _ _ _ (.told held) unmoved
    cases given
    exact filled (by decide)

end Guide

end Walkthrough
