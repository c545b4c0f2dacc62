import Walkthrough.Proofs.Gates
import Walkthrough.Proofs.Running
import Walkthrough.Proofs.Commitments
/-!
The failures that leave a trigger. What goes wrong in the run of a step is told about in the
outcome, except for a broken grouping of the controls. But two parts of a trigger are not guarded
like that: marking the controls of a step whose objectives are met already, and the run of a
multi-step.
-/

namespace Walkthrough.Guide

open Run

variable {step : Step} {mode : Mode} {before after : Records} {trace : List Turn}
variable {verdicts : List Bool} {required : Option Assessment}

/-- The ways in which a failure leaves a trigger once its inquiry is over. -/
inductive Escape (step : Step) (mode : Mode) (before : Records) :
    List Bool → Option Assessment → List Turn → Records → Fault → Prop where
  | unmarked {verdicts cleared books idle fault} (met : true ∈ verdicts)
      (single : isMultiple step = false) (unfinished : before.status step.key ≠ .completed)
      (clears : (clearing step.key).Held before cleared idle (.ok ()))
      (marking : (Control.markCompleted (some step.key)).Held idle books idle (.error fault)) :
      Escape step mode before verdicts none (cleared ++ books) idle fault
  | ungrouped {verdicts assessment ran after fault} (passed : assessment.passed = true)
      (single : step.body = .single)
      (runs : (runPlain step mode).Held before ran after (.error fault))
      (kind : fault.isConsistency = true) :
      Escape step mode before verdicts (some assessment) ran after fault
  | broken {verdicts assessment actions delay ran after fault} (passed : assessment.passed = true)
      (multiple : step.body = .multiple actions delay)
      (runs : (runActions step.key actions delay assessment).Held before ran after (.error fault)) :
      Escape step mode before verdicts (some assessment) ran after fault

/-- What a failure comes from: the controls are not grouped as they should be, a call of the page
failed or a pause did, or a value was used as something that it is not. -/
def Caused (trace : List Turn) (fault : Fault) : Prop :=
  Blamed trace fault ∨ ∃ length, (⟨.pause length, .error fault⟩ : Turn) ∈ trace

theorem BrokenOff.caused {fault : Fault} (broken : BrokenOff trace fault) :
    Caused trace fault := by
  rcases broken with ⟨earlier, rfl⟩ | ⟨earlier, length, rfl⟩ | misuse
  · exact .inl (.inr (.inl ⟨.settle, by simp⟩))
  · exact .inr ⟨length, by simp⟩
  · exact .inl (.inr (.inr misuse))

theorem Caused.mono {fault : Fault} {longer : List Turn} (caused : Caused trace fault)
    (part : trace ⊆ longer) : Caused longer fault := by
  rcases caused with blamed | ⟨length, member⟩
  · exact .inl (blamed.mono part)
  · exact .inr ⟨length, part member⟩

/-! From a failure to the way it took. -/

theorem escape_of_completeByObjectives {fault : Fault} (met : true ∈ verdicts)
    (held : (completeByObjectives step).Held before trace after (.error fault)) :
    Escape step mode before verdicts none trace after fault := by
  -- a step that is completed already is left alone, without a failure
  have unfinished : before.status step.key ≠ .completed := by
    intro done
    obtain ⟨rest, tail, -⟩ := held_status_bind.1 held
    dsimp only at tail
    rw [if_pos done] at tail
    obtain ⟨-, -, same⟩ := held_pure.1 tail
    cases same
  generalize failed : Except.error fault = result at held
  cases shortcut_of_held held with
  | already | completed => cases failed
  | unmarked clears single marking =>
      cases failed
      exact .unmarked met single unfinished clears marking

theorem held_reportRun_error {assessment : Assessment} {inner : Except Fault Unit}
    {fault : Fault}
    (held : (reportRun step assessment inner).Held before trace after (.error fault)) :
    trace = [] ∧ after = before ∧ inner = .error fault ∧ fault.isConsistency = true := by
  have told {next : Status → Outcome}
      (held : (Run.status step.key >>= fun status => pure (next status)).Held
        before trace after (.error fault)) : False := by
    obtain ⟨_, tail, -⟩ := held_status_bind.1 held
    obtain ⟨-, -, same⟩ := held_pure.1 tail
    cases same
  unfold reportRun at held
  dsimp only at held
  split at held
  · exact (told held).elim
  · next error =>
      split at held
      · next kind =>
          obtain ⟨rfl, rfl, same⟩ := held_throw.1 held
          cases same
          exact ⟨rfl, rfl, rfl, kind⟩
      · exact (told held).elim
  · exact (told held).elim

theorem escape_of_admitted {assessment : Assessment} {fault : Fault}
    (passed : assessment.passed = true)
    (held : (admitted step mode assessment).Held before trace after (.error fault)) :
    Escape step mode before verdicts (some assessment) trace after fault := by
  unfold admitted at held
  split at held
  · next single =>
      obtain ⟨inner, ran, _, _, runs, reports, rfl⟩ := held_outcome_bind.1 held
      obtain ⟨rfl, rfl, rfl, kind⟩ := held_reportRun_error reports
      rw [List.append_nil]
      exact .ungrouped passed single runs kind
  · next multiple => exact .broken passed multiple held

theorem escape_of_respond {fault : Fault}
    (held : (respond step mode (before.status step.key) (verdicts.contains true) required).Held
      before trace after (.error fault)) :
    Escape step mode before verdicts required trace after fault := by
  cases required with
  | none =>
      simp only [respond] at held
      split at held
      · next met => exact escape_of_completeByObjectives (by simpa using met) held
      · obtain ⟨-, -, same⟩ := held_pure.1 held
        cases same
  | some assessment =>
      simp only [respond] at held
      split at held
      · next passed => exact escape_of_admitted passed held
      · obtain ⟨-, -, same⟩ := held_pure.1 held
        cases same

/-! Every such way is a failure of the trigger. -/

theorem error_of_unmarked {cleared books : List Turn} {idle : Records} {fault : Fault}
    {result : Except Fault Outcome} (single : isMultiple step = false)
    (unfinished : before.status step.key ≠ .completed)
    (clears : (clearing step.key).Held before cleared idle (.ok ()))
    (marking : (Control.markCompleted (some step.key)).Held idle books idle (.error fault))
    (held : (completeByObjectives step).Held before (cleared ++ books) after result) :
    result = .error fault := by
  generalize turns : cleared ++ books = trace at held
  cases shortcut_of_held held with
  | already done => exact absurd done unfinished
  | unmarked others _ found =>
      obtain ⟨rfl, rfl, -⟩ := clears.unique others turns
      obtain rfl := List.append_cancel_left turns
      have same := marking.result_unique found
      cases same
      rfl
  | completed others _ found _ =>
      obtain ⟨rfl, rfl, -⟩ := clears.unique others turns
      obtain ⟨controls, found⟩ := found single
      -- a failure and a success cannot both come of the same turns
      have marked := (List.append_nil _).trans (List.append_cancel_left turns)
      obtain ⟨-, -, same⟩ := marking.unique found marked
      cases same

theorem error_of_escape {fault : Fault} {result : Except Fault Outcome}
    (escape : Escape step mode before verdicts required trace after fault)
    (held : (respond step mode (before.status step.key) (verdicts.contains true) required).Held
      before trace after result) : result = .error fault := by
  cases escape with
  | unmarked met single unfinished clears marking =>
      have met : verdicts.contains true = true := by simpa using met
      simp only [respond, met] at held
      exact error_of_unmarked single unfinished clears marking held
  | ungrouped passed single runs kind =>
      simp only [respond, passed, admitted, single] at held
      obtain ⟨inner, ran, middle, reported, found, reports, turns⟩ := held_outcome_bind.1 held
      obtain ⟨-, -, rfl⟩ := runs.unique found ((List.append_nil _).trans turns)
      cases fault with
      | guide error =>
          have thrown : (throw (.guide error) : Run Outcome).Held middle reported after result := by
            simpa [reportRun, show error.isConsistency = true from kind] using reports
          exact (held_throw.1 thrown).2.2
      | _ => cases kind
  | broken passed multiple runs =>
      simp only [respond, passed, admitted, multiple] at held
      exact (runs.result_unique held).symm

theorem Escape.caused {fault : Fault}
    (escape : Escape step mode before verdicts required trace after fault)
    (free : required ≠ none → isBusy (before.status step.key) = false) : Caused trace fault := by
  cases escape with
  | unmarked _ _ _ _ marking =>
      apply Caused.mono (.inl (blames_markCompleted _ marking))
      exact List.subset_append_right _ _
  | ungrouped _ _ _ kind => exact .inl (.inl kind)
  | broken _ _ runs =>
      have idle : before.status step.key ≠ .running := by
        intro running
        have free := free (by simp)
        rw [running] at free
        cases free
      exact (held_runActions idle runs).2.caused

/-- After its inquiry a trigger fails exactly in one of three ways: the run of a plain step meets a
broken grouping of the controls, the controls of a step whose objectives are met cannot be marked,
or the run of a multi-step is broken off. Each failure has its cause in a turn of the trigger. -/
theorem trigger_error_iff {result : Except Fault Outcome}
    (held : (trigger step mode).Held before trace after result) :
    ∃ opening rest verdicts required, trace = opening ++ rest ∧
      Inquiry step before (isMultiple step) opening verdicts required ∧
      ∀ fault,
        (result = .error fault ↔ Escape step mode before verdicts required rest after fault) ∧
        (result = .error fault → Caused trace fault) := by
  obtain ⟨opening, rest, verdicts, required, inquiry, response, rfl⟩ := answered_of_trigger held
  refine ⟨opening, rest, verdicts, required, rfl, inquiry, ?_⟩
  intro fault
  have escapes : result = .error fault →
      Escape step mode before verdicts required rest after fault := by
    rintro rfl
    exact escape_of_respond response
  refine ⟨⟨escapes, fun escape => error_of_escape escape response⟩, ?_⟩
  intro failed
  apply ((escapes failed).caused _).mono (List.subset_append_right _ _)
  intro assessed
  cases required with
  | none => exact absurd rfl assessed
  | some assessment => exact inquiry.free_of_required.2

def madeDetour : Step :=
  { detour with objectives := some "made" }

def unmarkable : Scene where
  page
    | .markCompleted _ => .error (.page "gone")
    | call => roadside.page call
  tuning := { Scene.unhurried 3 with unknownRequirementsPass := true }

theorem madeDetour_escapes :
    ∃ trace after, (trigger madeDetour .commit).Held ⟨[], []⟩ trace after (.error (.page "gone")) ∧
      ∃ opening rest verdicts required, trace = opening ++ rest ∧
        Inquiry madeDetour ⟨[], []⟩ false opening verdicts required ∧
        Escape madeDetour .commit ⟨[], []⟩ verdicts required rest after (.page "gone") := by
  obtain ⟨trace, held, -⟩ := unmarkable.held (trigger madeDetour .commit) ⟨[], []⟩
  have result : (unmarkable.outcome (trigger madeDetour .commit) ⟨[], []⟩).1 =
      .error (.page "gone") := by rfl
  rw [result] at held
  obtain ⟨opening, rest, verdicts, required, same, inquiry, escapes⟩ := trigger_error_iff held
  exact ⟨trace, _, held, opening, rest, verdicts, required, same, inquiry, (escapes _).1.1 rfl⟩

end Walkthrough.Guide
