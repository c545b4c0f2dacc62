import Walkthrough.Facts.Fixed
import Walkthrough.Proofs.Phrasing
/-!
A check about a fact. Where a fact is told, at once or after a while, an expression with one check
about it comes to what the check makes of the fact.
Main statement: `assess_of_informed`.
-/

namespace Walkthrough

namespace Requirement

section Informed

variable {σ : Type} {answer : (asked : Request) → StateM σ asked.Answer} {view : σ → Records}

/-- Whoever answers tells this fact, at once or after a while, and no other one. -/
structure Informed (answer : (asked : Request) → StateM σ asked.Answer) (asked : Lookup)
    (fact : Json) : Prop where
  prompt : ∀ met, ((answer (.lookup asked)).run met).1 = .now (.ok fact) ∨
    ∃ seconds, ((answer (.lookup asked)).run met).1 = .after seconds
  collected : ∀ met, ((answer (.collect asked)).run met).1 = .ok fact

def Passes (answer : (asked : Request) → StateM σ asked.Answer) (situation : σ)
    (expression : String) (subject : Subject) : Prop :=
  ∃ assessment, assess answer situation (some expression) subject = .ok assessment ∧
    assessment.passed = true

variable {asked : Lookup} {fact : Json} {judge : Json → Except Fault Verdict}
  {requirement : Requirement} {subject : Subject} {expression : String}

theorem verdict_of_informed (informed : Informed answer asked fact)
    (about : requirement.check subject = .fact asked judge) {trace : List Turn} {verdict : Verdict}
    (told : ∀ turn ∈ trace, ∃ met, turn.reply = ((answer turn.asked).run met).1)
    (judged : Judged subject trace requirement verdict) :
    verdict = .ofOutcome requirement.raw (judge fact) := by
  cases judged with
  | seen direct => cases direct.symm.trans about
  | told same heard =>
      cases same.symm.trans about
      obtain ⟨met, replied⟩ := told _ heard
      rcases informed.prompt met with now | ⟨seconds, later⟩
      · cases replied.trans now
        rfl
      · cases replied.trans later
  | awaited same _ heard =>
      cases same.symm.trans about
      obtain ⟨met, replied⟩ := told _ heard
      cases replied.trans (informed.collected met)
      rfl

theorem assess_of_informed (faithful : Faithful answer view) (informed : Informed answer asked fact)
    (about : requirement.check subject = .fact asked judge)
    (single : parseAll expression = [requirement]) (situation : σ) :
    ∃ assessment, assess answer situation (some expression) subject = .ok assessment ∧
      assessment.passed = (Verdict.ofOutcome requirement.raw (judge fact)).passed := by
  obtain ⟨trace, assessment, result, -, assessed, told⟩ :=
    assessed_of_faithful faithful (some expression) subject situation
  have judged := assessed.judged
  rw [Option.getD_some, single] at judged
  obtain ⟨verdict, rest, first, last, verdicts⟩ := List.forall₂_cons_left_iff.1 judged
  obtain rfl := List.forall₂_nil_left_iff.1 last
  have same := verdict_of_informed informed about (fun turn member => (told turn member).2) first
  refine ⟨assessment, result, ?_⟩
  rw [assessed.passed, verdicts, ← same]
  simp

theorem passes_iff_of_informed (faithful : Faithful answer view)
    (informed : Informed answer asked fact)
    (about : requirement.check subject = .fact asked judge)
    (single : parseAll expression = [requirement]) (situation : σ) :
    Passes answer situation expression subject ↔
      ∃ verdict, judge fact = .ok verdict ∧ verdict.passed = true := by
  obtain ⟨assessment, result, passed⟩ := assess_of_informed faithful informed about single situation
  have same : Passes answer situation expression subject ↔ assessment.passed = true := by
    constructor
    · rintro ⟨other, again, holds⟩
      cases result.symm.trans again
      exact holds
    · exact fun holds => ⟨assessment, result, holds⟩
  rw [same, passed]
  cases judge fact with
  | ok verdict => simp [Verdict.ofOutcome]
  | error fault => simp [Verdict.ofOutcome, Verdict.broken, Verdict.failed]

end Informed

end Requirement

/-! Surroundings that know the facts. -/

namespace Scene

def knowing (scene : Scene) (fixed : Facts.Fixed) (asked : Request) :
    StateM Records asked.Answer :=
  match asked with
  | .lookup asked => pure (.now (fixed.lookup asked))
  | .collect asked => pure (fixed.lookup asked)
  | asked => scene.answer asked

theorem faithful_knowing (scene : Scene) (fixed : Facts.Fixed) :
    Faithful (scene.knowing fixed) id := by
  intro asked records
  cases asked with
  | lookup | collect => rfl
  | _ => exact scene.faithful _ records

theorem informed_knowing (scene : Scene) {fixed : Facts.Fixed} {asked : Lookup} {fact : Json}
    (given : fixed.lookup asked = .ok fact) :
    Requirement.Informed (scene.knowing fixed) asked fact where
  prompt _ := .inl (congrArg Prompt.now given)
  collected _ := given

end Scene

end Walkthrough
