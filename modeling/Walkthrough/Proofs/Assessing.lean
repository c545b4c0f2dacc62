import Mathlib.Data.List.Forall2
import Walkthrough.Proofs.Asking
import Walkthrough.Proofs.Trimming
/-!
What the evaluation of an expression comes to. It never fails, and it has one verdict for each
check of the expression, in their order. A verdict is what its own check has come to, on what the
page or the facts have answered to it; a check that goes wrong fails nothing but itself. So, as long
as the same questions get the same answers, two expressions with a comma between them have the
verdicts of the one and then those of the other.

Main statement: `evaluated_exactly`.
-/

namespace Walkthrough

/-! Answers that depend on nothing but the question. -/

def AnsweredBy (answers : (asked : Request) → asked.Answer) (trace : List Turn) : Prop :=
  ∀ turn ∈ trace, turn.reply = answers turn.asked

theorem Dialogue.Held.result_alike {α : Type} {dialogue : Dialogue Request.Answer α}
    {answers : (asked : Request) → asked.Answer} {before middle start after : Records}
    {trace other : List Turn} {result found : α}
    (first : dialogue.Held before trace middle result)
    (second : dialogue.Held start other after found) (here : AnsweredBy answers trace)
    (there : AnsweredBy answers other) : result = found := by
  induction first generalizing start other with
  | done value records => exact (Dialogue.held_done_iff.1 second).2.2.symm
  | @ask asked next reply _ _ _ _ _ answered rest ih =>
      obtain ⟨heard, _, turns, -, tail, rfl⟩ := Dialogue.held_ask_iff.1 second
      obtain ⟨mine, later⟩ := List.forall_mem_cons.1 here
      obtain ⟨yours, others⟩ := List.forall_mem_cons.1 there
      have same : reply = heard := Eq.trans mine (Eq.symm yours)
      subst same
      exact ih tail later others

namespace Requirement

open Run

variable {subject : Subject} {requirement : Requirement} {trace whole : List Turn}
variable {before after : Records} {verdict : Verdict}

/-! The text that a verdict is about. -/

def Names (raw : String) (outcome : Except Fault Verdict) : Prop :=
  ∀ verdict, outcome = .ok verdict → verdict.requirement = raw

section Naming

variable {raw : String} {α : Type}

theorem verdictOf_requirement (holds : Bool) (reason : String) :
    (verdictOf raw holds reason).requirement = raw := by
  cases holds <;> rfl

theorem names_ok (about : verdict.requirement = raw) : Names raw (.ok verdict) := by
  rintro _ ⟨⟩
  exact about

theorem names_bind {first : Except Fault α} {next : α → Except Fault Verdict}
    (later : ∀ value, Names raw (next value)) : Names raw (first >>= next) := by
  intro verdict same
  cases first with
  | ok value => exact later value verdict same
  | error fault => cases same

theorem names_ofOutcome {outcome : Except Fault Verdict} (names : Names raw outcome) :
    (Verdict.ofOutcome raw outcome).requirement = raw := by
  cases outcome with
  | ok verdict => exact names verdict rfl
  | error fault => rfl

end Naming

def CheckNames (raw : String) : Check → Prop
  | .direct run => ∀ ⦃before trace after outcome⦄,
      run.Held before trace after outcome → Names raw outcome
  | .fact _ judge => ∀ answer, Names raw (judge answer)

/-- One case for each kind of check: a search of the page ends with a verdict on what was found, and
a judgement with a verdict on the answer. -/
theorem check_names (requirement : Requirement) (subject : Subject) :
    CheckNames requirement.raw (requirement.check subject) := by
  unfold Requirement.check
  cases requirement.kind with
  | existsTarget =>
      rintro before trace after _ held verdict rfl
      unfold targetExists at held
      split at held
      · obtain ⟨buttons, -, rfl⟩ := held_bind_pure_ok.1 held
        exact verdictOf_requirement _ _
      · obtain ⟨resolution, -, rfl⟩ := held_bind_pure_ok.1 held
        split <;> rfl
  | menuOpen =>
      rintro before trace after _ held verdict rfl
      obtain ⟨tuning, rest, tail, -⟩ := held_settings_bind.1 held
      obtain ⟨menus, -, rfl⟩ := held_bind_pure_ok.1 tail
      exact verdictOf_requirement _ _
  | onPage =>
      rintro before trace after _ held verdict rfl
      obtain ⟨current, -, rfl⟩ := held_bind_pure_ok.1 held
      exact verdictOf_requirement _ _
  | unknown =>
      rintro before trace after _ held verdict rfl
      obtain ⟨tuning, -, rfl⟩ := held_bind_pure_ok.1 held
      rfl
  | isAdmin =>
      intro user
      dsimp only [judgeAdmin]
      split
      · exact names_ok rfl
      · refine names_bind fun _ => ?_
        split <;> exact names_ok rfl
  | hasRole =>
      intro user
      dsimp only [judgeRole]
      split
      · exact names_ok rfl
      · refine names_bind fun satisfied => ?_
        split
        · exact names_ok rfl
        · exact names_bind fun _ => names_ok rfl
  | hasDataSources =>
      intro sources
      dsimp only [judgeSources]
      split <;> exact names_ok rfl
  | hasDataSource =>
      intro sources
      refine names_bind fun _ => names_bind fun found => ?_
      split <;> exact names_ok rfl
  | hasPermission => exact fun _ => names_ok (verdictOf_requirement _ _)
  | hasPlugin | hasDashboard =>
      exact fun _ => names_bind fun _ => names_bind fun _ => names_ok (verdictOf_requirement _ _)
  | hasFeature | inEnvironment =>
      exact fun _ => names_bind fun _ => names_ok (verdictOf_requirement _ _)
  | minVersion =>
      intro settings
      refine names_bind fun _ => names_bind fun _ => names_bind fun _ => ?_
      exact names_ok (verdictOf_requirement _ _)

/-! One check. -/

/-- The verdict is what the requirement has come to in the talk: its check of the page was held, or
its fact was heard, at once or after a while, and judged. -/
inductive Judged (subject : Subject) (whole : List Turn) (requirement : Requirement) :
    Verdict → Prop where
  | seen {run before turns after outcome} (direct : requirement.check subject = .direct run)
      (held : run.Held before turns after outcome) (part : turns <:+: whole) :
      Judged subject whole requirement (.ofOutcome requirement.raw outcome)
  | told {asked judge reply} (fact : requirement.check subject = .fact asked judge)
      (heard : (⟨.lookup asked, .now reply⟩ : Turn) ∈ whole) :
      Judged subject whole requirement (.ofOutcome requirement.raw (reply.bind judge))
  | awaited {asked judge seconds reply} (fact : requirement.check subject = .fact asked judge)
      (waits : (⟨.lookup asked, .after seconds⟩ : Turn) ∈ whole)
      (heard : (⟨.collect asked, reply⟩ : Turn) ∈ whole) :
      Judged subject whole requirement (.ofOutcome requirement.raw (reply.bind judge))

theorem Judged.mono (judged : Judged subject trace requirement verdict)
    (part : trace <:+: whole) : Judged subject whole requirement verdict := by
  cases judged with
  | seen direct held inside => exact .seen direct held (inside.trans part)
  | told fact heard => exact .told fact (part.subset heard)
  | awaited fact waits heard => exact .awaited fact (part.subset waits) (part.subset heard)

theorem Judged.names (judged : Judged subject whole requirement verdict) :
    verdict.requirement = requirement.raw := by
  have names := check_names requirement subject
  cases judged with
  | seen direct held =>
      rw [direct] at names
      exact names_ofOutcome (names held)
  | told fact | awaited fact =>
      rw [fact] at names
      exact names_ofOutcome (names_bind names)

theorem Judged.unique {answers : (asked : Request) → asked.Answer}
    (answered : AnsweredBy answers whole) : Relator.RightUnique (Judged subject whole) := by
  intro requirement verdict other first second
  cases first with
  | seen direct held part =>
      cases second with
      | seen same again inside =>
          cases direct.symm.trans same
          have alike := Dialogue.Held.result_alike held again
            (fun turn member => answered turn (part.subset member))
            (fun turn member => answered turn (inside.subset member))
          rw [alike]
      | told fact | awaited fact => cases direct.symm.trans fact
  | told fact heard =>
      cases second with
      | seen direct => cases direct.symm.trans fact
      | told same again =>
          cases fact.symm.trans same
          cases (answered _ heard).trans (answered _ again).symm
          rfl
      -- a fact that is there at once is never waited for
      | awaited same waits =>
          cases fact.symm.trans same
          cases (answered _ heard).trans (answered _ waits).symm
  | awaited fact waits heard =>
      cases second with
      | seen direct => cases direct.symm.trans fact
      | told same again =>
          cases fact.symm.trans same
          cases (answered _ waits).trans (answered _ again).symm
      | awaited same _ again =>
          cases fact.symm.trans same
          cases (answered _ heard).trans (answered _ again).symm
          rfl

/-! All checks of an expression. -/

/-- What has begun is settled with its verdict, or it waits for the fact of its requirement. -/
def Begun.Stands (subject : Subject) (whole : List Turn) (requirement : Requirement) :
    Begun → Prop
  | .settled verdict => Judged subject whole requirement verdict
  | .waiting raw asked judge seconds =>
      raw = requirement.raw ∧ requirement.check subject = .fact asked judge ∧
        (⟨.lookup asked, .after seconds⟩ : Turn) ∈ whole

theorem stands_of_begin {begun : Begun}
    (held : (requirement.begin subject).Held before trace after (.ok begun))
    (part : trace <:+: whole) : begun.Stands subject whole requirement := by
  unfold Requirement.begin at held
  split at held
  · next run direct =>
      obtain ⟨outcome, turns, _, _, runs, ended, rfl⟩ := held_outcome_bind.1 held
      obtain ⟨rfl, -, rfl⟩ := held_pure_ok.1 ended
      exact .seen direct runs (by simpa using part)
  · next asked judge fact =>
      obtain ⟨prompt, _, _, -, tail, rfl⟩ := held_ask_bind.1 held
      have heard := part.subset List.mem_cons_self
      cases prompt with
      | now reply =>
          obtain ⟨-, -, rfl⟩ := held_pure_ok.1 tail
          exact .told fact heard
      | after seconds =>
          obtain ⟨-, -, rfl⟩ := held_pure_ok.1 tail
          exact ⟨rfl, fact, heard⟩

theorem stands_of_beginAll {requirements : List Requirement} {begun : List Begun}
    (held : (beginAll subject requirements).Held before trace after (.ok begun))
    (part : trace <:+: whole) :
    List.Forall₂ (Begun.Stands subject whole) requirements begun := by
  induction requirements generalizing before trace after begun with
  | nil =>
      obtain ⟨-, -, rfl⟩ := held_pure_ok.1 held
      exact .nil
  | cons requirement rest ih =>
      obtain ⟨first, opening, _, closing, begins, tail, rfl⟩ := held_bind_ok.1 held
      obtain ⟨others, rests, rfl⟩ := held_bind_pure_ok.1 tail
      constructor
      · exact stands_of_begin begins ((List.prefix_append opening closing).isInfix.trans part)
      · exact ih rests ((List.suffix_append opening closing).isInfix.trans part)

theorem judged_of_finish {begun : Begun} {seconds : Float}
    (stands : begun.Stands subject whole requirement)
    (held : begun.finish.Held before trace after (.ok (verdict, seconds)))
    (part : trace <:+: whole) : Judged subject whole requirement verdict := by
  cases begun with
  | settled settled =>
      obtain ⟨-, -, same⟩ := held_pure_ok.1 held
      cases same
      exact stands
  | waiting raw asked judge wait =>
      obtain ⟨rfl, fact, waits⟩ := stands
      obtain ⟨reply, _, _, -, tail, rfl⟩ := held_ask_bind.1 held
      obtain ⟨-, -, same⟩ := held_pure_ok.1 tail
      cases same
      exact .awaited fact waits (part.subset List.mem_cons_self)

/-- By induction on the checks that have begun, each with its own requirement. -/
theorem judged_of_finishAll {requirements : List Requirement} {begun : List Begun}
    {verdicts : List Verdict} {elapsed : Float}
    (stands : List.Forall₂ (Begun.Stands subject whole) requirements begun)
    (held : (finishAll begun).Held before trace after (.ok (verdicts, elapsed)))
    (part : trace <:+: whole) :
    List.Forall₂ (Judged subject whole) requirements verdicts := by
  induction stands generalizing before trace after verdicts elapsed with
  | nil =>
      obtain ⟨-, -, same⟩ := held_pure_ok.1 held
      cases same
      exact .nil
  | cons first others ih =>
      obtain ⟨⟨verdict, seconds⟩, opening, _, closing, finishes, tail, rfl⟩ := held_bind_ok.1 held
      obtain ⟨⟨later, longest⟩, rests, same⟩ := held_bind_pure_ok.1 tail
      cases same
      constructor
      · have here := (List.prefix_append opening closing).isInfix.trans part
        exact judged_of_finish first finishes here
      · exact ih rests ((List.suffix_append opening closing).isInfix.trans part)

/-! Expressions. -/

theorem parseAll_append (left right : String) :
    parseAll (left ++ "," ++ right) = parseAll left ++ parseAll right := by
  have joined : (left ++ "," ++ right).toList = left.toList ++ ',' :: right.toList := by simp
  simp only [parseAll, joined]
  rw [Text.cut_append_cons (by decide), List.filter_append, List.map_append]

theorem parseChars_raw (raw : List Char) : (parseChars raw).raw = String.ofList raw := by
  unfold parseChars
  split
  · rfl
  · split <;> rfl

theorem raw_ne_empty {expression : String} (member : requirement ∈ parseAll expression) :
    requirement.raw ≠ "" := by
  obtain ⟨item, kept, rfl⟩ := List.mem_map.1 member
  have filled : item.all Text.isBlank = false := by simpa using (List.mem_filter.1 kept).2
  rw [parseChars_raw]
  intro empty
  have nothing : Text.trimChars item = [] := by simpa using congrArg String.toList empty
  rw [Text.trimChars_eq_nil_iff.1 nothing] at filled
  cases filled

theorem reason_ne_empty (about : verdict.requirement ≠ "") : verdict.reason ≠ "" := by
  unfold Verdict.reason
  split
  · split
    · exact about
    · assumption
  · exact about

theorem intercalate_ne_empty {separator first : String} (filled : first ≠ "")
    (others : List String) : separator.intercalate (first :: others) ≠ "" := by
  cases others with
  | nil => simpa using filled
  | cons second rest =>
      rw [String.intercalate_cons_of_ne_nil (List.cons_ne_nil _ _)]
      simp [filled]

theorem explanation_eq_empty_iff {assessment : Assessment}
    (about : ∀ verdict ∈ assessment.verdicts, verdict.requirement ≠ "") :
    assessment.explanation = "" ↔ assessment.verdicts.all Verdict.passed = true := by
  have none : assessment.verdicts.all Verdict.passed = true ↔ assessment.failures = [] := by
    simp [Assessment.failures, List.filter_eq_nil_iff]
  rw [none, Assessment.explanation]
  cases failures : assessment.failures with
  | nil => simp
  | cons first others =>
      have failed : first ∈ assessment.failures := by simp [failures]
      have given := reason_ne_empty (about first (List.mem_filter.1 failed).1)
      simpa using intercalate_ne_empty given _

/-- What is known of the assessment of an expression, in view of the talk in which it was made. -/
structure Assessed (subject : Subject) (given : String) (trace : List Turn)
    (assessment : Assessment) : Prop where
  expression : assessment.expression = given
  judged : List.Forall₂ (Judged subject trace) (parseAll given) assessment.verdicts
  named : assessment.verdicts.map Verdict.requirement = (parseAll given).map Requirement.raw
  passed : assessment.passed = assessment.verdicts.all Verdict.passed
  explained : assessment.explanation = "" ↔ assessment.passed = true

theorem names_of_judged {requirements : List Requirement} {verdicts : List Verdict}
    (judged : List.Forall₂ (Judged subject whole) requirements verdicts) :
    verdicts.map Verdict.requirement = requirements.map Requirement.raw := by
  induction judged with
  | nil => rfl
  | cons first _ ih => rw [List.map_cons, List.map_cons, first.names, ih]

theorem assessed_of_judged {expression : String} {verdicts : List Verdict}
    (judged : List.Forall₂ (Judged subject whole) (parseAll expression) verdicts) :
    Assessed subject expression whole (.ofVerdicts expression verdicts) where
  expression := rfl
  judged := judged
  named := names_of_judged judged
  passed := rfl
  explained := by
    have about : ∀ verdict ∈ verdicts, verdict.requirement ≠ "" := by
      intro verdict member
      have named : verdict.requirement ∈ (parseAll expression).map Requirement.raw := by
        rw [← names_of_judged judged]
        exact List.mem_map_of_mem member
      obtain ⟨requirement, parsed, same⟩ := List.mem_map.1 named
      rw [← same]
      exact raw_ne_empty parsed
    exact explanation_eq_empty_iff about

theorem assessed_of_evaluate {expression : Option String} {result : Except Fault Assessment}
    (held : (evaluate expression subject).Held before trace after result) :
    after = before ∧ ∃ assessment, result = .ok assessment ∧
      Assessed subject (expression.getD "") trace assessment := by
  refine ⟨held.spared (asks_mono (evaluate_looks _ _) ?_), ?_⟩
  · exact fun request looks => request.spares_of_keepsBooks (request.keepsBooks_of_looks looks)
  obtain ⟨assessment, rfl⟩ := evaluate_returns _ _ held
  obtain ⟨inner, timed, same⟩ := held_map.1 held
  cases inner with
  | error fault => cases same
  | ok value =>
      obtain ⟨begun, opening, _, closing, begins, tail, rfl⟩ := held_bind_ok.1 timed
      obtain ⟨⟨verdicts, elapsed⟩, finishes, rfl⟩ := held_bind_pure_ok.1 tail
      cases same
      have stands := stands_of_beginAll begins (List.prefix_append opening closing).isInfix
      refine ⟨_, rfl, assessed_of_judged ?_⟩
      exact judged_of_finishAll stands finishes (List.suffix_append opening closing).isInfix

theorem verdicts_append {answers : (asked : Request) → asked.Answer} {left right : String}
    {earlier later last : List Turn} {first second joined : Assessment}
    (one : Assessed subject left earlier first) (two : Assessed subject right later second)
    (both : Assessed subject (left ++ "," ++ right) last joined)
    (answered : AnsweredBy answers (earlier ++ later ++ last)) :
    joined.verdicts = first.verdicts ++ second.verdicts := by
  have ones := one.judged.imp fun _ _ judged =>
    judged.mono (List.append_assoc earlier later last ▸ List.prefix_append earlier _).isInfix
  have twos := two.judged.imp fun _ _ judged => judged.mono ⟨earlier, last, rfl⟩
  have boths := both.judged.imp fun _ _ judged =>
    judged.mono (List.suffix_append (earlier ++ later) last).isInfix
  rw [parseAll_append] at boths
  exact List.right_unique_forall₂' (Judged.unique answered) boths (List.rel_append ones twos)

/-! Whoever answers. -/

section Answering

variable {σ : Type} (answer : (asked : Request) → StateM σ asked.Answer)

def assess (situation : σ) (expression : Option String) (subject : Subject) :
    Except Fault Assessment :=
  ((Dialogue.holdWith answer (evaluate expression subject).run).run situation).1

/-- The page, the facts and the settings answer the same throughout. -/
def Unvarying : Prop :=
  ∀ asked : Request, asked.looks = true → ∀ met other : σ,
    ((answer asked).run met).1 = ((answer asked).run other).1

variable {answer} {view : σ → Records}

theorem assessed_of_faithful (faithful : Faithful answer view) (expression : Option String)
    (subject : Subject) (situation : σ) :
    ∃ trace assessment, assess answer situation expression subject = .ok assessment ∧
      (evaluate expression subject).Held (view situation) trace (view situation)
        (.ok assessment) ∧
      Assessed subject (expression.getD "") trace assessment ∧
      ∀ turn ∈ trace, turn.asked.looks = true ∧
        ∃ met, turn.reply = ((answer turn.asked).run met).1 := by
  obtain ⟨trace, held, told⟩ := held_of_faithful answer view faithful _ situation
  obtain ⟨same, assessment, result, assessed⟩ := assessed_of_evaluate held
  rw [same, result] at held
  refine ⟨trace, assessment, result, held, assessed, fun turn member => ⟨?_, told turn member⟩⟩
  exact held.asked (evaluate_looks _ _) turn member

/-- Whoever answers, and whatever fails: the evaluation returns, with one verdict for each check of
the expression, in order, that is what this check has come to; it is passed if all of them are, and
it has an explanation if it is not. If the answers do not vary, the verdicts of two expressions with
a comma between them are those of the one and then those of the other. -/
theorem evaluated_exactly (faithful : Faithful answer view) (subject : Subject) :
    (∀ expression situation, ∃ trace assessment,
      assess answer situation expression subject = .ok assessment ∧
      (evaluate expression subject).Held (view situation) trace (view situation)
        (.ok assessment) ∧
      Assessed subject (expression.getD "") trace assessment) ∧
    (Unvarying answer → ∀ left right here there anywhere, ∃ first second joined,
      assess answer here (some left) subject = .ok first ∧
      assess answer there (some right) subject = .ok second ∧
      assess answer anywhere (some (left ++ "," ++ right)) subject = .ok joined ∧
      joined.verdicts = first.verdicts ++ second.verdicts ∧
      joined.passed = (first.passed && second.passed)) := by
  constructor
  · intro expression situation
    obtain ⟨trace, assessment, result, held, assessed, -⟩ :=
      assessed_of_faithful faithful expression subject situation
    exact ⟨trace, assessment, result, held, assessed⟩
  · intro unvarying left right here there anywhere
    obtain ⟨earlier, first, result, -, one, told⟩ :=
      assessed_of_faithful faithful (some left) subject here
    obtain ⟨later, second, outcome, -, two, heard⟩ :=
      assessed_of_faithful faithful (some right) subject there
    obtain ⟨last, joined, whole, -, both, known⟩ :=
      assessed_of_faithful faithful (some (left ++ "," ++ right)) subject anywhere
    have answered : AnsweredBy (fun asked => ((answer asked).run here).1)
        (earlier ++ later ++ last) := by
      intro turn member
      obtain ⟨looks, met, replied⟩ : turn.asked.looks = true ∧
          ∃ met, turn.reply = ((answer turn.asked).run met).1 := by
        rcases List.mem_append.1 member with member | member
        · exact (List.mem_append.1 member).elim (told turn) (heard turn)
        · exact known turn member
      exact replied.trans (unvarying turn.asked looks met here)
    have verdicts := verdicts_append one two both answered
    refine ⟨first, second, joined, result, outcome, whole, verdicts, ?_⟩
    rw [both.passed, one.passed, two.passed, verdicts, List.all_append]

end Answering

theorem unvarying_of_scene (scene : Scene) : Unvarying scene.answer := by
  intro asked looks met other
  cases asked with
  | page | lookup | collect | settings => rfl
  | _ => cases looks

/-- On a page that does not tell where it is, with no facts to be had, both checks fail. -/
theorem roadside_evaluated :
    ∃ first second joined,
      assess roadside.answer ⟨[], []⟩ (some "on-page:/b") .unnamed = .ok first ∧
      assess roadside.answer ⟨[], []⟩ (some "has-role:admin") .unnamed = .ok second ∧
      assess roadside.answer ⟨[], []⟩ (some "on-page:/b,has-role:admin") .unnamed = .ok joined ∧
      joined.verdicts = first.verdicts ++ second.verdicts ∧
      joined.verdicts.map Verdict.requirement = ["on-page:/b", "has-role:admin"] ∧
      joined.passed = false ∧ joined.explanation ≠ "" := by
  obtain ⟨assesses, appends⟩ := evaluated_exactly roadside.faithful .unnamed
  obtain ⟨first, second, joined, one, two, both, verdicts, -⟩ :=
    appends (unvarying_of_scene roadside) "on-page:/b" "has-role:admin" ⟨[], []⟩ ⟨[], []⟩ ⟨[], []⟩
  obtain ⟨trace, assessment, result, -, assessed⟩ :=
    assesses (some "on-page:/b,has-role:admin") ⟨[], []⟩
  have both : assess roadside.answer ⟨[], []⟩ (some "on-page:/b,has-role:admin") .unnamed =
      .ok joined := both
  cases result.symm.trans both
  have failed : joined.passed = false := by
    have computed : (assess roadside.answer ⟨[], []⟩ (some "on-page:/b,has-role:admin")
        .unnamed).map Assessment.passed = .ok false := by rfl
    rw [both] at computed
    exact Except.ok.inj computed
  have named : joined.verdicts.map Verdict.requirement = ["on-page:/b", "has-role:admin"] := by
    rw [assessed.named]
    decide
  refine ⟨first, second, joined, one, two, both, verdicts, named, failed, ?_⟩
  rw [Ne, assessed.explained, failed]
  decide

end Requirement

end Walkthrough
