import Walkthrough.Requirement.Check
import Walkthrough.Step
/-!
Evaluating a whole expression. All checks are begun in order; those that wait for a fact are
collected afterwards, so that the evaluation takes as long as its slowest check. A check that fails
in itself counts as not passed, and an evaluation never fails.
-/

namespace Walkthrough

namespace Verdict

def broken (raw : String) (fault : Fault) : Verdict :=
  failed raw ("Check failed: " ++ fault.words) .null

def ofOutcome (raw : String) : Except Fault Verdict → Verdict
  | .ok verdict => verdict
  | .error fault => broken raw fault

end Verdict

namespace Requirement

/-- A check that has begun: settled at once, or waiting for a fact. -/
inductive Begun where
  | settled (verdict : Verdict)
  | waiting (raw : String) (asked : Lookup) (judge : Json → Except Fault Verdict)
      (seconds : Float)

def begin (requirement : Requirement) (subject : Subject) : Run Begun := do
  match requirement.check subject with
  | .direct run => return .settled (.ofOutcome requirement.raw (← Run.outcome run))
  | .fact asked judge =>
      match ← Run.ask (.lookup asked) with
      | .now reply => return .settled (.ofOutcome requirement.raw (reply.bind judge))
      | .after seconds => return .waiting requirement.raw asked judge seconds

def beginAll (subject : Subject) : List Requirement → Run (List Begun)
  | [] => pure []
  | requirement :: rest => do
      let first ← requirement.begin subject
      return first :: (← beginAll subject rest)

def Begun.finish : Begun → Run (Verdict × Float)
  | settled verdict => pure (verdict, 0)
  | waiting raw asked judge seconds => do
      let reply ← Run.ask (.collect asked)
      return (.ofOutcome raw (reply.bind judge), seconds)

def finishAll : List Begun → Run (List Verdict × Float)
  | [] => pure ([], 0)
  | begun :: rest => do
      let (verdict, elapsed) ← begun.finish
      let (verdicts, longest) ← finishAll rest
      return (verdict :: verdicts, if elapsed < longest then longest else elapsed)

def evaluateTimed (expression : String) (subject : Subject) : Run (Assessment × Float) := do
  let begun ← beginAll subject (parseAll expression)
  let (verdicts, elapsed) ← finishAll begun
  return (.ofVerdicts expression verdicts, elapsed)

/-- A missing expression is an empty one. -/
def evaluate (expression : Option String) (subject : Subject) : Run Assessment :=
  Prod.fst <$> evaluateTimed (expression.getD "") subject

/-- The assessment, or nothing if it is not there before the limit, in milliseconds, is reached.
Without time left, nothing is begun. -/
def evaluateWithin (limit : Amount) (expression : String) (subject : Subject) :
    Run (Option Assessment) := do
  let seconds ← Run.ofMisuse limit.thousandth
  if seconds ≤ 0 then return none
  else
    let (assessment, elapsed) ← evaluateTimed expression subject
    return if seconds ≤ elapsed then none else some assessment

end Requirement

def InnerAction.subject (inner : InnerAction) : Subject :=
  ⟨inner.action.name, inner.target⟩

def Step.subject (step : Step) : Subject :=
  ⟨step.action.name, step.target⟩

end Walkthrough
