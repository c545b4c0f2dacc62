import Walkthrough.Validation.Fields
import Walkthrough.Requirement
/-!
What came of the checks: a verdict for each, and the assessment of the whole expression.
-/

namespace Walkthrough

/-- The outcome of one check. A passed check may still carry a remark. -/
structure Verdict where
  requirement : String
  passed : Bool
  error : Option String
  context : Json

namespace Verdict

def ok (requirement : String) (context : Json) : Verdict :=
  ⟨requirement, true, none, context⟩

def failed (requirement error : String) (context : Json) : Verdict :=
  ⟨requirement, false, some error, context⟩

def payload (verdict : Verdict) : Json :=
  .object [("requirement", .text verdict.requirement), ("pass", .bool verdict.passed),
    ("error", .ofOption verdict.error)]

def reason (verdict : Verdict) : String :=
  match verdict.error with
  | some error => if error = "" then verdict.requirement else error
  | none => verdict.requirement

open Validation in
def readError : Json → Except Defect (Option String)
  | .null => .ok none
  | .text content => .ok (some content)
  | _ => .error .notText

open Validation in
def read : Json → Checked Verdict
  | .object fields =>
      also (also (also (.ok fun requirement passed error => Verdict.mk requirement passed error
            ((Fields.lookup fields "context").getD .null))
        (required ⟨"requirement", []⟩ (scalar readText) fields))
        (required ⟨"pass", ["passed"]⟩ (scalar readTruth) fields))
        (optional ⟨"error", []⟩ none (scalar readError) fields)
  | value => .error [⟨[], .notModel "CheckResult", value⟩]

def readModel (value : Json) : Except Validation.Failure Verdict :=
  match read value with
  | .ok verdict => .ok verdict
  | .error issues => .error ⟨"CheckResult", issues⟩

end Verdict

structure Assessment where
  expression : String
  passed : Bool
  verdicts : List Verdict

namespace Assessment

def ofVerdicts (expression : String) (verdicts : List Verdict) : Assessment :=
  ⟨expression, verdicts.all (·.passed), verdicts⟩

def failures (assessment : Assessment) : List Verdict :=
  assessment.verdicts.filter fun verdict => !verdict.passed

def explanation (assessment : Assessment) : String :=
  ", ".intercalate (assessment.failures.map Verdict.reason)

def payload (assessment : Assessment) : Json :=
  .object [("requirements", .text assessment.expression), ("pass", .bool assessment.passed),
    ("results", .list (assessment.verdicts.map Verdict.payload))]

open Validation in
def readModel (verdicts : List Verdict) (fields : List (String × Json)) :
    Except Failure Assessment :=
  match also (also (.ok fun expression passed => ⟨expression, passed, verdicts⟩)
      (optional ⟨"requirements", []⟩ "" (scalar readText) fields))
      (required ⟨"pass", ["passed"]⟩ (scalar readTruth) fields) with
  | .ok assessment => .ok assessment
  | .error issues => .error ⟨"RequirementsResult", issues⟩

end Assessment

end Walkthrough
