/-!
Character classes given as tables of code-point spans.
-/

namespace Walkthrough.Text

def inSpans (spans : List (Nat × Nat)) (code : Nat) : Bool :=
  spans.any fun span => span.1 ≤ code && code ≤ span.2

def inRuns (runs : List (Nat × Nat × Nat)) (code : Nat) : Bool :=
  runs.any fun (first, last, stride) =>
    first ≤ code && code ≤ last && (code - first) % stride = 0

theorem inSpans_iff (spans : List (Nat × Nat)) (code : Nat) :
    inSpans spans code = true ↔ ∃ span ∈ spans, span.1 ≤ code ∧ code ≤ span.2 := by
  simp [inSpans]

end Walkthrough.Text
