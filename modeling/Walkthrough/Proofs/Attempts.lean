import Walkthrough.Proofs.Course
/-!
The attempts at doing a step, told in phases. Each phase is a part of the run that is held by
itself: a check of the requirements, a run of the step, a rest, a wait for the next attempt, or
the way back to idle. The attempts are rounds of such phases. Each round begins with the number of
attempts made so far, and either gives a higher number to the next round or ends the attempts; so
the bound on the attempts, and not the patience, is what ends them.
-/

namespace Walkthrough.Guide

open Run

inductive Phase where
  | check (passed : Bool)
  | run (mode : Mode) (progress : Progress)
  | rest (result : Except Fault Unit)
  | wait (result : Except Fault Unit)
  | reset

/-- The phase is held as the part of the run that it stands for. -/
inductive Phase.Enacted (step : Step) : Phase → Records → List Turn → Records → Prop where
  | check {passed before trace after}
      (held : (ready step).Held before trace after (.ok passed)) :
      Enacted step (.check passed) before trace after
  | run {mode progress before trace after}
      (held : (runStep step mode).Held before trace after progress.result)
      (course : Course step before mode trace after progress) :
      Enacted step (.run mode progress) before trace after
  | rest {delay result before trace after}
      (held : (Run.pause delay).Held before trace after result) :
      Enacted step (.rest result) before trace after
  | wait {tuning : Tuning} {result before trace after}
      (held : (Run.pause tuning.retryDelay).Held before trace after result) :
      Enacted step (.wait result) before trace after
  | reset {state before trace after}
      (held : (Run.reset step.key).Held before trace after (.ok state)) :
      Enacted step .reset before trace after

/-- Phases one after the other, with looks at the settings in between. -/
inductive Enacts (step : Step) : List Phase → Records → List Turn → Records → Prop where
  | nil {records} : Enacts step [] records [] records
  | settings {tuning : Tuning} {phases before trace after}
      (rest : Enacts step phases before trace after) :
      Enacts step phases before (⟨.settings, tuning⟩ :: trace) after
  | phase {phase phases before middle after first second}
      (enacted : Phase.Enacted step phase before first middle)
      (rest : Enacts step phases middle second after) :
      Enacts step (phase :: phases) before (first ++ second) after

namespace Enacts

variable {step : Step} {phases more : List Phase} {before middle after : Records}
variable {first second trace : List Turn}

theorem append (enacts : Enacts step phases before first middle)
    (rest : Enacts step more middle second after) :
    Enacts step (phases ++ more) before (first ++ second) after := by
  induction enacts with
  | nil => exact rest
  | settings _ ih => exact .settings (ih rest)
  | phase enacted _ ih =>
      rw [List.append_assoc]
      exact .phase enacted (ih rest)

theorem one {phase : Phase} (enacted : Phase.Enacted step phase before trace after) :
    Enacts step [phase] before trace after := by
  rw [← List.append_nil trace]
  exact .phase enacted .nil

end Enacts

/-! The shape of the attempts. -/

/-- What follows a round: another round, after so many attempts, or the end. -/
inductive Next where
  | again (attempt : Nat)
  | finished (result : Except Fault Unit)

def Next.ofResult (attempt : Nat) : Except Fault Unit → Next
  | .ok _ => again attempt
  | .error fault => finished (.error fault)

def Next.ofWait (attempt : Nat) : Except Fault Bool → Next
  | .ok true => again attempt
  | .ok false => finished (.ok ())
  | .error fault => finished (.error fault)

/-- After so many attempts there is a wait only if another one is allowed. -/
inductive Waiting (limit attempt : Nat) : List Phase → Except Fault Bool → Prop where
  | spent (beyond : limit ≤ attempt) : Waiting limit attempt [] (.ok false)
  | waited (under : attempt < limit) : Waiting limit attempt [.wait (.ok ())] (.ok true)
  | failed {fault} (under : attempt < limit) :
      Waiting limit attempt [.wait (.error fault)] (.error fault)

/-- A failed attempt ends everything, or the step is made idle and there is a wait. -/
inductive Recovery (limit attempt : Nat) (fault : Fault) :
    List Phase → Except Fault Unit → Prop where
  | refused (kind : fault.isConsistency = true) :
      Recovery limit attempt fault [] (.error fault)
  | recovered {phases result} (kind : fault.isConsistency = false)
      (waiting : Waiting limit (attempt + 1) phases result) :
      Recovery limit attempt fault (.reset :: phases) (result.map fun _ => ())

/-- A step is shown, checked again and done, as far as nothing comes in between. -/
inductive Trial : List Phase → Except Fault Bool → Prop where
  | unshown {progress fault} (failed : progress.result = .error fault) :
      Trial [.run .preview progress] (.error fault)
  | restless {fault} :
      Trial [.run .preview .ended, .rest (.error fault)] (.error fault)
  | outdated :
      Trial [.run .preview .ended, .rest (.ok ()), .check false] (.ok false)
  | undone {progress fault} (failed : progress.result = .error fault) :
      Trial [.run .preview .ended, .rest (.ok ()), .check true, .run .commit progress]
        (.error fault)
  | done :
      Trial [.run .preview .ended, .rest (.ok ()), .check true, .run .commit .ended] (.ok true)

inductive Round (limit attempt : Nat) : List Phase → Next → Prop where
  | spent (beyond : limit ≤ attempt) : Round limit attempt [] (.finished (.ok ()))
  | unready {phases result} (may : attempt < limit)
      (waiting : Waiting limit (attempt + 1) phases result) :
      Round limit attempt (.check false :: phases) (.ofWait (attempt + 1) result)
  | failed {tried phases fault result} (may : attempt < limit)
      (trial : Trial tried (.error fault))
      (recovery : Recovery limit attempt fault phases result) :
      Round limit attempt (.check true :: (tried ++ phases)) (.ofResult (attempt + 1) result)
  | outdated {tried phases again} (may : attempt < limit) (trial : Trial tried (.ok false))
      (waiting : Waiting limit (attempt + 1) phases (.ok again)) :
      Round limit attempt (.check true :: (tried ++ phases)) (.again (attempt + 1))
  | stranded {tried phases more fault result} (may : attempt < limit)
      (trial : Trial tried (.ok false))
      (waiting : Waiting limit (attempt + 1) phases (.error fault))
      (recovery : Recovery limit (attempt + 1) fault more result) :
      Round limit attempt (.check true :: (tried ++ (phases ++ more)))
        (.ofResult (attempt + 2) result)
  | done {tried} (may : attempt < limit) (trial : Trial tried (.ok true)) :
      Round limit attempt (.check true :: tried) (.finished (.ok ()))
  | rested {tried result} (may : attempt < limit) (trial : Trial tried (.ok true)) :
      Round limit attempt (.check true :: (tried ++ [.rest result])) (.finished result)

inductive Rounds (limit : Nat) : Nat → List Phase → Except Fault Unit → Prop where
  | last {attempt phases result} (round : Round limit attempt phases (.finished result)) :
      Rounds limit attempt phases result
  | next {attempt later phases more result} (round : Round limit attempt phases (.again later))
      (rounds : Rounds limit later more result) : Rounds limit attempt (phases ++ more) result

/-! What is held takes that shape. -/

def Turn.limited (number : Int) (turn : Turn) : Prop :=
  match turn with
  | ⟨.settings, tuning⟩ => tuning.retryMax = .whole number
  | _ => True

def Limited (number : Int) (trace : List Turn) : Prop :=
  ∀ turn ∈ trace, Turn.limited number turn

theorem Limited.of_append {number : Int} {first second : List Turn}
    (limited : Limited number (first ++ second)) : Limited number first ∧ Limited number second :=
  List.forall_mem_append.1 limited

variable {step : Step} {before after : Records} {trace : List Turn} {number : Int}

theorem held_mayAttempt {attempt : Nat} {result : Except Fault Bool}
    (held : (mayAttempt attempt).Held before trace after result) (limited : Limited number trace) :
    result = .ok (decide (attempt < number.toNat)) ∧ after = before ∧
      ∃ tuning, trace = [⟨.settings, tuning⟩] := by
  obtain ⟨tuning, rest, tail, rfl⟩ := held_settings_bind.1 held
  obtain ⟨rfl, rfl, rfl⟩ := held_ofMisuse.1 tail
  have whole : tuning.retryMax = .whole number := limited _ List.mem_cons_self
  have exceeded : tuning.retryMax.exceeds attempt = .ok (decide (attempt < number.toNat)) := by
    rw [whole]
    simp only [Amount.exceeds, Except.ok.injEq, decide_eq_decide]
    omega
  rw [exceeded]
  exact ⟨rfl, rfl, tuning, rfl⟩

theorem enacts_retryPause (step : Step) {attempt : Nat} {result : Except Fault Bool}
    (held : (retryPause attempt).Held before trace after result) (limited : Limited number trace) :
    ∃ phases, Enacts step phases before trace after ∧
      Waiting number.toNat attempt phases result := by
  obtain ⟨tuning, rest, tail, rfl⟩ := held_settings_bind.1 held
  have whole : tuning.retryMax = .whole number := limited _ List.mem_cons_self
  have reached : tuning.retryMax.isReachedBy attempt = .ok (decide (number.toNat ≤ attempt)) := by
    rw [whole]
    simp only [Amount.isReachedBy, Except.ok.injEq, decide_eq_decide]
    omega
  rw [reached] at tail
  -- the number of attempts decides whether there is a pause at all
  by_cases beyond : number.toNat ≤ attempt
  · have tail : (pure false : Run Bool).Held before rest after result := by
      simpa [ofMisuse, beyond] using tail
    obtain ⟨rfl, rfl, rfl⟩ := held_pure.1 tail
    exact ⟨[], .settings .nil, .spent beyond⟩
  · have tail : (Run.pause tuning.retryDelay >>= fun _ => pure true).Held
        before rest after result := by
      simpa [ofMisuse, beyond] using tail
    rcases held_bind.1 tail with ⟨_, first, _, _, paused, ended, rfl⟩ | ⟨fault, failed, rfl⟩
    · obtain ⟨rfl, rfl, rfl⟩ := held_pure.1 ended
      rw [List.append_nil]
      exact ⟨_, .settings (.one (.wait paused)), .waited (by omega)⟩
    · exact ⟨_, .settings (.one (.wait failed)), .failed (by omega)⟩

theorem enacts_recover {attempt : Nat} {fault : Fault} {result : Except Fault Unit}
    (held : (recover step attempt fault).Held before trace after result)
    (limited : Limited number trace) :
    ∃ phases, Enacts step phases before trace after ∧
      Recovery number.toNat attempt fault phases result := by
  unfold recover at held
  split at held
  · next kind =>
      obtain ⟨rfl, rfl, rfl⟩ := held_throw.1 held
      exact ⟨[], .nil, .refused kind⟩
  · next kind =>
      have kind : fault.isConsistency = false := by simpa using kind
      rcases held_bind.1 held with ⟨_, first, _, second, head, tail, rfl⟩ | ⟨other, failed, -⟩
      · obtain ⟨inner, reset, -⟩ := held_discard.1 head
        obtain ⟨⟨state, rfl⟩, -⟩ := held_reset reset
        obtain ⟨inner, waits, rfl⟩ := held_discard.1 tail
        obtain ⟨phases, enacts, waiting⟩ :=
          enacts_retryPause step waits limited.of_append.2
        exact ⟨_, .phase (.reset reset) enacts, .recovered kind waiting⟩
      -- the way back to idle does not fail
      · obtain ⟨inner, reset, same⟩ := held_discard.1 failed
        obtain ⟨⟨state, rfl⟩, -⟩ := held_reset reset
        cases same

theorem enacts_run {mode : Mode} {result : Except Fault Unit}
    (held : (runStep step mode).Held before trace after result) :
    ∃ progress, Enacts step [.run mode progress] before trace after ∧
      result = progress.result := by
  obtain ⟨progress, course, rfl⟩ := course_of_held held
  exact ⟨progress, .one (.run held course), rfl⟩

theorem Progress.eq_ended {progress : Progress} {value : Unit}
    (ok : .ok value = progress.result) : progress = .ended := by
  cases progress <;> first | rfl | cases ok

theorem enacts_recheck {result : Except Fault Bool}
    (held : (ready step >>= fun passed =>
      if passed then runStep step .commit >>= fun _ => pure true else pure false).Held
        before trace after result) :
    (Enacts step [.check false] before trace after ∧ result = .ok false) ∨
    ∃ progress, Enacts step [.check true, .run .commit progress] before trace after ∧
      result = progress.result.map fun _ => true := by
  rcases held_bind.1 held with ⟨passed, first, _, second, checked, rest, rfl⟩ | ⟨fault, failed, -⟩
  · cases passed with
    | false =>
        obtain ⟨rfl, rfl, rfl⟩ := held_pure.1 rest
        exact .inl ⟨.phase (.check checked) .nil, rfl⟩
    | true =>
        rcases held_bind.1 rest with ⟨_, third, _, _, commits, ended, rfl⟩ | ⟨fault, failed, rfl⟩
        · obtain ⟨rfl, rfl, rfl⟩ := held_pure.1 ended
          obtain ⟨progress, enacts, same⟩ := enacts_run commits
          rw [List.append_nil]
          exact .inr ⟨progress, .phase (.check checked) enacts, by rw [← same]; rfl⟩
        · obtain ⟨progress, enacts, same⟩ := enacts_run failed
          exact .inr ⟨progress, .phase (.check checked) enacts, by rw [← same]; rfl⟩
  · obtain ⟨value, same⟩ := ready_returns step failed
    cases same

theorem enacts_showThenDo {result : Except Fault Bool}
    (held : (showThenDo step).Held before trace after result) :
    ∃ phases, Enacts step phases before trace after ∧ Trial phases result := by
  rcases held_bind.1 held with ⟨_, first, _, _, shows, rest, rfl⟩ | ⟨fault, failed, rfl⟩
  · obtain ⟨progress, showing, ok⟩ := enacts_run shows
    obtain rfl := Progress.eq_ended ok
    obtain ⟨tuning, second, resting, rfl⟩ := held_settings_bind.1 rest
    rcases held_bind.1 resting with ⟨⟨⟩, third, _, _, rests, again, rfl⟩ | ⟨fault, failed, rfl⟩
    · rcases enacts_recheck again with ⟨checks, rfl⟩ | ⟨progress, commits, rfl⟩
      · exact ⟨_, showing.append (.settings (.phase (.rest rests) checks)), .outdated⟩
      · refine ⟨_, showing.append (.settings (.phase (.rest rests) commits)), ?_⟩
        cases progress with
        | ended => exact .done
        | _ => exact .undone rfl
    · exact ⟨_, showing.append (.settings (.one (.rest failed))), .restless⟩
  · obtain ⟨progress, enacts, failed⟩ := enacts_run failed
    exact ⟨_, enacts, .unshown failed.symm⟩

/-- Whenever the run is held, it goes through the rounds that remain after so many attempts. -/
def Tells (step : Step) (number : Int) (attempt : Nat) (run : Run Unit) : Prop :=
  ∀ ⦃before trace after result⦄, run.Held before trace after result → Limited number trace →
    ∃ phases, Enacts step phases before trace after ∧
      Rounds number.toNat attempt phases result

theorem rounds_of_recover (head : List Phase) {attempt spent : Nat} {fault : Fault}
    {next : Run Unit} {result : Except Fault Unit}
    (round : ∀ phases result, Recovery number.toNat spent fault phases result →
      Round number.toNat attempt (head ++ phases) (.ofResult (spent + 1) result))
    (goesOn : Tells step number (spent + 1) next)
    (held : (recover step spent fault >>= fun _ => next).Held before trace after result)
    (limited : Limited number trace) :
    ∃ phases, Enacts step phases before trace after ∧
      Rounds number.toNat attempt (head ++ phases) result := by
  rcases held_bind.1 held with ⟨_, first, _, second, recovers, rest, rfl⟩ | ⟨other, failed, rfl⟩
  · obtain ⟨phases, enacts, recovery⟩ := enacts_recover recovers limited.of_append.1
    obtain ⟨more, going, rounds⟩ := goesOn rest limited.of_append.2
    refine ⟨phases ++ more, enacts.append going, ?_⟩
    rw [← List.append_assoc]
    exact .next (round _ _ recovery) rounds
  · obtain ⟨phases, enacts, recovery⟩ := enacts_recover failed limited
    exact ⟨phases, enacts, .last (round _ _ recovery)⟩

theorem rounds_of_unready {attempt : Nat} {next : Run Unit} {result : Except Fault Unit}
    (may : attempt < number.toNat) (goesOn : Tells step number (attempt + 1) next)
    (held : (retryPause (attempt + 1) >>= fun again => if again then next else pure ()).Held
      before trace after result)
    (limited : Limited number trace) :
    ∃ phases, Enacts step phases before trace after ∧
      Rounds number.toNat attempt (.check false :: phases) result := by
  rcases held_bind.1 held with ⟨again, first, _, second, waits, rest, rfl⟩ | ⟨fault, failed, rfl⟩
  · obtain ⟨phases, enacts, waiting⟩ :=
      enacts_retryPause step waits limited.of_append.1
    have round := Round.unready may waiting
    cases again with
    | true =>
        obtain ⟨more, going, rounds⟩ := goesOn rest limited.of_append.2
        exact ⟨phases ++ more, enacts.append going, .next round rounds⟩
    | false =>
        obtain ⟨rfl, rfl, rfl⟩ := held_pure.1 rest
        rw [List.append_nil]
        exact ⟨phases, enacts, .last round⟩
  · obtain ⟨phases, enacts, waiting⟩ := enacts_retryPause step failed limited
    exact ⟨phases, enacts, .last (.unready may waiting)⟩

theorem rounds_of_trial {attempt : Nat} {isLast : Bool} {next : Nat → Run Unit}
    {tried : List Phase} {outcome : Except Fault Bool} {result : Except Fault Unit}
    (may : attempt < number.toNat) (trial : Trial tried outcome)
    (goesOn : ∀ later, attempt < later → later ≤ number.toNat →
      Tells step number later (next later))
    (held : (match outcome with
      | .ok true => if isLast then pure () else pauseAfter step
      | .ok false => Run.outcome (retryPause (attempt + 1)) >>= fun waited =>
          match waited with
          | .ok _ => next (attempt + 1)
          | .error fault => recover step (attempt + 1) fault >>= fun _ => next (attempt + 2)
      | .error fault => recover step attempt fault >>= fun _ => next (attempt + 1)).Held
        before trace after result)
    (limited : Limited number trace) :
    ∃ phases, Enacts step phases before trace after ∧
      Rounds number.toNat attempt (.check true :: (tried ++ phases)) result := by
  match outcome with
  | .ok true =>
      cases isLast with
      | true =>
          obtain ⟨rfl, rfl, rfl⟩ := held_pure.1 held
          refine ⟨[], .nil, .last ?_⟩
          rw [List.append_nil]
          exact .done may trial
      | false =>
          obtain ⟨tuning, rest, rests, rfl⟩ := held_settings_bind.1 held
          exact ⟨[.rest result], .settings (.one (.rest rests)), .last (.rested may trial)⟩
  | .ok false =>
      obtain ⟨waited, first, _, second, waits, rest, rfl⟩ := held_outcome_bind.1 held
      obtain ⟨phases, enacts, waiting⟩ :=
        enacts_retryPause step waits limited.of_append.1
      cases waited with
      | ok again =>
          obtain ⟨more, going, rounds⟩ :=
            goesOn _ (by omega) (by omega) rest limited.of_append.2
          refine ⟨phases ++ more, enacts.append going, ?_⟩
          rw [← List.append_assoc]
          exact .next (.outdated may trial waiting) rounds
      | error fault =>
          -- a pause that fails was allowed, so this round has cost two attempts
          have under : attempt + 1 < number.toNat := by
            cases waiting
            assumption
          obtain ⟨more, going, rounds⟩ :=
            rounds_of_recover (.check true :: (tried ++ phases))
              (fun more result recovery => by
                simpa using Round.stranded may trial waiting recovery)
              (goesOn _ (by omega) (by omega)) rest limited.of_append.2
          exact ⟨phases ++ more, enacts.append going, by simpa using rounds⟩
  | .error fault =>
      exact rounds_of_recover (.check true :: tried)
        (fun _ _ recovery => .failed may trial recovery) (goesOn _ (by omega) (by omega))
        held limited

/-- The attempts that remain, when the patience still exceeds the number of those allowed. By
induction on the patience: the number of attempts grows by each round as the patience shrinks. -/
theorem enacts_doAttempts {isLast : Bool} {patience attempt : Nat} {result : Except Fault Unit}
    (held : (doAttempts step isLast patience attempt).Held before trace after result)
    (limited : Limited number trace) (begun : attempt ≤ number.toNat)
    (patient : number.toNat < attempt + patience) :
    ∃ phases, Enacts step phases before trace after ∧
      Rounds number.toNat attempt phases result := by
  induction patience generalizing before trace after attempt result with
  -- the attempts are used up before the patience is
  | zero => omega
  | succ patience ih =>
      rcases held_bind.1 held with ⟨may, first, opened, second, asked, body, rfl⟩ | ⟨fault, failed, -⟩
      · obtain ⟨same, rfl, tuning, rfl⟩ := held_mayAttempt asked limited.of_append.1
        cases same
        have limited := limited.of_append.2
        by_cases may : attempt < number.toNat
        · have goesOn : ∀ later, attempt < later → later ≤ number.toNat →
              Tells step number later (doAttempts step isLast patience later) :=
            fun later more allowed _ _ _ _ held limited =>
              ih held limited allowed (by omega)
          simp only [may, decide_true, Bool.not_true, Bool.false_eq_true, ↓reduceIte] at body
          rcases held_bind.1 body with ⟨passed, third, _, fourth, checked, rest, rfl⟩ | ⟨fault, failed, -⟩
          · have limited := limited.of_append.2
            cases passed with
            | false =>
                obtain ⟨phases, enacts, rounds⟩ :=
                  rounds_of_unready may (goesOn _ (by omega) (by omega)) rest limited
                have whole := Enacts.phase (.check checked) enacts
                exact ⟨_, .settings whole, rounds⟩
            | true =>
                obtain ⟨outcome, fifth, _, sixth, tries, last, rfl⟩ := held_outcome_bind.1 rest
                obtain ⟨tried, trying, trial⟩ := enacts_showThenDo tries
                obtain ⟨phases, enacts, rounds⟩ :=
                  rounds_of_trial may trial goesOn last limited.of_append.2
                have whole := Enacts.phase (.check checked) (trying.append enacts)
                exact ⟨_, .settings whole, rounds⟩
          · obtain ⟨value, same⟩ := ready_returns step failed
            cases same
        · have ended : (pure () : Run Unit).Held opened second after result := by
            simpa [may] using body
          obtain ⟨rfl, rfl, rfl⟩ := held_pure.1 ended
          exact ⟨[], .settings .nil, .last (.spent (by omega))⟩
      · obtain ⟨same, -⟩ := held_mayAttempt failed limited
        cases same

/-! Sequences in blocks. -/

def approach (sequence : String) (position : Nat) (step : Step) : Run Bool := do
  Run.setIndex sequence position
  prepare step

/-- A sequence in blocks, one for each step in order. The block of a step that needs no attempt, or
that is not reached, is empty. -/
inductive Staged (limit : Nat) (sequence : String) :
    Nat → List Step → List (List Phase) → Records → List Turn → Records → Except Fault Unit →
      Prop where
  | done {position records} : Staged limit sequence position [] [] records [] records (.ok ())
  | unprepared {position step rest before trace after fault}
      (approaches : (approach sequence position step).Held before trace after (.error fault)) :
      Staged limit sequence position (step :: rest) ([] :: rest.map fun _ => [])
        before trace after (.error fault)
  | unneeded {position step rest blocks before middle after first second result}
      (approaches : (approach sequence position step).Held before first middle (.ok false))
      (others : Staged limit sequence (position + 1) rest blocks middle second after result) :
      Staged limit sequence position (step :: rest) ([] :: blocks)
        before (first ++ second) after result
  | attempted {position step rest block blocks before ready middle after first second third result}
      (approaches : (approach sequence position step).Held before first ready (.ok true))
      (enacts : Enacts step block ready second middle) (rounds : Rounds limit 0 block (.ok ()))
      (others : Staged limit sequence (position + 1) rest blocks middle third after result) :
      Staged limit sequence position (step :: rest) (block :: blocks)
        before (first ++ (second ++ third)) after result
  | failed {position step rest block before ready after first second fault}
      (approaches : (approach sequence position step).Held before first ready (.ok true))
      (enacts : Enacts step block ready second after)
      (rounds : Rounds limit 0 block (.error fault)) :
      Staged limit sequence position (step :: rest) (block :: rest.map fun _ => [])
        before (first ++ second) after (.error fault)

theorem held_patience {result : Except Fault Nat}
    (held : patience.Held before trace after result) (limited : Limited number trace) :
    result = .ok (number.toNat + allowance) ∧ after = before ∧
      ∃ tuning, trace = [⟨.settings, tuning⟩] := by
  obtain ⟨tuning, rest, tail, rfl⟩ := held_settings_bind.1 held
  obtain ⟨rfl, rfl, rfl⟩ := held_pure.1 tail
  have whole : tuning.retryMax = .whole number := limited _ List.mem_cons_self
  refine ⟨?_, rfl, tuning, rfl⟩
  rw [whole]
  rfl

theorem held_block {isLast : Bool} {next : Run Unit} {result : Except Fault Unit}
    (held : (patience >>= fun most => doAttempts step isLast most 0 >>= fun _ => next).Held
      before trace after result) (limited : Limited number trace) :
    (∃ block middle first second, Enacts step block before first middle ∧
      Rounds number.toNat 0 block (.ok ()) ∧ next.Held middle second after result ∧
      Limited number second ∧ trace = first ++ second) ∨
    ∃ block fault, Enacts step block before trace after ∧
      Rounds number.toNat 0 block (.error fault) ∧ result = .error fault := by
  rcases held_bind.1 held with ⟨most, first, opened, second, asked, body, rfl⟩ | ⟨fault, failed, -⟩
  · obtain ⟨same, rfl, tuning, rfl⟩ := held_patience asked limited.of_append.1
    cases same
    have limited := limited.of_append.2
    have patient : number.toNat < 0 + (number.toNat + allowance) := by
      unfold allowance
      omega
    rcases held_bind.1 body with ⟨⟨⟩, third, _, fourth, attempts, rest, rfl⟩ | ⟨fault, failed, rfl⟩
    · obtain ⟨block, enacts, rounds⟩ :=
        enacts_doAttempts attempts limited.of_append.1 (Nat.zero_le _) patient
      exact .inl ⟨block, _, _, fourth, .settings enacts, rounds, rest, limited.of_append.2, rfl⟩
    · obtain ⟨block, enacts, rounds⟩ :=
        enacts_doAttempts failed limited (Nat.zero_le _) patient
      exact .inr ⟨block, fault, .settings enacts, rounds, rfl⟩
  · obtain ⟨same, -⟩ := held_patience failed limited
    cases same

/-- By induction on the steps, each of which is approached, and then attempted from the first
attempt on. -/
theorem staged_of_held {sequence : String} {position : Nat} {steps : List Step}
    {result : Except Fault Unit}
    (held : (doAll sequence position steps).Held before trace after result)
    (limited : Limited number trace) :
    ∃ blocks, Staged number.toNat sequence position steps blocks before trace after result := by
  induction steps generalizing position before trace with
  | nil =>
      obtain ⟨rfl, rfl, rfl⟩ := held_pure.1 held
      exact ⟨[], .done⟩
  | cons step rest ih =>
      -- the index of the sequence is set on the way to the step, not by its attempts
      have opened : (approach sequence position step >>= fun wanted =>
          if wanted then patience >>= fun most =>
            doAttempts step rest.isEmpty most 0 >>= fun _ => doAll sequence (position + 1) rest
          else doAll sequence (position + 1) rest).Held before trace after result := by
        rw [approach, bind_assoc]
        exact held
      rcases held_bind.1 opened with ⟨wanted, first, _, _, approaches, body, rfl⟩ | ⟨fault, failed, rfl⟩
      · have limited := limited.of_append.2
        cases wanted with
        | false =>
            obtain ⟨blocks, staged⟩ := ih body limited
            exact ⟨_, .unneeded approaches staged⟩
        | true =>
            rcases held_block body limited with
              ⟨block, _, second, third, enacts, rounds, others, tailLimited, rfl⟩ |
              ⟨block, fault, enacts, rounds, rfl⟩
            · obtain ⟨blocks, staged⟩ := ih others tailLimited
              exact ⟨_, .attempted approaches enacts rounds staged⟩
            · exact ⟨_, .failed approaches enacts rounds⟩
      · exact ⟨_, .unprepared failed⟩

end Walkthrough.Guide
