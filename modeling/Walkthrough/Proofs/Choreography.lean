import Walkthrough.Proofs.Attempts
/-!
The choreography of doing a sequence. The commands announced are those of one block for each step,
in order. Within a block, a step is shown only after a passed check, done only after it was shown
and checked again, and left alone once it is done; and the number of times it is shown, done and
waited for is bounded by the number of attempts allowed.
-/

namespace Walkthrough.Guide

open Run

/-! Commands. -/

def Turn.command? (turn : Turn) : Option Command :=
  match turn with
  | ⟨.announce command, _⟩ => some command
  | _ => none

def commands (trace : List Turn) : List Command :=
  trace.filterMap Turn.command?

theorem commands_append (first second : List Turn) :
    commands (first ++ second) = commands first ++ commands second :=
  List.filterMap_append

theorem commands_mute {trace : List Turn} (mute : ∀ turn ∈ trace, turn.asked.mute = true) :
    commands trace = [] := by
  apply List.filterMap_eq_nil_iff.2
  intro turn member
  have silent := mute turn member
  obtain ⟨asked, reply⟩ := turn
  cases asked with
  | announce command => cases silent
  | _ => rfl

variable {α : Type} {step : Step} {before after : Records} {trace : List Turn}

theorem commands_of_mute {run : Run α} {result : Except Fault α}
    (held : run.Held before trace after result) (asks : run.Asks (·.mute)) : commands trace = [] :=
  commands_mute (held.asked asks)

theorem commands_of_quietly {run : Run α} {result : Except Fault α}
    (held : run.Held before trace after result) (asks : run.Asks quietly) : commands trace = [] :=
  commands_of_mute held (asks_mono asks fun _ => mute_of_quietly)

theorem commands_perform {command : Command} {result : Except Fault Performance}
    (held : command.perform.Held before trace after result) : commands trace = [command] := by
  -- the announcement comes first, and carrying out a command announces no other
  obtain ⟨_, _, rest, -, carried, rfl⟩ := held_ask_bind.1 held
  have silent := commands_of_mute carried
    (asks_mono (Command.carryOut_works command) Request.mute_of_works)
  rw [← List.singleton_append, commands_append, silent]
  rfl

theorem commands_accepts {move : Move} {turn : Turn} (accepts : before.Accepts move turn after) :
    commands [turn] = [] := by
  obtain ⟨⟨state, rfl⟩, -, -⟩ := accepts
  rfl

theorem bookkeeping_mute (key : String) : (bookkeeping key).Asks (·.mute) :=
  asks_mono (bookkeeping_keepsBooks key) Request.mute_of_keepsBooks

theorem commands_course {mode : Mode} {progress : Progress}
    (course : Course step before mode trace after progress) :
    commands trace = if progress.started then [stepCommand step mode] else [] := by
  cases course with
  | refused _ beginning => exact commands_of_quietly beginning (begin_quietly _)
  | broke beginning acts ending | shown beginning acts ending =>
      rw [commands_append, commands_append, commands_of_quietly beginning (begin_quietly _),
        commands_perform acts, commands_accepts ending]
      rfl
  | late beginning acts books ending | completed beginning acts books ending =>
      rw [commands_append, commands_append, commands_append,
        commands_of_quietly beginning (begin_quietly _), commands_perform acts,
        commands_of_mute books (bookkeeping_mute _), commands_accepts ending]
      rfl

def Phase.command? (step : Step) : Phase → Option Command
  | run mode progress => if progress.started then some (stepCommand step mode) else none
  | _ => none

theorem pause_mute (delay : Amount) : (Run.pause delay).Asks (·.mute) := by
  refine asks_bind (asks_ofMisuse _) fun positive => ?_
  split
  · exact asks_bind (asks_ofMisuse _) fun _ => ⟨rfl, fun _ => trivial⟩
  · trivial

theorem commands_enacted {phase : Phase} (enacted : phase.Enacted step before trace after) :
    commands trace = (phase.command? step).toList := by
  cases enacted with
  | check held =>
      exact commands_of_mute held (asks_mono (ready_looks step) Request.mute_of_looks)
  | @run _ progress _ _ _ _ course =>
      rw [commands_course course, Phase.command?]
      split <;> rfl
  | rest held | wait held => exact commands_of_mute held (pause_mute _)
  | reset held => exact commands_of_quietly held (reset_quietly _)

theorem commands_enacts {phases : List Phase} (enacts : Enacts step phases before trace after) :
    commands trace = phases.filterMap (Phase.command? step) := by
  induction enacts with
  | nil => rfl
  | settings _ ih => exact ih
  | @phase phase phases _ _ _ _ _ enacted _ ih =>
      rw [commands_append, commands_enacted enacted, ih, List.filterMap_cons]
      cases phase.command? step <;> rfl

theorem status_mute (key : String) : (Run.status key).Asks (·.mute) :=
  asks_status rfl

theorem reset_mute (key : String) : (Run.reset key).Asks (·.mute) :=
  asks_reset rfl rfl

theorem completeByObjectives_mute (step : Step) : (completeByObjectives step).Asks (·.mute) :=
  asks_completeByObjectives rfl Request.mute_of_keepsBooks rfl rfl

theorem approach_mute (sequence : String) (position : Nat) (step : Step) :
    (approach sequence position step).Asks (·.mute) := by
  refine asks_bind (asks_ask rfl) fun _ => ?_
  refine asks_bind (asks_mono (objectivesMet_looks step) Request.mute_of_looks) fun met => ?_
  split
  · refine asks_bind (status_mute _) fun status => ?_
    dsimp only
    split
    · exact asks_bind (asks_discard (completeByObjectives_mute step)) fun _ => asks_pure _
    · exact asks_pure _
  · refine asks_bind (status_mute _) fun status => ?_
    dsimp only
    split
    · exact asks_bind (asks_discard (reset_mute _)) fun _ => asks_pure _
    · exact asks_pure _

theorem commands_staged {limit : Nat} {sequence : String} {position : Nat} {steps : List Step}
    {blocks : List (List Phase)} {result : Except Fault Unit}
    (staged : Staged limit sequence position steps blocks before trace after result) :
    commands trace = (steps.zip blocks).flatMap fun pair =>
      pair.2.filterMap (Phase.command? pair.1) := by
  have unreached (steps : List Step) :
      ((steps.zip (steps.map fun _ => ([] : List Phase))).flatMap fun pair =>
        pair.2.filterMap (Phase.command? pair.1)) = [] := by
    induction steps with
    | nil => rfl
    | cons step rest ih => simpa using ih
  induction staged with
  | done => rfl
  | unprepared approaches =>
      rw [commands_of_mute approaches (approach_mute _ _ _)]
      simpa using (unreached _).symm
  | unneeded approaches _ ih =>
      rw [commands_append, commands_of_mute approaches (approach_mute _ _ _), ih]
      rfl
  | attempted approaches enacts _ _ ih =>
      rw [commands_append, commands_append, commands_of_mute approaches (approach_mute _ _ _),
        commands_enacts enacts, ih]
      rfl
  | failed approaches enacts _ =>
      rw [commands_append, commands_of_mute approaches (approach_mute _ _ _),
        commands_enacts enacts]
      simp only [List.zip_cons_cons, List.flatMap_cons, unreached, List.nil_append, List.append_nil]

/-! The laws of a block. -/

namespace Phase

def isRun : Phase → Bool
  | run .. => true
  | _ => false

def shows : Phase → Bool
  | run .preview _ => true
  | _ => false

def commits : Phase → Bool
  | run .commit _ => true
  | _ => false

def waits : Phase → Bool
  | wait _ => true
  | _ => false

/-- No run of the step follows in its block: it is done, or the failure is one that ends the whole
sequence. -/
def closes : Phase → Bool
  | run .commit .ended => true
  | run _ (.refused fault) | run _ (.broke fault) | run _ (.late fault) => fault.isConsistency
  | _ => false

end Phase

/-- What has to stand directly before a phase; the phases before it are given latest first. -/
def Led (seen : List Phase) : Phase → Prop
  | .run .preview _ => ∃ more, seen = .check true :: more
  | .run .commit _ =>
      ∃ more, seen = .check true :: .rest (.ok ()) :: .run .preview .ended :: more
  | _ => True

def Ordered : List Phase → List Phase → Prop
  | _, [] => True
  | seen, phase :: rest => Led seen phase ∧ Ordered (phase :: seen) rest

theorem ordered_append (first rest seen : List Phase) :
    Ordered seen (first ++ rest) ↔ Ordered seen first ∧ Ordered (first.reverse ++ seen) rest := by
  induction first generalizing seen with
  | nil => simp [Ordered]
  | cons phase first ih =>
      simp only [List.cons_append, Ordered, ih, List.reverse_cons, List.append_assoc,
        List.nil_append, and_assoc]

def Closed : List Phase → Prop
  | [] => True
  | phase :: rest =>
      (phase.closes = true → ∀ other ∈ rest, other.isRun = false) ∧ Closed rest

theorem closed_cons {phase : Phase} {rest : List Phase} (loose : phase.closes = false)
    (closed : Closed rest) : Closed (phase :: rest) := by
  refine ⟨?_, closed⟩
  intro closes
  rw [loose] at closes
  cases closes

theorem closed_append {first rest : List Phase} (loose : ∀ phase ∈ first, phase.closes = false)
    (closed : Closed rest) : Closed (first ++ rest) := by
  induction first with
  | nil => exact closed
  | cons phase first ih =>
      apply closed_cons (loose phase List.mem_cons_self)
      exact ih fun other member => loose other (List.mem_cons_of_mem _ member)

variable {limit attempt : Nat} {phases : List Phase}

/-! Parts that run nothing. -/

def Idle (phases : List Phase) : Prop :=
  ∀ phase ∈ phases, phase.isRun = false

theorem Waiting.idle {result : Except Fault Bool} (waiting : Waiting limit attempt phases result) :
    Idle phases := by
  cases waiting <;> simp [Idle, Phase.isRun]

theorem Recovery.idle {fault : Fault} {result : Except Fault Unit}
    (recovery : Recovery limit attempt fault phases result) : Idle phases := by
  cases recovery with
  | refused => simp [Idle]
  | recovered kind waiting =>
      intro phase member
      rcases List.mem_cons.1 member with rfl | member
      · rfl
      · exact waiting.idle phase member

theorem Idle.append {more : List Phase} (first : Idle phases) (second : Idle more) :
    Idle (phases ++ more) := by
  intro phase member
  rcases List.mem_append.1 member with member | member
  · exact first phase member
  · exact second phase member

theorem Idle.loose (idle : Idle phases) : ∀ phase ∈ phases, phase.closes = false := by
  intro phase member
  have here := idle phase member
  cases phase with
  | run => cases here
  | _ => rfl

theorem Idle.closed (idle : Idle phases) : Closed phases := by
  rw [← List.append_nil phases]
  exact closed_append idle.loose trivial

theorem Idle.ordered (idle : Idle phases) (seen : List Phase) : Ordered seen phases := by
  induction phases generalizing seen with
  | nil => trivial
  | cons phase rest ih =>
      refine ⟨?_, ih (fun other member => idle other (List.mem_cons_of_mem _ member)) _⟩
      have here := idle phase List.mem_cons_self
      cases phase with
      | run => cases here
      | _ => trivial

theorem Idle.countP_eq_zero {counts : Phase → Bool} (idle : Idle phases)
    (runs : ∀ phase, counts phase = true → phase.isRun = true) : phases.countP counts = 0 := by
  apply List.countP_eq_zero.2
  intro phase member counted
  have here := idle phase member
  rw [runs phase counted] at here
  cases here

/-! Trials. -/

variable {tried : List Phase} {outcome : Except Fault Bool}

theorem Trial.ordered (trial : Trial tried outcome) (seen : List Phase) :
    Ordered (.check true :: seen) tried := by
  cases trial <;> simp [Ordered, Led]

theorem Trial.closed (trial : Trial tried outcome) {rest : List Phase} (idle : Idle rest) :
    Closed (tried ++ rest) := by
  cases trial with
  | unshown => exact ⟨fun _ => idle, idle.closed⟩
  | restless => exact closed_cons rfl (closed_cons rfl idle.closed)
  | outdated => exact closed_cons rfl (closed_cons rfl (closed_cons rfl idle.closed))
  | undone | done =>
      exact closed_cons rfl (closed_cons rfl (closed_cons rfl ⟨fun _ => idle, idle.closed⟩))

theorem closes_of_failed {mode : Mode} {progress : Progress} {fault : Fault}
    (failed : progress.result = .error fault) :
    (Phase.run mode progress).closes = fault.isConsistency := by
  cases progress with
  | ended => cases failed
  | refused own | broke own | late own =>
      cases failed
      cases mode <;> rfl

theorem Trial.loose_of_error {fault : Fault} (trial : Trial tried (.error fault))
    (kind : fault.isConsistency = false) : ∀ phase ∈ tried, phase.closes = false := by
  cases trial with
  | unshown failed => simp [closes_of_failed failed, kind]
  | restless => simp [Phase.closes]
  | undone failed =>
      refine List.forall_mem_cons.2 ⟨rfl, List.forall_mem_cons.2 ⟨rfl, ?_⟩⟩
      exact List.forall_mem_cons.2 ⟨rfl, by simp [closes_of_failed failed, kind]⟩

theorem Trial.loose_of_false (trial : Trial tried (.ok false)) :
    ∀ phase ∈ tried, phase.closes = false := by
  cases trial
  simp [Phase.closes]

theorem Trial.counts (trial : Trial tried outcome) :
    tried.countP Phase.shows ≤ 1 ∧ tried.countP Phase.commits ≤ 1 ∧
      tried.countP Phase.waits = 0 ∧ tried.length ≤ 4 := by
  cases trial <;> simp [List.countP_cons, Phase.shows, Phase.commits, Phase.waits]

/-! Rounds. -/

variable {next : Next} {result : Except Fault Unit}

theorem Round.ordered (round : Round limit attempt phases next) (seen : List Phase) :
    Ordered seen phases := by
  have tried {tried rest : List Phase} {outcome : Except Fault Bool} (trial : Trial tried outcome)
      (idle : Idle rest) : Ordered seen (.check true :: (tried ++ rest)) :=
    ⟨trivial, (ordered_append _ _ _).2 ⟨trial.ordered seen, idle.ordered _⟩⟩
  cases round with
  | spent => trivial
  | unready _ waiting => exact ⟨trivial, waiting.idle.ordered _⟩
  | failed _ trial recovery => exact tried trial recovery.idle
  | outdated _ trial waiting => exact tried trial waiting.idle
  | stranded _ trial waiting recovery => exact tried trial (waiting.idle.append recovery.idle)
  | done _ trial => exact ⟨trivial, trial.ordered seen⟩
  | rested _ trial => exact tried trial (by simp [Idle, Phase.isRun])

theorem Round.closed (round : Round limit attempt phases next) : Closed phases := by
  cases round with
  | spent => trivial
  | unready _ waiting => exact closed_cons rfl waiting.idle.closed
  | failed _ trial recovery => exact closed_cons rfl (trial.closed recovery.idle)
  | outdated _ trial waiting => exact closed_cons rfl (trial.closed waiting.idle)
  | stranded _ trial waiting recovery =>
      exact closed_cons rfl (trial.closed (waiting.idle.append recovery.idle))
  | @done tried _ trial =>
      rw [← List.append_nil tried]
      exact closed_cons rfl (trial.closed (by simp [Idle]))
  | rested _ trial => exact closed_cons rfl (trial.closed (by simp [Idle, Phase.isRun]))

theorem Round.loose {later : Nat} (round : Round limit attempt phases (.again later)) :
    ∀ phase ∈ phases, phase.closes = false := by
  have tried {tried rest : List Phase} (loose : ∀ phase ∈ tried, phase.closes = false)
      (idle : Idle rest) : ∀ phase ∈ (.check true :: (tried ++ rest)), phase.closes = false := by
    -- the check in front of a trial is no run at all
    intro phase member
    rcases List.mem_cons.1 member with rfl | member
    · rfl
    · rcases List.mem_append.1 member with member | member
      · exact loose phase member
      · exact idle.loose phase member
  generalize ends : Next.again later = next at round
  cases round with
  | spent | done | rested => cases ends
  | unready _ waiting =>
      intro phase member
      rcases List.mem_cons.1 member with rfl | member
      · rfl
      · exact waiting.idle.loose phase member
  | failed _ trial recovery =>
      cases recovery with
      | refused => cases ends
      | recovered kind waiting =>
          exact tried (trial.loose_of_error kind) (Recovery.recovered kind waiting).idle
  | outdated _ trial waiting => exact tried trial.loose_of_false waiting.idle
  | stranded _ trial waiting recovery =>
      exact tried trial.loose_of_false (waiting.idle.append recovery.idle)

theorem Waiting.waits_le {result : Except Fault Bool}
    (waiting : Waiting limit attempt phases result) :
    phases.countP Phase.waits ≤ min 1 (limit - attempt) ∧ phases.length ≤ 1 := by
  cases waiting with
  | spent => simp
  | waited under | failed under =>
      simp only [List.countP_singleton, Phase.waits, ↓reduceIte, List.length_singleton]
      omega

theorem Waiting.under {fault : Fault} (waiting : Waiting limit attempt phases (.error fault)) :
    attempt < limit := by
  cases waiting with
  | failed under => exact under

theorem Recovery.waits_le {fault : Fault} (recovery : Recovery limit attempt fault phases result) :
    phases.countP Phase.waits ≤ min 1 (limit - (attempt + 1)) ∧ phases.length ≤ 2 := by
  cases recovery with
  | refused => simp
  | recovered kind waiting =>
      have bound := waiting.waits_le
      simp only [List.countP_cons, Phase.waits, Bool.false_eq_true, ↓reduceIte, List.length_cons]
      omega

theorem Idle.counts (idle : Idle phases) :
    phases.countP Phase.shows = 0 ∧ phases.countP Phase.commits = 0 := by
  constructor
  · apply idle.countP_eq_zero
    rintro (_ | ⟨_ | _, _⟩ | _ | _ | _) <;> simp [Phase.shows, Phase.isRun]
  · apply idle.countP_eq_zero
    rintro (_ | ⟨_ | _, _⟩ | _ | _ | _) <;> simp [Phase.commits, Phase.isRun]

def Next.waited (limit : Nat) : Next → Nat
  | again attempt => min attempt (limit - 1)
  | finished _ => limit - 1

theorem Next.le_waited_ofResult (limit attempt : Nat) (result : Except Fault Unit) :
    min attempt (limit - 1) ≤ (Next.ofResult attempt result).waited limit := by
  cases result with
  | ok _ => exact Nat.le_refl _
  | error _ => exact Nat.min_le_right _ _

theorem Next.le_waited_ofWait (limit attempt : Nat) (result : Except Fault Bool) :
    min attempt (limit - 1) ≤ (Next.ofWait attempt result).waited limit := by
  rcases result with _ | _ | _
  · exact Nat.min_le_right _ _
  · exact Nat.min_le_right _ _
  · exact Nat.le_refl _

/-- What a round adds to the numbers of its block. -/
structure Round.Counts (limit attempt : Nat) (phases : List Phase) (next : Next) : Prop where
  shows_le : phases.countP Phase.shows ≤ 1
  commits_le : phases.countP Phase.commits ≤ 1
  length_le : phases.length ≤ 7
  waits_le : phases.countP Phase.waits ≤ next.waited limit - attempt

theorem Round.counts_of_trial {rest : List Phase} (trial : Trial tried outcome) (idle : Idle rest)
    (short : rest.length ≤ 2 ∨ tried.length ≤ 3 ∧ rest.length ≤ 3)
    (waits : rest.countP Phase.waits ≤ next.waited limit - attempt) :
    Round.Counts limit attempt (.check true :: (tried ++ rest)) next := by
  have trials := trial.counts
  have rests := idle.counts
  constructor
  · simp only [List.countP_cons, List.countP_append, Phase.shows, Bool.false_eq_true, ↓reduceIte]
    omega
  · simp only [List.countP_cons, List.countP_append, Phase.commits, Bool.false_eq_true,
      ↓reduceIte]
    omega
  · simp only [List.length_cons, List.length_append]
    omega
  · simp only [List.countP_cons, List.countP_append, Phase.waits, Bool.false_eq_true, ↓reduceIte]
    omega

theorem Trial.length_of_false (trial : Trial tried (.ok false)) : tried.length ≤ 3 := by
  cases trial
  simp

theorem Round.counts (round : Round limit attempt phases next) :
    Round.Counts limit attempt phases next := by
  cases round with
  | spent => constructor <;> simp
  | @unready phases result may waiting =>
      have none := waiting.idle.counts
      have bound := waiting.waits_le
      have low := Next.le_waited_ofWait limit (attempt + 1) result
      constructor
      · simp only [List.countP_cons, Phase.shows, Bool.false_eq_true, ↓reduceIte]
        omega
      · simp only [List.countP_cons, Phase.commits, Bool.false_eq_true, ↓reduceIte]
        omega
      · simp only [List.length_cons]
        omega
      · simp only [List.countP_cons, Phase.waits, Bool.false_eq_true, ↓reduceIte]
        omega
  | @failed tried phases fault result may trial recovery =>
      have bound := recovery.waits_le
      have low := Next.le_waited_ofResult limit (attempt + 1) result
      exact Round.counts_of_trial trial recovery.idle (.inl bound.2) (by omega)
  | outdated may trial waiting =>
      have bound := waiting.waits_le
      have same : Next.waited limit (.again (attempt + 1)) = min (attempt + 1) (limit - 1) := rfl
      exact Round.counts_of_trial trial waiting.idle (.inl (by omega)) (by omega)
  | @stranded tried phases more fault result may trial waiting recovery =>
      -- at most two pauses, but then the trial ended before its commitment
      have first := waiting.waits_le
      have under := waiting.under
      have second := recovery.waits_le
      have low := Next.le_waited_ofResult limit (attempt + 2) result
      apply Round.counts_of_trial trial (waiting.idle.append recovery.idle)
      · rw [List.length_append]
        exact .inr ⟨trial.length_of_false, by omega⟩
      · rw [List.countP_append]
        omega
  | @done tried may trial =>
      rw [← List.append_nil tried]
      exact Round.counts_of_trial trial (by simp [Idle]) (by simp) (by simp)
  | rested may trial =>
      exact Round.counts_of_trial trial (by simp [Idle, Phase.isRun]) (by simp)
        (by simp [Phase.waits])

theorem Round.attempt_lt {later : Nat} (round : Round limit attempt phases (.again later)) :
    attempt < limit ∧ attempt < later := by
  generalize ends : Next.again later = next at round
  cases round with
  | spent | done | rested => cases ends
  | @unready _ result may _ =>
      rcases result with _ | _ | _ <;> cases ends
      omega
  | @failed _ _ _ result may _ _ | @stranded _ _ _ _ result may _ _ _ =>
      cases result <;> cases ends
      omega
  | outdated may _ _ =>
      cases ends
      omega

theorem Round.attempt_lt_of_ne_nil (round : Round limit attempt phases next)
    (some : phases ≠ []) : attempt < limit := by
  cases round with
  | spent => exact absurd rfl some
  | unready may | failed may | outdated may | stranded may | done may | rested may => exact may

/-! Blocks. -/

/-- What a round has at most so often, a block has as often for each attempt that was left. -/
theorem Rounds.countP_le {counts : Phase → Bool} {most : Nat}
    (each : ∀ {attempt phases next}, Round limit attempt phases next →
      phases.countP counts ≤ most)
    (rounds : Rounds limit attempt phases result) :
    phases.countP counts ≤ most * (limit - attempt) := by
  induction rounds with
  | @last attempt phases result round =>
      -- a round without phases adds nothing, and any other one had an attempt left
      by_cases none : phases = []
      · simp [none]
      · have may := round.attempt_lt_of_ne_nil none
        calc phases.countP counts ≤ most * 1 := by simpa using each round
          _ ≤ most * (limit - attempt) := Nat.mul_le_mul_left most (by omega)
  | @next attempt later phases more result round _ ih =>
      have grows := round.attempt_lt
      rw [List.countP_append]
      calc phases.countP counts + more.countP counts
          ≤ most * 1 + most * (limit - later) := by
            have one := each round
            omega
        _ = most * (1 + (limit - later)) := (Nat.mul_add most 1 _).symm
        _ ≤ most * (limit - attempt) := Nat.mul_le_mul_left most (by omega)

theorem Rounds.waits_le (rounds : Rounds limit attempt phases result) :
    phases.countP Phase.waits ≤ limit - 1 - attempt := by
  induction rounds with
  | last round => exact round.counts.waits_le
  | @next attempt later phases more result round _ ih =>
      have bound : phases.countP Phase.waits ≤ min later (limit - 1) - attempt :=
        round.counts.waits_le
      have grows := round.attempt_lt
      rw [List.countP_append]
      omega

theorem Rounds.ordered (rounds : Rounds limit attempt phases result) (seen : List Phase) :
    Ordered seen phases := by
  induction rounds generalizing seen with
  | last round => exact round.ordered seen
  | next round _ ih => exact (ordered_append _ _ _).2 ⟨round.ordered seen, ih _⟩

theorem Rounds.closed (rounds : Rounds limit attempt phases result) : Closed phases := by
  induction rounds with
  | last round => exact round.closed
  | next round _ ih => exact closed_append round.loose ih

/-- The laws that the phases of a block obey. -/
structure Choreography (limit : Nat) (block : List Phase) : Prop where
  shows_le : block.countP Phase.shows ≤ limit
  commits_le : block.countP Phase.commits ≤ limit
  waits_le : block.countP Phase.waits ≤ limit - 1
  length_le : block.length ≤ 7 * limit
  show_follows : ∀ {earlier progress later}, block = earlier ++ .run .preview progress :: later →
    ∃ first, earlier = first ++ [.check true]
  commit_follows : ∀ {earlier progress later}, block = earlier ++ .run .commit progress :: later →
    ∃ first, earlier = first ++ [.run .preview .ended, .rest (.ok ()), .check true]
  done_last : ∀ {earlier later}, block = earlier ++ .run .commit .ended :: later →
    ∀ phase ∈ later, phase.isRun = false

theorem Ordered.led {seen earlier later : List Phase} {phase : Phase}
    (ordered : Ordered seen (earlier ++ phase :: later)) : Led (earlier.reverse ++ seen) phase :=
  ((ordered_append _ _ _).1 ordered).2.1

theorem Closed.idle_later {earlier later : List Phase} {phase : Phase}
    (closed : Closed (earlier ++ phase :: later)) (closes : phase.closes = true) :
    ∀ other ∈ later, other.isRun = false := by
  induction earlier with
  | nil => exact closed.1 closes
  | cons first earlier ih => exact ih closed.2

theorem Rounds.choreography (rounds : Rounds limit 0 phases result) :
    Choreography limit phases where
  shows_le := by simpa using rounds.countP_le fun round => round.counts.shows_le
  commits_le := by simpa using rounds.countP_le fun round => round.counts.commits_le
  waits_le := rounds.waits_le
  length_le := by
    have bound : phases.countP (fun _ => true) ≤ 7 * (limit - 0) :=
      rounds.countP_le fun round => by simpa using round.counts.length_le
    simpa using bound
  show_follows := by
    rintro earlier progress later rfl
    obtain ⟨more, same⟩ := (rounds.ordered []).led
    refine ⟨more.reverse, ?_⟩
    rw [List.append_nil] at same
    rw [← List.reverse_reverse earlier, same, List.reverse_cons]
  commit_follows := by
    rintro earlier progress later rfl
    -- the law has the phases before this one in reverse
    obtain ⟨more, same⟩ := (rounds.ordered []).led
    refine ⟨more.reverse, ?_⟩
    rw [List.append_nil] at same
    rw [← List.reverse_reverse earlier, same]
    simp
  done_last := by
    rintro earlier later rfl
    exact rounds.closed.idle_later rfl

theorem Staged.choreography {sequence : String} {position : Nat} {steps : List Step}
    {blocks : List (List Phase)}
    (staged : Staged limit sequence position steps blocks before trace after result) :
    blocks.length = steps.length ∧ ∀ block ∈ blocks, Choreography limit block := by
  have empty : Choreography limit [] := by constructor <;> simp
  have unreached (rest : List Step) :
      ∀ block ∈ rest.map fun _ => ([] : List Phase), Choreography limit block := by
    intro block member
    obtain ⟨_, -, rfl⟩ := List.mem_map.1 member
    exact empty
  induction staged with
  | done => simp
  | unprepared _ => exact ⟨by simp, List.forall_mem_cons.2 ⟨empty, unreached _⟩⟩
  | unneeded _ _ ih => exact ⟨by simp [ih.1], List.forall_mem_cons.2 ⟨empty, ih.2⟩⟩
  | attempted _ _ rounds _ ih =>
      exact ⟨by simp [ih.1], List.forall_mem_cons.2 ⟨rounds.choreography, ih.2⟩⟩
  | failed _ _ rounds =>
      exact ⟨by simp, List.forall_mem_cons.2 ⟨rounds.choreography, unreached _⟩⟩

/-- Doing a sequence takes one block of phases for each step, in order, and every block obeys the
laws of the choreography. -/
theorem doAll_choreography {sequence : String} {position : Nat} {steps : List Step} {number : Int}
    (held : (doAll sequence position steps).Held before trace after result)
    (limited : Limited number trace) :
    ∃ blocks : List (List Phase), blocks.length = steps.length ∧
      Staged number.toNat sequence position steps blocks before trace after result ∧
      commands trace = ((steps.zip blocks).flatMap fun pair =>
        pair.2.filterMap (Phase.command? pair.1)) ∧
      ∀ block ∈ blocks, Choreography number.toNat block := by
  obtain ⟨blocks, staged⟩ := staged_of_held held limited
  have laws := staged.choreography
  exact ⟨blocks, laws.1, staged, commands_staged staged, laws.2⟩

theorem limited_of_scene {scene : Scene} {number : Int}
    (whole : scene.tuning.retryMax = .whole number)
    (known : ∀ turn ∈ trace, ∃ met, turn.reply = ((scene.answer turn.asked).run met).1) :
    Limited number trace := by
  rintro ⟨asked, reply⟩ member
  obtain ⟨met, same⟩ := known _ member
  cases asked with
  | settings =>
      have same : reply = scene.tuning := same
      subst same
      exact whole
  | _ => trivial

theorem detour_choreography :
    ∃ trace after result, (doAll "tour" 0 [detour, detour]).Held ⟨[], []⟩ trace after result ∧
      Limited 3 trace ∧ ∃ blocks : List (List Phase), blocks.length = 2 ∧
        commands trace = (([detour, detour].zip blocks).flatMap fun pair =>
          pair.2.filterMap (Phase.command? pair.1)) ∧
        ∀ block ∈ blocks, Choreography 3 block := by
  obtain ⟨trace, held, known⟩ := roadside.held (doAll "tour" 0 [detour, detour]) ⟨[], []⟩
  have limited : Limited 3 trace := limited_of_scene rfl known
  obtain ⟨blocks, size, -, told, laws⟩ := doAll_choreography held limited
  exact ⟨trace, _, _, held, limited, blocks, size, told, laws⟩

end Walkthrough.Guide
