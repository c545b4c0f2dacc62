import Walkthrough.Proofs.Choreography
/-!
How often a step of a sequence is committed. An action that was carried out is carried out again
by the attempts exactly if the bookkeeping after it failed, by anything but a broken grouping of
the controls. For every such failure the page has failed a call that came after the action, or a
setting was no selector.
-/

namespace Walkthrough.Guide

open Run

variable {α β : Type} {step : Step} {before after : Records} {trace : List Turn}

/-! Blame. -/

/-- What a failure of the bookkeeping comes from: there is no group of controls, a call of the page
failed, or a value was used as something that it is not. -/
def Blamed (trace : List Turn) (fault : Fault) : Prop :=
  fault.isConsistency = true ∨ (∃ call, (⟨.page call, .error fault⟩ : Turn) ∈ trace) ∨
    ∃ cause, fault = .misuse cause

theorem Blamed.mono {fault : Fault} {longer : List Turn} (blamed : Blamed trace fault)
    (part : trace ⊆ longer) : Blamed longer fault := by
  rcases blamed with kind | ⟨call, member⟩ | misuse
  · exact .inl kind
  · exact .inr (.inl ⟨call, part member⟩)
  · exact .inr (.inr misuse)

def Blames (run : Run α) : Prop :=
  ∀ ⦃before trace after fault⦄, run.Held before trace after (.error fault) → Blamed trace fault

theorem blames_pure (value : α) : Blames (pure value : Run α) := by
  intro before trace after fault held
  obtain ⟨-, -, same⟩ := held_pure.1 held
  cases same

theorem blames_throw {fault : Fault}
    (kind : fault.isConsistency = true ∨ ∃ cause, fault = .misuse cause) :
    Blames (throw fault : Run α) := by
  intro before trace after other held
  obtain ⟨-, -, same⟩ := held_throw.1 held
  cases same
  rcases kind with kind | misuse
  · exact .inl kind
  · exact .inr (.inr misuse)

theorem blames_bind {run : Run α} {next : α → Run β} (first : Blames run)
    (second : ∀ value, Blames (next value)) : Blames (run >>= next) := by
  intro before trace after fault held
  rcases held_bind.1 held with ⟨value, opening, _, _, -, rest, rfl⟩ | ⟨other, failed, same⟩
  · exact (second value rest).mono (List.subset_append_right _ _)
  · cases same
    exact first failed

theorem blames_map {run : Run α} (change : α → β) (blames : Blames run) :
    Blames (change <$> run) := by
  rw [← bind_pure_comp]
  exact blames_bind blames fun _ => blames_pure _

theorem blames_ask (asked : Request) : Blames (ask asked) := by
  intro before trace after fault held
  obtain ⟨_, -, -, same⟩ := held_ask.1 held
  cases same

theorem blames_page (call : PageCall) : Blames (Run.page call) := by
  intro before trace after fault held
  obtain ⟨rfl, -⟩ := held_page.1 held
  exact .inr (.inl ⟨call, List.mem_cons_self⟩)

theorem blames_contentRoot : Blames Control.contentRoot := by
  apply blames_bind (blames_ask _)
  intro tuning
  dsimp only
  split
  · exact blames_pure _
  · next truthy =>
      apply blames_bind _ fun _ => blames_pure _
      unfold Selector.queryGiven
      split
      · exact blames_page _
      · split
        · exact blames_throw (.inr ⟨_, rfl⟩)
        -- the selector was found to be true before, so this branch is not taken
        · next falsy => simp_all

theorem blames_groupAll (groups : Control.Groups) (elements : List Element) :
    Blames (Control.groupAll groups elements) := by
  induction elements generalizing groups with
  | nil => exact blames_pure _
  | cons element rest ih =>
      apply blames_bind (blames_page _)
      intro attributes
      split
      · exact ih _
      · exact ih _

theorem blames_groupOf (key : Option String) : Blames (Control.groupOf key) := by
  unfold Control.groupOf
  split
  · exact blames_throw (.inl rfl)
  · exact blames_throw (.inl rfl)
  · apply blames_bind
    · apply blames_bind blames_contentRoot
      intro root
      exact blames_bind (blames_page _) fun _ => blames_groupAll _ _
    · intro groups
      dsimp only
      split
      · exact blames_throw (.inl rfl)
      · exact blames_pure _

theorem blames_markCompleted (key : Option String) : Blames (Control.markCompleted key) := by
  apply blames_bind (blames_groupOf _)
  intro controls
  apply blames_bind (blames_page _)
  intro _
  apply blames_bind (blames_page _)
  intro _
  split
  · exact blames_pure _
  · exact blames_bind (blames_page _) fun _ => blames_pure _

theorem blames_bookkeeping (key : String) : Blames (bookkeeping key) :=
  blames_bind (blames_page _) fun _ => blames_map _ (blames_markCompleted _)

/-! Phases that carried out the action. -/

namespace Phase

def committed : Phase → Bool
  | run .commit progress => progress.acted
  | _ => false

/-- The action was carried out, but the bookkeeping after it failed, and not for good. -/
def lapsed : Phase → Bool
  | run .commit (.late fault) => !fault.isConsistency
  | _ => false

theorem committed_cases {phase : Phase} (committed : phase.committed = true) :
    phase = .run .commit .ended ∨ ∃ fault, phase = .run .commit (.late fault) := by
  cases phase with
  | run mode progress =>
      cases mode with
      | preview => cases committed
      | commit =>
          cases progress with
          | refused | broke => cases committed
          | late fault => exact .inr ⟨fault, rfl⟩
          | ended => exact .inl rfl
  | _ => cases committed

end Phase

theorem blamed_of_enacted {fault : Fault}
    (enacted : (Phase.run .commit (.late fault)).Enacted step before trace after) :
    Blamed trace fault := by
  cases enacted with
  | run _ course =>
      cases course with
      | late _ _ books _ =>
          apply (blames_bookkeeping _ books).mono
          intro turn member
          simp [member]

theorem Enacts.enacted {phases : List Phase} {phase : Phase}
    (enacts : Enacts step phases before trace after) (member : phase ∈ phases) :
    ∃ opened part closed, phase.Enacted step opened part closed ∧ part ⊆ trace := by
  induction enacts with
  | nil => cases member
  | settings _ ih =>
      obtain ⟨opened, part, closed, enacted, included⟩ := ih member
      exact ⟨opened, part, closed, enacted, fun _ turn => List.mem_cons_of_mem _ (included turn)⟩
  | phase enacted _ ih =>
      rcases List.mem_cons.1 member with rfl | member
      · exact ⟨_, _, _, enacted, List.subset_append_left _ _⟩
      · obtain ⟨opened, part, closed, enacted, included⟩ := ih member
        exact ⟨opened, part, closed, enacted, fun _ turn => List.mem_append_right _ (included turn)⟩

/-! Counting commitments. -/

theorem exists_two_of_countP {γ : Type} {counts : γ → Bool} {list : List γ}
    (twice : 1 < list.countP counts) :
    ∃ earlier first middle second later,
      list = earlier ++ first :: (middle ++ second :: later) ∧
        counts first = true ∧ counts second = true := by
  induction list with
  | nil => simp at twice
  | cons head rest ih =>
      by_cases counted : counts head = true
      · have more : 0 < rest.countP counts := by
          simp only [List.countP_cons, counted, ↓reduceIte] at twice
          omega
        obtain ⟨second, member, holds⟩ := List.countP_pos_iff.1 more
        obtain ⟨middle, later, rfl⟩ := List.append_of_mem member
        exact ⟨[], head, middle, second, later, rfl, counted, holds⟩
      · have twice : 1 < rest.countP counts := by
          simpa [List.countP_cons, counted] using twice
        obtain ⟨earlier, first, middle, second, later, rfl, holds, again⟩ := ih twice
        exact ⟨head :: earlier, first, middle, second, later, rfl, holds, again⟩

theorem lapsed_of_closed {earlier later : List Phase} {phase other : Phase}
    (closed : Closed (earlier ++ phase :: later)) (committed : phase.committed = true)
    (member : other ∈ later) (runs : other.isRun = true) : phase.lapsed = true := by
  -- a phase that closes the block leaves only idle ones behind it
  have loose : phase.closes = false := by
    cases closes : phase.closes with
    | false => rfl
    | true =>
        have idle := closed.idle_later closes other member
        rw [runs] at idle
        cases idle
  rcases Phase.committed_cases committed with rfl | ⟨fault, rfl⟩
  · cases loose
  · simpa [Phase.lapsed, Phase.closes] using loose

theorem isRun_of_committed {phase : Phase} (committed : phase.committed = true) :
    phase.isRun = true := by
  rcases Phase.committed_cases committed with rfl | ⟨fault, rfl⟩
  · rfl
  · rfl

theorem committed_of_lapsed {phase : Phase} (lapsed : phase.lapsed = true) :
    phase.committed = true := by
  cases phase with
  | run mode progress =>
      cases mode with
      | preview => cases lapsed
      | commit =>
          cases progress with
          | late => rfl
          | refused | broke | ended => cases lapsed
  | _ => cases lapsed

/-- A block has more than one commitment exactly if one that lapsed is followed by another. -/
theorem Closed.committed_twice_iff {block : List Phase} (closed : Closed block) :
    1 < block.countP Phase.committed ↔
      ∃ earlier first middle second later,
        block = earlier ++ first :: (middle ++ second :: later) ∧
          first.lapsed = true ∧ second.committed = true := by
  constructor
  · intro twice
    obtain ⟨earlier, first, middle, second, later, rfl, committed, again⟩ :=
      exists_two_of_countP twice
    have member : second ∈ middle ++ second :: later := by simp
    exact ⟨earlier, first, middle, second, later, rfl,
      lapsed_of_closed closed committed member (isRun_of_committed again), again⟩
  · rintro ⟨earlier, first, middle, second, later, rfl, lapsed, again⟩
    simp only [List.countP_append, List.countP_cons, committed_of_lapsed lapsed, again, ↓reduceIte]
    omega

theorem Closed.committed_le {block : List Phase} (closed : Closed block) :
    block.countP Phase.committed ≤ 1 + block.countP Phase.lapsed := by
  induction block with
  | nil => simp
  | cons phase rest ih =>
      have bound := ih closed.2
      simp only [List.countP_cons]
      by_cases committed : phase.committed = true
      · -- a commitment that another one follows has lapsed
        by_cases more : 0 < rest.countP Phase.committed
        · obtain ⟨other, member, again⟩ := List.countP_pos_iff.1 more
          have here : Closed ([] ++ phase :: rest) := closed
          have lapsed := lapsed_of_closed here committed member (isRun_of_committed again)
          simp only [committed, lapsed, ↓reduceIte]
          omega
        · simp only [committed, ↓reduceIte]
          omega
      · simp only [committed, Bool.false_eq_true, ↓reduceIte]
        omega

/-! The steps of a sequence within its run. -/

def Contained (step : Step) (steps : List Step) : Prop :=
  steps = [] ∨ ∃ inside before trace after,
    (children inside step.target).Held before trace after (.ok steps)

def Walked (step : Step) (trace : List Turn) : Prop :=
  ∃ steps opening middle closing before after result,
    trace = opening ++ (middle ++ closing) ∧ commands opening = [] ∧ commands closing = [] ∧
      (doAll step.key 0 steps).Held before middle after result ∧ Contained step steps

def Walks (step : Step) (run : Run α) : Prop :=
  ∀ ⦃before trace after result⦄, run.Held before trace after result → Walked step trace

theorem walked_of_mute (mute : commands trace = []) : Walked step trace :=
  ⟨[], trace, [], [], ⟨[], []⟩, ⟨[], []⟩, .ok (), by simp, mute, rfl, held_pure.2 ⟨rfl, rfl, rfl⟩,
    .inl rfl⟩

theorem Walked.prepend {first : List Turn} (walked : Walked step trace)
    (mute : commands first = []) : Walked step (first ++ trace) := by
  obtain ⟨steps, opening, middle, closing, before, after, result, rfl, opens, closes, rest⟩ := walked
  refine ⟨steps, first ++ opening, middle, closing, before, after, result, ?_, ?_, closes, rest⟩
  · rw [List.append_assoc]
  · rw [commands_append, mute, opens]
    rfl

theorem Walked.append {last : List Turn} (walked : Walked step trace)
    (mute : commands last = []) : Walked step (trace ++ last) := by
  obtain ⟨steps, opening, middle, closing, before, after, result, rfl, opens, closes, rest⟩ := walked
  refine ⟨steps, opening, middle, closing ++ last, before, after, result, ?_, opens, ?_, rest⟩
  · simp only [List.append_assoc]
  · rw [commands_append, mute, closes]
    rfl

theorem walks_of_mute {run : Run α} (asks : run.Asks (·.mute)) : Walks step run :=
  fun _ _ _ _ held => walked_of_mute (commands_of_mute held asks)

theorem walks_after {run : Run α} {next : α → Run β} (first : run.Asks (·.mute))
    (second : ∀ value, Walks step (next value)) : Walks step (run >>= next) := by
  intro before trace after result held
  rcases held_bind.1 held with ⟨value, _, _, _, head, rest, rfl⟩ | ⟨fault, failed, -⟩
  · exact (second value rest).prepend (commands_of_mute head first)
  · exact walked_of_mute (commands_of_mute failed first)

theorem walks_before {run : Run α} {next : α → Run β} (first : Walks step run)
    (second : ∀ value, (next value).Asks (·.mute)) : Walks step (run >>= next) := by
  intro before trace after result held
  rcases held_bind.1 held with ⟨value, _, _, _, head, rest, rfl⟩ | ⟨fault, failed, -⟩
  · exact (first head).append (commands_of_mute rest (second value))
  · exact first failed

theorem walks_outcome {run : Run α} (walks : Walks step run) : Walks step (Run.outcome run) := by
  intro before trace after result held
  obtain ⟨inner, held, -⟩ := held_outcome.1 held
  exact walks held

theorem mark_mute (key : Option String) : (Control.markCompleted key).Asks (·.mute) :=
  asks_mono (Control.markCompleted_keepsBooks key) Request.mute_of_keepsBooks

theorem looks_mute {run : Run α} (looks : run.Asks (·.looks)) : run.Asks (·.mute) :=
  asks_mono looks Request.mute_of_looks

theorem walks_walk (step : Step) : Walks step (walk step false) := by
  apply walks_after (looks_mute (container_looks _))
  intro inside before trace after result held
  rcases held_bind.1 held with ⟨steps, _, _, _, found, rest, rfl⟩ | ⟨fault, failed, -⟩
  · apply Walked.prepend _ (commands_of_mute found (looks_mute (children_looks _ _)))
    -- the steps that were found are the ones done, so they are named before the rest of the walk
    have doing : Walks step (doAll step.key 0 steps >>= fun _ =>
        discard (Control.markCompleted (some step.key))) := by
      apply walks_before _ fun _ => asks_discard (mark_mute _)
      intro before trace after result held
      exact ⟨steps, [], trace, [], before, after, result, by simp, rfl, rfl, held,
        .inr ⟨inside, _, _, _, found⟩⟩
    exact doing rest
  · exact walked_of_mute (commands_of_mute failed (looks_mute (children_looks _ _)))

theorem walks_failing {key : String} {run : Run α} (walks : Walks step run) :
    Walks step (failing key run) := by
  intro before trace after result held
  rcases held_failing held with ⟨_, walked, -⟩ | ⟨_, _, _, _, failed, -, rfl, -⟩
  · exact walks walked
  · exact (walks failed).append rfl

theorem walks_leaving {selector : String} {run : Run α} (walks : Walks step run) :
    Walks step (leaving selector run) := by
  apply walks_before (walks_outcome walks)
  intro result
  refine asks_bind (asks_ask rfl) fun _ => ?_
  split
  · exact asks_pure _
  · exact asks_throw _

theorem moveTo_mute (key : String) (status : Status) : (Run.moveTo key status).Asks (·.mute) := by
  refine asks_discard (asks_bind (asks_ask rfl) fun reply => ?_)
  split
  · exact asks_pure _
  · exact asks_throw _

theorem walks_enclosed (step : Step) : Walks step (enclosed step false) := by
  apply walks_after (asks_mono (begin_quietly _) fun _ => mute_of_quietly)
  intro _
  apply walks_before (walks_failing (walks_walk step))
  intro _
  exact moveTo_mute _ _

theorem walks_runSequence (step : Step) : Walks step (runSequence step false) := by
  refine walks_after (asks_ask rfl) fun active => ?_
  split
  · exact walks_of_mute (asks_pure _)
  · have inside : Walks step (leaving step.target (enclosed step false)) :=
      walks_leaving (walks_enclosed step)
    exact walks_after (asks_ask rfl) fun _ => walks_before inside fun _ => asks_pure _

/-- The blocks come from rounds, and their phases are enacted within the trace. -/
def Told (trace : List Turn) (block : List Phase) : Prop :=
  Closed block ∧ ∀ phase ∈ block, ∃ step opened part closed,
    phase.Enacted step opened part closed ∧ part ⊆ trace

theorem Told.mono {block : List Phase} {longer : List Turn} (told : Told trace block)
    (part : trace ⊆ longer) : Told longer block := by
  refine ⟨told.1, ?_⟩
  intro phase member
  obtain ⟨step, opened, inner, closed, enacted, included⟩ := told.2 phase member
  exact ⟨step, opened, inner, closed, enacted, List.Subset.trans included part⟩

theorem told_of_enacts {limit : Nat} {block : List Phase} {result : Except Fault Unit}
    (enacts : Enacts step block before trace after) (rounds : Rounds limit 0 block result) :
    Told trace block := by
  refine ⟨rounds.closed, ?_⟩
  intro phase member
  obtain ⟨opened, part, closed, enacted, included⟩ := enacts.enacted member
  exact ⟨step, opened, part, closed, enacted, included⟩

theorem Staged.told {limit position : Nat} {sequence : String} {steps : List Step}
    {blocks : List (List Phase)} {result : Except Fault Unit}
    (staged : Staged limit sequence position steps blocks before trace after result) :
    ∀ block ∈ blocks, Told trace block := by
  have empty (trace : List Turn) : Told trace [] := ⟨trivial, by simp⟩
  have unreached (trace : List Turn) (rest : List Step) :
      ∀ block ∈ rest.map fun _ => ([] : List Phase), Told trace block := by
    intro block member
    obtain ⟨_, -, rfl⟩ := List.mem_map.1 member
    exact empty trace
  induction staged with
  | done => simp
  | unprepared _ => exact List.forall_mem_cons.2 ⟨empty _, unreached _ _⟩
  | unneeded _ _ ih =>
      apply List.forall_mem_cons.2 ⟨empty _, _⟩
      exact fun block member => (ih block member).mono (List.subset_append_right _ _)
  | attempted _ enacts rounds _ ih =>
      apply List.forall_mem_cons.2 ⟨(told_of_enacts enacts rounds).mono _, _⟩
      · intro turn member
        simp [member]
      · intro block member
        apply (ih block member).mono
        intro turn inside
        simp [inside]
  | failed _ enacts rounds =>
      apply List.forall_mem_cons.2 ⟨_, unreached _ _⟩
      exact (told_of_enacts enacts rounds).mono (List.subset_append_right _ _)

theorem Told.blamed {block : List Phase} {fault : Fault} (told : Told trace block)
    (member : .run .commit (.late fault) ∈ block) : Blamed trace fault := by
  obtain ⟨step, opened, part, closed, enacted, included⟩ := told.2 _ member
  exact (blamed_of_enacted enacted).mono included

/-- In a sequence that is done, the action of a step is carried out more than once exactly if the
bookkeeping after it failed and it was then carried out again. Without such a failure it is carried
out once at most, and each failure has its cause in a call after the action. -/
theorem runSequence_commitments {number : Int} {result : Except Fault String}
    (held : (runSequence step false).Held before trace after result)
    (limited : Limited number trace) :
    ∃ (steps : List Step) (blocks : List (List Phase)), Contained step steps ∧
      (∃ opening middle closing begun ended walked, trace = opening ++ (middle ++ closing) ∧
        Staged number.toNat step.key 0 steps blocks begun middle ended walked) ∧
      commands trace = ((steps.zip blocks).flatMap fun pair =>
        pair.2.filterMap (Phase.command? pair.1)) ∧
      ∀ block ∈ blocks,
        (1 < block.countP Phase.committed ↔
          ∃ earlier first between second later,
            block = earlier ++ first :: (between ++ second :: later) ∧
              first.lapsed = true ∧ second.committed = true) ∧
        block.countP Phase.committed ≤ 1 + block.countP Phase.lapsed ∧
        ∀ fault, .run .commit (.late fault) ∈ block → Blamed trace fault := by
  obtain ⟨steps, opening, middle, closing, begun, ended, walked, rfl, opens, closes, doing,
    contained⟩ := walks_runSequence step held
  obtain ⟨blocks, staged⟩ := staged_of_held doing limited.of_append.2.of_append.1
  refine ⟨steps, blocks, contained, ⟨opening, middle, closing, begun, ended, walked, rfl, staged⟩,
    ?_, ?_⟩
  · rw [commands_append, commands_append, opens, closes, commands_staged staged, List.append_nil]
    rfl
  · intro block member
    have told := staged.told block member
    have part : middle ⊆ opening ++ (middle ++ closing) := by
      intro turn inside
      simp [inside]
    refine ⟨told.1.committed_twice_iff, told.1.committed_le, ?_⟩
    intro fault late
    exact (told.blamed late).mono part

def detours : Step :=
  { detour with action := .sequence, target := "#detours", identity := .ofSection "detours" }

def restless : Scene where
  page
    | .settle => .error (.page "gone")
    | call => roadside.page call
  tuning := Scene.unhurried 3

theorem detours_commitments :
    ∃ trace after result, (runSequence detours false).Held ⟨[], []⟩ trace after result ∧
      Limited 3 trace ∧ ∃ (steps : List Step) (blocks : List (List Phase)),
        commands trace = ((steps.zip blocks).flatMap fun pair =>
          pair.2.filterMap (Phase.command? pair.1)) ∧
        ∀ block ∈ blocks, block.countP Phase.committed ≤ 1 + block.countP Phase.lapsed := by
  obtain ⟨trace, held, known⟩ := restless.held (runSequence detours false) ⟨[], []⟩
  have limited : Limited 3 trace := limited_of_scene rfl known
  obtain ⟨steps, blocks, -, -, told, laws⟩ := runSequence_commitments held limited
  exact ⟨trace, _, _, held, limited, steps, blocks, told, fun block member => (laws block member).2.1⟩

end Walkthrough.Guide
