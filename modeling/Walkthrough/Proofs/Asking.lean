import Walkthrough.Proofs.Transcript
import Walkthrough.Guide.Attempt
/-!
What the parts of a run ask for. Checks of requirements and searches for elements only look around;
an action works on the page; only the bookkeeping of a step marks controls. None of them touches
the records, which is left to the runs of the steps themselves.
-/

namespace Walkthrough

namespace PageCall

def looks : PageCall → Bool
  | query .. | text _ | directText _ | renderedText _ | attributes _ | contains .. | location => true
  | _ => false

def works : PageCall → Bool
  | click _ | highlight .. | setValue .. | formEvents .. | pushRoute _ | openExternal _ => true
  | _ => false

end PageCall

namespace Request

def inspects : Request → Bool
  | page call => call.looks
  | _ => false

def looks : Request → Bool
  | page call => call.looks
  | lookup _ | collect _ | settings => true
  | _ => false

def works : Request → Bool
  | page call => call.looks || call.works
  | request => request.looks

def acts (mode : Mode) : Request → Bool
  | page (.highlight ..) | settings => mode == .preview
  | page call => call.looks || mode == .commit && call.commits
  | _ => false

def keepsBooks : Request → Bool
  | page call => !call.works
  | request => request.looks

def spares : Request → Bool
  | move _ | setIndex .. | enterSequence _ | leaveSequence _ => false
  | _ => true

theorem looks_of_inspects (request : Request) (inspects : request.inspects = true) :
    request.looks = true := by
  cases request <;> simp_all [Request.inspects, Request.looks]

theorem acts_of_inspects (mode : Mode) (request : Request) (inspects : request.inspects = true) :
    request.acts mode = true := by
  cases request with
  | page call =>
      cases call with
      | query | text | directText | renderedText | attributes | contains | location => rfl
      | _ => cases inspects
  | _ => cases inspects

theorem works_of_acts (mode : Mode) (request : Request) (acts : request.acts mode = true) :
    request.works = true := by
  cases request with
  | page call =>
      cases call with
      | markCompleted | clearCompleted | completionEvent | settle => cases mode <;> cases acts
      | _ => rfl
  | settings => rfl
  | _ => cases acts

theorem works_of_looks (request : Request) (looks : request.looks = true) :
    request.works = true := by
  cases request <;> simp_all [Request.looks, Request.works]

theorem keepsBooks_of_looks (request : Request) (looks : request.looks = true) :
    request.keepsBooks = true := by
  cases request with
  | page call => cases call <;> simp_all [Request.looks, PageCall.looks, keepsBooks, PageCall.works]
  | _ => simp_all [Request.looks, keepsBooks]

theorem spares_of_keepsBooks (request : Request) (keeps : request.keepsBooks = true) :
    request.spares = true := by
  cases request <;> simp_all [keepsBooks, Request.looks, spares]

end Request

theorem Records.eq_of_answers {before after : Records} {asked : Request} {reply : asked.Answer}
    (spares : asked.spares = true) (answered : before.Answers asked reply after) :
    after = before := by
  cases asked with
  | states | activeSequences => exact answered.2
  | move _ | setIndex _ _ | enterSequence _ | leaveSequence _ => simp [Request.spares] at spares
  | _ => exact answered

/-- Nothing but allowed requests is ever asked, whatever the answers are. -/
def Dialogue.Asks {α : Type} (allowed : Request → Prop) : Dialogue Request.Answer α → Prop
  | .done _ => True
  | .ask asked next => allowed asked ∧ ∀ reply, (next reply).Asks allowed

theorem Dialogue.asks_bind {α β : Type} {allowed : Request → Prop}
    {dialogue : Dialogue Request.Answer α} {continuation : α → Dialogue Request.Answer β}
    (first : dialogue.Asks allowed) (second : ∀ value, (continuation value).Asks allowed) :
    (dialogue.bind continuation).Asks allowed := by
  induction dialogue with
  | done value => exact second value
  | ask asked next ih => exact ⟨first.1, fun reply => ih reply (first.2 reply)⟩

namespace Run

variable {α β : Type} {allowed : Request → Prop}

def Asks (allowed : Request → Prop) (run : Run α) : Prop :=
  Dialogue.Asks allowed (ExceptT.run run)

theorem asks_pure (value : α) : (pure value : Run α).Asks allowed := trivial

theorem asks_throw (fault : Fault) : (throw fault : Run α).Asks allowed := trivial

theorem asks_bind {run : Run α} {next : α → Run β} (first : run.Asks allowed)
    (second : ∀ value, (next value).Asks allowed) : (run >>= next).Asks allowed := by
  refine Dialogue.asks_bind first ?_
  intro result
  cases result with
  | ok value => exact second value
  | error fault => trivial

theorem asks_map {run : Run α} (change : α → β) (asks : run.Asks allowed) :
    (change <$> run).Asks allowed := by
  rw [← bind_pure_comp]
  exact asks_bind asks fun _ => asks_pure _

theorem asks_discard {run : Run α} (asks : run.Asks allowed) : (discard run).Asks allowed :=
  asks_map _ asks

theorem asks_tryCatch {run : Run α} {rescue : Fault → Run α} (first : run.Asks allowed)
    (second : ∀ fault, (rescue fault).Asks allowed) : (tryCatch run rescue).Asks allowed := by
  refine Dialogue.asks_bind first ?_
  intro result
  cases result with
  | ok value => trivial
  | error fault => exact second fault

theorem asks_ask {asked : Request} (granted : allowed asked) : (ask asked).Asks allowed :=
  ⟨granted, fun _ => trivial⟩

theorem asks_page {call : PageCall} (granted : allowed (.page call)) : (page call).Asks allowed :=
  ⟨granted, fun _ => trivial⟩

theorem asks_ofMisuse (value : Except Misuse α) : (ofMisuse value).Asks allowed := by
  cases value <;> trivial

theorem asks_outcome {run : Run α} (asks : run.Asks allowed) : (outcome run).Asks allowed :=
  Dialogue.asks_bind asks fun _ => trivial

theorem asks_mono {wider : Request → Prop} {run : Run α} (asks : run.Asks allowed)
    (included : ∀ request, allowed request → wider request) : run.Asks wider := by
  have general : ∀ dialogue : Dialogue Request.Answer (Except Fault α),
      dialogue.Asks allowed → dialogue.Asks wider := by
    intro dialogue
    induction dialogue with
    | done _ => intro _; trivial
    | ask asked next ih =>
        intro asks
        exact ⟨included asked asks.1, fun reply => ih reply (asks.2 reply)⟩
  exact general run.run asks

theorem asks_status {key : String} (looks : allowed .states) : (status key).Asks allowed :=
  asks_bind (asks_bind (asks_ask looks) fun _ => asks_pure _) fun _ => asks_pure _

theorem asks_move {move : Move} (moves : allowed (.move move)) :
    (Run.move move).Asks allowed := by
  refine asks_bind (asks_ask moves) fun reply => ?_
  split
  · exact asks_pure _
  · exact asks_throw _

theorem asks_reset {key : String} (looks : allowed .states)
    (idle : allowed (.move ⟨key, .idle, none, none⟩)) : (reset key).Asks allowed := by
  refine asks_bind (asks_bind (asks_ask looks) fun _ => asks_pure _) fun current => ?_
  split
  · exact asks_pure _
  · exact asks_move idle

theorem asks_begin {key : String} (looks : allowed .states)
    (idle : allowed (.move ⟨key, .idle, none, none⟩))
    (running : allowed (.move ⟨key, .running, none, none⟩)) : (Guide.begin key).Asks allowed := by
  refine asks_bind (asks_status looks) fun status => ?_
  dsimp only
  split
  · exact asks_bind (asks_discard (asks_reset looks idle)) fun _ => asks_discard (asks_move running)
  · exact asks_discard (asks_move running)

theorem Held.asked {run : Run α} {before after : Records} {trace : List Turn}
    {result : Except Fault α} (held : run.Held before trace after result)
    (asks : run.Asks allowed) : ∀ turn ∈ trace, allowed turn.asked := by
  unfold Held at held
  unfold Asks at asks
  generalize ExceptT.run run = dialogue at held asks
  induction held with
  | done => simp
  | ask answered rest ih =>
      intro turn member
      rcases List.mem_cons.1 member with rfl | later
      · exact asks.1
      · exact ih (asks.2 _) turn later

/-- What no allowed request changes, a run that asks nothing else leaves as it was. -/
theorem Held.unchanged {β : Type} (view : Records → β)
    (keeps : ∀ {asked : Request} {reply : asked.Answer} {before after : Records},
      allowed asked → before.Answers asked reply after → view after = view before)
    {run : Run α} {before after : Records} {trace : List Turn} {result : Except Fault α}
    (held : run.Held before trace after result) (asks : run.Asks allowed) :
    view after = view before := by
  unfold Held at held
  unfold Asks at asks
  generalize ExceptT.run run = dialogue at held asks
  induction held with
  | done => rfl
  | ask answered rest ih => exact (ih (asks.2 _)).trans (keeps asks.1 answered)

theorem Held.spared {run : Run α} {before after : Records} {trace : List Turn}
    {result : Except Fault α} (held : run.Held before trace after result)
    (asks : run.Asks (·.spares)) : after = before :=
  held.unchanged id Records.eq_of_answers asks

end Run

/-! Looking around. -/

section Looking

open Run Selector

theorem Selector.query_inspects (selector : String) (root : Option Element) :
    (query selector root).Asks (·.inspects) :=
  asks_page rfl

theorem Selector.queryGiven_inspects (given : Json) (root : Option Element) :
    (queryGiven given root).Asks (·.inspects) := by
  unfold queryGiven
  split
  · exact query_inspects _ _
  · split <;> trivial

theorem Selector.filterRun_inspects (check : Element → Run Bool)
    (checks : ∀ element, (check element).Asks (·.inspects)) (elements : List Element) :
    (filterRun check elements).Asks (·.inspects) := by
  induction elements with
  | nil => trivial
  | cons element rest ih =>
      exact asks_bind (checks element) fun _ => asks_bind ih fun _ => asks_pure _

theorem Selector.anyRun_inspects (check : Element → Run Bool)
    (checks : ∀ element, (check element).Asks (·.inspects)) (elements : List Element) :
    (anyRun check elements).Asks (·.inspects) := by
  induction elements with
  | nil => trivial
  | cons element rest ih =>
      refine asks_bind (checks element) fun holds => ?_
      split
      · trivial
      · exact ih

theorem Selector.collectRun_inspects (contribution : Element → Run (List Element))
    (contributes : ∀ element, (contribution element).Asks (·.inspects)) (elements : List Element) :
    (collectRun contribution elements).Asks (·.inspects) := by
  induction elements with
  | nil => trivial
  | cons element rest ih =>
      exact asks_bind (contributes element) fun _ => asks_bind ih fun _ => asks_pure _

theorem Selector.guarded_inspects (selector : String) (mark : Resolution.Mark)
    {attempt : Run Resolution} (looks : attempt.Asks (·.inspects)) :
    (guarded selector mark attempt).Asks (·.inspects) :=
  asks_tryCatch looks fun _ => asks_pure _

theorem Selector.unlessRefused_inspects {α : Type} {attempt otherwise : Run α}
    (first : attempt.Asks (·.inspects)) (second : otherwise.Asks (·.inspects)) :
    (unlessRefused attempt otherwise).Asks (·.inspects) := by
  refine asks_tryCatch first fun fault => ?_
  split
  · exact second
  · trivial

theorem Selector.textIncludes_inspects (needle : String) (element : Element) :
    (textIncludes needle element).Asks (·.inspects) :=
  asks_bind (asks_page rfl) fun _ => asks_pure _

theorem Selector.resolveContains_inspects (selector : String) (root : Option Element) :
    (resolveContains selector root).Asks (·.inspects) := by
  unfold resolveContains
  split
  · trivial
  · refine guarded_inspects _ _ (asks_bind (query_inspects _ _) fun _ => ?_)
    exact asks_bind (filterRun_inspects _ (textIncludes_inspects _) _) fun _ => asks_pure _

theorem Selector.resolveText_inspects (selector : String) (root : Option Element) :
    (resolveText selector root).Asks (·.inspects) := by
  unfold resolveText
  split
  · trivial
  · refine guarded_inspects _ _ (asks_bind (query_inspects _ _) fun _ => ?_)
    refine asks_bind (filterRun_inspects _ (fun element => ?_) _) fun _ => asks_pure _
    exact asks_bind (asks_page rfl) fun _ => asks_pure _

theorem Selector.hasDescendant_inspects (inner : String) (container : Element) :
    (hasDescendant inner container).Asks (·.inspects) := by
  unfold hasDescendant
  split
  · split
    · exact asks_bind (query_inspects _ _) fun _ => anyRun_inspects _ (textIncludes_inspects _) _
    · refine asks_bind (resolveContains_inspects _ _) fun _ => anyRun_inspects _ (fun element => ?_) _
      exact asks_page rfl
  · exact asks_bind (query_inspects _ _) fun _ => asks_pure _

theorem Selector.qualified_inspects (parts : HasParts) (container : Element) :
    (qualified parts container).Asks (·.inspects) := by
  unfold qualified
  refine asks_bind (unlessRefused_inspects (hasDescendant_inspects _ _) (asks_pure _)) fun holds => ?_
  split
  · split
    · trivial
    · exact unlessRefused_inspects (query_inspects _ _) (asks_pure _)
  · trivial

theorem Selector.resolveHas_inspects (selector : String) (root : Option Element) :
    (resolveHas selector root).Asks (·.inspects) := by
  unfold resolveHas
  split
  · trivial
  · refine guarded_inspects _ _ (asks_bind (query_inspects _ _) fun _ => ?_)
    exact asks_bind (collectRun_inspects _ (qualified_inspects _) _) fun _ => asks_pure _

theorem Selector.pickNth_inspects (selector base after : String) (index : Nat)
    (found : List Element) : (pickNth selector base after index found).Asks (·.inspects) := by
  unfold pickNth
  split
  · trivial
  · dsimp only
    split
    · trivial
    · exact unlessRefused_inspects (asks_bind (query_inspects _ _) fun _ => asks_pure _) (asks_pure _)

theorem Selector.fallbackFor_inspects (selector : String) (root : Option Element)
    (shorter : ∀ base : String, base.length < selector.length →
      (resolve base root).Asks (·.inspects)) :
    (resolve.fallbackFor selector root).Asks (·.inspects) := by
  rw [resolve.fallbackFor]
  split
  · split
    · trivial
    · next parts found =>
        split
        · trivial
        · trivial
        · refine guarded_inspects _ _ (asks_bind ?_ fun _ => pickNth_inspects _ _ _ _ _)
          exact shorter _ (splitNth_base_length found)
  · split
    · exact resolveHas_inspects _ _
    · split
      · exact resolveContains_inspects _ _
      · split
        · exact resolveText_inspects _ _
        · trivial

theorem Selector.resolve_inspects (selector : String) (root : Option Element) :
    (resolve selector root).Asks (·.inspects) := by
  -- a fallback resolves shorter selectors only
  induction size : selector.length using Nat.strongRecOn generalizing selector with
  | ind size ih =>
      subst size
      have fallback := fallbackFor_inspects selector root fun base shorter => ih _ shorter base rfl
      rw [resolve]
      refine asks_tryCatch ?_ fun _ => asks_pure _
      refine asks_bind (unlessRefused_inspects (asks_map _ (query_inspects _ _)) (asks_pure _)) ?_
      intro found
      split
      · trivial
      · split
        · exact fallback
        · trivial
      · exact fallback

theorem buttonsLabelled_inspects (label : String) : (buttonsLabelled label).Asks (·.inspects) := by
  unfold buttonsLabelled
  split
  · trivial
  · refine asks_bind (query_inspects _ _) fun _ => filterRun_inspects _ (fun _ => ?_) _
    exact asks_bind (asks_page rfl) fun _ => asks_pure _

theorem Run.looks_of_inspects {α : Type} {run : Run α} (inspects : run.Asks (·.inspects)) :
    run.Asks (·.looks) :=
  asks_mono inspects Request.looks_of_inspects

theorem Selector.query_looks (selector : String) (root : Option Element) :
    (query selector root).Asks (·.looks) :=
  looks_of_inspects (query_inspects _ _)

theorem Selector.resolve_looks (selector : String) (root : Option Element) :
    (resolve selector root).Asks (·.looks) :=
  looks_of_inspects (resolve_inspects _ _)

theorem buttonsLabelled_looks (label : String) : (buttonsLabelled label).Asks (·.looks) :=
  looks_of_inspects (buttonsLabelled_inspects _)

theorem Control.contentRoot_looks : Control.contentRoot.Asks (·.looks) := by
  unfold Control.contentRoot
  refine asks_bind (asks_ask rfl) fun tuning => ?_
  dsimp only
  split
  · trivial
  · exact asks_bind (looks_of_inspects (queryGiven_inspects _ _)) fun _ => asks_pure _

theorem Control.groupAll_looks (groups : Control.Groups) (elements : List Element) :
    (Control.groupAll groups elements).Asks (·.looks) := by
  induction elements generalizing groups with
  | nil => trivial
  | cons element rest ih =>
      refine asks_bind (asks_page rfl) fun attributes => ?_
      split
      · exact ih _
      · exact ih _

theorem Control.groups_looks : Control.groups.Asks (·.looks) :=
  asks_bind contentRoot_looks fun _ =>
    asks_bind (query_looks _ _) fun _ => Control.groupAll_looks _ _

theorem Control.groupOf_looks (key : Option String) :
    (Control.groupOf key).Asks (·.looks) := by
  unfold Control.groupOf
  split
  · trivial
  · trivial
  · refine asks_bind Control.groups_looks fun _ => ?_
    dsimp only
    split <;> trivial

/-! Checks of requirements. -/

theorem Requirement.check_looks (requirement : Requirement) (subject : Subject) (run : Run Verdict)
    (direct : requirement.check subject = .direct run) : run.Asks (·.looks) := by
  unfold Requirement.check at direct
  cases kind : requirement.kind with
  | existsTarget =>
      simp only [kind, Check.direct.injEq] at direct
      subst direct
      unfold Requirement.targetExists
      split
      · exact asks_bind (buttonsLabelled_looks _) fun _ => asks_pure _
      · exact asks_bind (resolve_looks _ _) fun _ => asks_pure _
  | menuOpen =>
      simp only [kind, Check.direct.injEq] at direct
      subst direct
      refine asks_bind (asks_ask rfl) fun _ => ?_
      exact asks_bind (looks_of_inspects (queryGiven_inspects _ _)) fun _ => asks_pure _
  | onPage =>
      simp only [kind, Check.direct.injEq] at direct
      subst direct
      exact asks_bind (asks_page rfl) fun _ => asks_pure _
  | unknown =>
      simp only [kind, Check.direct.injEq] at direct
      subst direct
      exact asks_bind (asks_ask rfl) fun _ => asks_pure _
  | _ => simp [kind] at direct

theorem Requirement.begin_looks (requirement : Requirement) (subject : Subject) :
    (requirement.begin subject).Asks (·.looks) := by
  unfold Requirement.begin
  split
  · next run direct =>
      exact asks_bind (asks_outcome (check_looks _ _ _ direct)) fun _ => asks_pure _
  · refine asks_bind (asks_ask rfl) fun prompt => ?_
    split <;> trivial

theorem Requirement.beginAll_looks (subject : Subject) (requirements : List Requirement) :
    (Requirement.beginAll subject requirements).Asks (·.looks) := by
  induction requirements with
  | nil => trivial
  | cons requirement rest ih =>
      exact asks_bind (begin_looks _ _) fun _ => asks_bind ih fun _ => asks_pure _

theorem Requirement.finishAll_looks (begun : List Requirement.Begun) :
    (Requirement.finishAll begun).Asks (·.looks) := by
  induction begun with
  | nil => trivial
  | cons first rest ih =>
      have finished : first.finish.Asks (·.looks) := by
        cases first with
        | settled verdict => trivial
        | waiting raw asked judge seconds => exact asks_bind (asks_ask rfl) fun _ => asks_pure _
      exact asks_bind finished fun _ => asks_bind ih fun _ => asks_pure _

theorem Requirement.evaluateTimed_looks (expression : String) (subject : Subject) :
    (Requirement.evaluateTimed expression subject).Asks (·.looks) :=
  asks_bind (beginAll_looks _ _) fun _ => asks_bind (finishAll_looks _) fun _ => asks_pure _

theorem Requirement.evaluate_looks (expression : Option String) (subject : Subject) :
    (Requirement.evaluate expression subject).Asks (·.looks) :=
  asks_map _ (evaluateTimed_looks _ _)

theorem Requirement.evaluateWithin_looks (limit : Amount) (expression : String)
    (subject : Subject) :
    (Requirement.evaluateWithin limit expression subject).Asks (·.looks) := by
  refine asks_bind (asks_ofMisuse _) fun seconds => ?_
  dsimp only
  split
  · trivial
  · exact asks_bind (evaluateTimed_looks _ _) fun _ => asks_pure _

end Looking

/-! Actions and bookkeeping. -/

section Working

open Run Command

theorem Run.acts_of_inspects {α : Type} {run : Run α} (mode : Mode)
    (inspects : run.Asks (·.inspects)) : run.Asks (·.acts mode) :=
  asks_mono inspects (Request.acts_of_inspects mode)

theorem Command.found_acts (mode : Mode) (action : Action) (target : String) :
    (found action target).Asks (·.acts mode) := by
  refine asks_bind (acts_of_inspects mode (Selector.resolve_inspects _ _)) fun _ => ?_
  split <;> trivial

theorem Command.labelled_acts (mode : Mode) (target : String) :
    (labelled target).Asks (·.acts mode) := by
  refine asks_bind (acts_of_inspects mode (buttonsLabelled_inspects _)) fun _ => ?_
  split <;> trivial

theorem Command.preview_acts (element : Element) : (preview element).Asks (·.acts .preview) :=
  asks_bind (asks_ask rfl) fun _ => asks_page rfl

theorem Command.touchAll_acts (mode : Mode) (elements : List Element) :
    (touchAll mode elements).Asks (·.acts mode) := by
  induction elements with
  | nil => trivial
  | cons element rest ih =>
      refine asks_bind ?_ fun _ => ih
      cases mode with
      | preview => exact preview_acts element
      | commit => exact asks_page rfl

theorem Command.fill_acts (mode : Mode) (target value : String) :
    (fill mode target value).Asks (·.acts mode) := by
  refine asks_bind (found_acts _ _ _) fun elements => ?_
  split
  · trivial
  · cases mode with
    | preview => exact asks_bind (preview_acts _) fun _ => asks_pure _
    | commit =>
        refine asks_bind (asks_page rfl) fun tag => ?_
        exact asks_bind (asks_page rfl) fun _ => asks_pure _

theorem Command.navigate_acts (mode : Mode) (target : String) :
    (navigate mode target).Asks (·.acts mode) := by
  cases mode with
  | preview => trivial
  | commit =>
      unfold navigate
      dsimp only
      split
      · exact asks_bind (asks_page rfl) fun _ => asks_pure _
      · exact asks_bind (asks_page rfl) fun _ => asks_pure _

/-- One case for each action; a container or a multi-step is refused as a single action. -/
theorem Command.carryOut_acts (command : Command) :
    command.carryOut.Asks (·.acts command.mode) := by
  unfold carryOut
  split
  · refine asks_bind (found_acts _ _ _) fun _ => ?_
    exact asks_bind (touchAll_acts _ _) fun _ => asks_pure _
  · refine asks_bind (labelled_acts _ _) fun _ => ?_
    exact asks_bind (touchAll_acts _ _) fun _ => asks_pure _
  · exact fill_acts _ _ _
  · exact navigate_acts _ _
  · trivial
  · trivial

theorem Command.carryOut_works (command : Command) : command.carryOut.Asks (·.works) :=
  asks_mono command.carryOut_acts (Request.works_of_acts command.mode)

theorem Run.keepsBooks_of_looks {α : Type} {run : Run α} (looks : run.Asks (·.looks)) :
    run.Asks (·.keepsBooks) :=
  asks_mono looks Request.keepsBooks_of_looks

theorem Control.markCompleted_keepsBooks (key : Option String) :
    (Control.markCompleted key).Asks (·.keepsBooks) := by
  refine asks_bind (keepsBooks_of_looks (Control.groupOf_looks _)) fun controls => ?_
  refine asks_bind (asks_page rfl) fun _ => asks_bind (asks_page rfl) fun _ => ?_
  split
  · trivial
  · exact asks_bind (asks_page rfl) fun _ => asks_pure _

theorem Control.clearCompleted_keepsBooks (key : String) :
    (Control.clearCompleted key).Asks (·.keepsBooks) := by
  refine asks_bind (keepsBooks_of_looks Control.groups_looks) fun _ => ?_
  dsimp only
  split
  · exact asks_bind (asks_page rfl) fun _ => asks_pure _
  · trivial

end Working

/-! Checks never fail, whatever goes wrong in them. -/

namespace Run

variable {α β : Type}

def Returns (run : Run α) : Prop :=
  ∀ ⦃before trace after result⦄, run.Held before trace after result → ∃ value, result = .ok value

theorem returns_pure (value : α) : (pure value : Run α).Returns := by
  intro before trace after result held
  obtain ⟨-, -, rfl⟩ := held_pure.1 held
  exact ⟨value, rfl⟩

theorem returns_bind {run : Run α} {next : α → Run β} (first : run.Returns)
    (second : ∀ value, (next value).Returns) : (run >>= next).Returns := by
  intro before trace after result held
  rcases held_bind.1 held with ⟨value, _, _, _, -, rest, -⟩ | ⟨fault, failed, rfl⟩
  · exact second value rest
  · obtain ⟨value, same⟩ := first failed
    cases same

theorem returns_map {run : Run α} (change : α → β) (first : run.Returns) :
    (change <$> run).Returns := by
  rw [← bind_pure_comp]
  exact returns_bind first fun _ => returns_pure _

theorem returns_ask (asked : Request) : (ask asked).Returns := by
  intro before trace after result held
  obtain ⟨reply, -, -, rfl⟩ := held_ask.1 held
  exact ⟨reply, rfl⟩

theorem returns_outcome (run : Run α) : (outcome run).Returns := by
  intro before trace after result held
  obtain ⟨inner, -, rfl⟩ := held_outcome.1 held
  exact ⟨inner, rfl⟩

end Run

namespace Requirement

open Run

theorem begin_returns (requirement : Requirement) (subject : Subject) :
    (requirement.begin subject).Returns := by
  unfold Requirement.begin
  split
  · exact returns_bind (returns_outcome _) fun _ => returns_pure _
  · refine returns_bind (returns_ask _) fun prompt => ?_
    split <;> exact returns_pure _

theorem beginAll_returns (subject : Subject) (requirements : List Requirement) :
    (beginAll subject requirements).Returns := by
  induction requirements with
  | nil => exact returns_pure _
  | cons requirement rest ih =>
      exact returns_bind (begin_returns _ _) fun _ => returns_bind ih fun _ => returns_pure _

theorem finishAll_returns (begun : List Begun) : (finishAll begun).Returns := by
  induction begun with
  | nil => exact returns_pure _
  | cons first rest ih =>
      have finished : first.finish.Returns := by
        cases first with
        | settled verdict => exact returns_pure _
        | waiting raw asked judge seconds =>
            exact returns_bind (returns_ask _) fun _ => returns_pure _
      exact returns_bind finished fun _ => returns_bind ih fun _ => returns_pure _

theorem evaluateTimed_returns (expression : String) (subject : Subject) :
    (evaluateTimed expression subject).Returns :=
  returns_bind (beginAll_returns _ _) fun _ => returns_bind (finishAll_returns _) fun _ =>
    returns_pure _

theorem evaluate_returns (expression : Option String) (subject : Subject) :
    (evaluate expression subject).Returns :=
  returns_map _ (evaluateTimed_returns _ _)

end Requirement

end Walkthrough
