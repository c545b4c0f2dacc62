import Walkthrough.Service.Response
import Walkthrough.Proofs.Escapes
import Walkthrough.Proofs.Inspection
/-!
Which requests end in an incident of the service, in surroundings in which nothing fails. Requests
that cannot be understood should be refused. So they are, but for a multi-step that breaks a rule of
its model and for requirements that are no text; and a multi-step may have to wait longer than can
be expressed.
Main statement: `Service.refused_unless_broken`.
-/

namespace Walkthrough

variable {α β : Type} {config : Config} {allowed : Fault → Prop}

/-! Surroundings in which nothing fails. -/

/-- The settings are those that were loaded, no pause fails, and a call of the page fails only where
a selector is refused that is not one of the guide's own. -/
structure Reliable (config : Config) (trace : List Turn) : Prop where
  tuned : ∀ tuning, (⟨.settings, tuning⟩ : Turn) ∈ trace → tuning = .ofConfig config
  served : ∀ call fault, (⟨.page call, .error fault⟩ : Turn) ∈ trace →
    fault.isSelectorSyntax = true ∧ ∃ selector root, call = .query selector root ∧
      selector ≠ Control.controlSelector ∧ selector ≠ config.contentRootSelector
  rested : ∀ length fault, (⟨.pause length, .error fault⟩ : Turn) ∉ trace

theorem Reliable.mono {part trace : List Turn} (reliable : Reliable config trace)
    (within : part ⊆ trace) : Reliable config part where
  tuned tuning member := reliable.tuned tuning (within member)
  served call fault member := reliable.served call fault (within member)
  rested length fault member := reliable.rested length fault (within member)

namespace Run

/-- In reliable surroundings the run has no other failures than these. -/
def FailsOnly (config : Config) (allowed : Fault → Prop) (run : Run α) : Prop :=
  ∀ ⦃before trace after fault⦄, run.Held before trace after (.error fault) →
    Reliable config trace → allowed fault

theorem failsOnly_of_returns {run : Run α} (returns : run.Returns) :
    FailsOnly config allowed run := by
  intro before trace after fault held
  obtain ⟨_, same⟩ := returns held
  cases same

theorem failsOnly_pure (value : α) : FailsOnly config allowed (pure value) :=
  failsOnly_of_returns (returns_pure value)

theorem failsOnly_throw {fault : Fault} (may : allowed fault) :
    FailsOnly config allowed (throw fault : Run α) := by
  intro before trace after other held _
  obtain ⟨-, -, same⟩ := held_throw.1 held
  cases same
  exact may

theorem failsOnly_bind {run : Run α} {next : α → Run β} (first : FailsOnly config allowed run)
    (second : ∀ ⦃before trace after value⦄, run.Held before trace after (.ok value) →
      Reliable config trace → FailsOnly config allowed (next value)) :
    FailsOnly config allowed (run >>= next) := by
  intro before trace after fault held reliable
  rcases held_bind.1 held with ⟨value, opening, _, rest, head, tail, rfl⟩ | ⟨other, failed, same⟩
  · exact second head (reliable.mono (List.subset_append_left _ _)) tail
      (reliable.mono (List.subset_append_right _ _))
  · cases same
    exact first failed reliable

theorem failsOnly_discard {run : Run α} (first : FailsOnly config allowed run) :
    FailsOnly config allowed (discard run) := by
  intro before trace after fault held reliable
  obtain ⟨inner, inside, same⟩ := held_discard.1 held
  cases inner with
  | ok value => cases same
  | error other =>
      cases same
      exact first inside reliable

theorem failsOnly_settings_bind {next : Tuning → Run α}
    (second : FailsOnly config allowed (next (.ofConfig config))) :
    FailsOnly config allowed (settings >>= next) := by
  intro before trace after fault held reliable
  obtain ⟨tuning, rest, tail, rfl⟩ := held_settings_bind.1 held
  obtain rfl := reliable.tuned tuning List.mem_cons_self
  exact second tail (reliable.mono (List.subset_cons_self _ _))

theorem failsOnly_page {call : PageCall}
    (own : ∀ selector root, call = .query selector root →
      selector = Control.controlSelector ∨ selector = config.contentRootSelector) :
    FailsOnly config allowed (page call) := by
  intro before trace after fault held reliable
  obtain ⟨rfl, -⟩ := held_page.1 held
  obtain ⟨-, selector, root, same, other, different⟩ := reliable.served _ _ List.mem_cons_self
  rcases own selector root same with rfl | rfl
  · exact absurd rfl other
  · exact absurd rfl different

end Run

open Run

/-! The controls. -/

namespace Control

theorem contentRoot_failsOnly : FailsOnly config allowed contentRoot := by
  refine failsOnly_settings_bind ?_
  dsimp only [Tuning.ofConfig]
  split
  · exact failsOnly_pure _
  · refine failsOnly_bind (failsOnly_page ?_) fun _ _ _ _ _ _ => failsOnly_pure _
    rintro _ _ ⟨⟩
    exact .inr rfl

theorem groupAll_failsOnly (groups : Groups) (elements : List Element) :
    FailsOnly config allowed (groupAll groups elements) := by
  induction elements generalizing groups with
  | nil => exact failsOnly_pure _
  | cons element rest ih =>
      refine failsOnly_bind (failsOnly_page (by rintro _ _ ⟨⟩)) fun _ _ _ attributes _ _ => ?_
      split
      · exact ih _
      · exact ih _

theorem markCompleted_failsOnly (key : Option String) :
    FailsOnly config (fun fault => fault.isConsistency = true) (markCompleted key) := by
  have grouped : FailsOnly config (fun fault => fault.isConsistency = true) (groupOf key) := by
    unfold groupOf
    split
    · exact failsOnly_throw rfl
    · exact failsOnly_throw rfl
    · refine failsOnly_bind ?_ fun _ _ _ all _ _ => ?_
      · refine failsOnly_bind contentRoot_failsOnly fun _ _ _ root _ _ => ?_
        refine failsOnly_bind (failsOnly_page ?_) fun _ _ _ _ _ _ => groupAll_failsOnly _ _
        rintro _ _ ⟨⟩
        exact .inl rfl
      · dsimp only
        split
        · exact failsOnly_throw rfl
        · exact failsOnly_pure _
  refine failsOnly_bind grouped fun _ _ _ controls _ _ => ?_
  refine failsOnly_bind (failsOnly_page (by rintro _ _ ⟨⟩)) fun _ _ _ _ _ _ => ?_
  refine failsOnly_bind (failsOnly_page (by rintro _ _ ⟨⟩)) fun _ _ _ _ _ _ => ?_
  split
  · exact failsOnly_pure _
  · exact failsOnly_bind (failsOnly_page (by rintro _ _ ⟨⟩)) fun _ _ _ _ _ _ => failsOnly_pure _

end Control

/-! Pauses that are too long. -/

/-- A number of milliseconds cannot be expressed as a pause, for this cause. -/
def Overlong (cause : Misuse) : Prop :=
  ∃ number : Int, (Amount.whole number).milliseconds = .error cause

def WaitsTooLong (fault : Fault) : Prop :=
  ∀ cause, fault = .misuse cause → Overlong cause

theorem waitsTooLong_guide (error : GuideError) : WaitsTooLong (.guide error) := by
  rintro cause ⟨⟩

theorem overlong_of_thousandth {number : Int} {cause : Misuse}
    (failed : (Amount.whole number).thousandth = .error cause) : Overlong cause :=
  ⟨number, by rw [Amount.milliseconds, failed]; rfl⟩

namespace Run

theorem failsOnly_ofMisuse {value : Except Misuse α}
    (may : ∀ cause, value = .error cause → allowed (.misuse cause)) :
    FailsOnly config allowed (ofMisuse value) := by
  cases value with
  | ok value => exact failsOnly_pure value
  | error cause => exact failsOnly_throw (may cause rfl)

theorem failsOnly_move (move : Move) : FailsOnly config WaitsTooLong (Run.move move) := by
  refine failsOnly_bind (failsOnly_of_returns (returns_ask _)) fun _ _ _ reply _ _ => ?_
  split
  · exact failsOnly_pure _
  · exact failsOnly_throw (waitsTooLong_guide _)

theorem failsOnly_pause (number : Int) :
    FailsOnly config WaitsTooLong (Run.pause (.whole number)) := by
  refine failsOnly_bind (failsOnly_of_returns (returns_pure _)) fun _ _ _ positive _ _ => ?_
  split
  · refine failsOnly_bind (failsOnly_ofMisuse ?_) fun _ _ _ length _ _ => ?_
    · rintro cause failed _ ⟨⟩
      exact ⟨number, failed⟩
    · intro before trace after fault held reliable
      obtain ⟨reply, _, _, -, rest, rfl⟩ := Dialogue.held_ask_iff.1 held
      obtain ⟨rfl, -, rfl⟩ := Dialogue.held_done_iff.1 rest
      exact absurd List.mem_cons_self (reliable.rested length fault)
  · exact failsOnly_pure _

end Run

namespace Guide

theorem begin_failsOnly (key : String) : FailsOnly config WaitsTooLong (begin key) := by
  have status : (Run.status key).Returns :=
    returns_bind (returns_bind (returns_ask _) fun _ => returns_pure _) fun _ => returns_pure _
  have moved : FailsOnly config WaitsTooLong (Run.moveTo key .running) :=
    failsOnly_discard (failsOnly_move _)
  have reset : FailsOnly config WaitsTooLong (Run.reset key) := by
    refine failsOnly_bind (failsOnly_of_returns ?_) fun _ _ _ state _ _ => ?_
    · exact returns_bind (returns_ask _) fun _ => returns_pure _
    · split
      · exact failsOnly_pure _
      · exact failsOnly_move _
  refine failsOnly_bind (failsOnly_of_returns status) fun _ _ _ status _ _ => ?_
  split
  · exact failsOnly_bind (failsOnly_discard reset) fun _ _ _ _ _ _ => moved
  · exact moved

theorem obstacle_failsOnly (inner : InnerAction) (index : Nat) :
    FailsOnly config WaitsTooLong (obstacle inner index) := by
  unfold obstacle
  split
  · exact failsOnly_pure _
  · exact failsOnly_pure _
  · refine failsOnly_settings_bind ?_
    refine failsOnly_bind ?_ fun _ _ _ assessment _ _ => ?_
    · refine failsOnly_bind (failsOnly_ofMisuse ?_) fun _ _ _ seconds _ _ => ?_
      · rintro cause failed _ ⟨⟩
        exact overlong_of_thousandth failed
      · apply failsOnly_of_returns
        split
        · exact returns_pure _
        · exact returns_bind (Requirement.evaluateTimed_returns _ _) fun _ => returns_pure _
    · apply failsOnly_of_returns
      split
      · exact returns_pure _
      · split <;> exact returns_pure _

theorem runInner_failsOnly (key : String) (number : Int) (index : Nat)
    (actions : List InnerAction) :
    FailsOnly config WaitsTooLong (runInner key (.whole number) index actions) := by
  -- on the actions: whatever stops one of them is told, and only waiting can fail
  induction actions generalizing index with
  | nil => exact failsOnly_pure _
  | cons inner rest ih =>
      have failed (message : String) : FailsOnly config WaitsTooLong
          (failAt key index message >>= fun outcome => pure (some outcome)) := by
        refine failsOnly_bind ?_ fun _ _ _ _ _ _ => failsOnly_pure _
        exact failsOnly_bind (failsOnly_discard (failsOnly_move _)) fun _ _ _ _ _ _ =>
          failsOnly_pure _
      refine failsOnly_bind (failsOnly_of_returns (returns_ask _)) fun _ _ _ _ _ _ => ?_
      refine failsOnly_bind (obstacle_failsOnly inner index) fun _ _ _ against _ _ => ?_
      cases against with
      | some message => exact failed message
      | none =>
          refine failsOnly_bind (failsOnly_of_returns (returns_outcome _)) fun _ _ _ acted _ _ => ?_
          cases acted with
          | error fault => exact failed _
          | ok _ =>
              dsimp only
              split
              · exact failsOnly_bind (failsOnly_pause number) fun _ _ _ _ _ _ => ih _
              · exact ih _

theorem runActions_failsOnly (key : String) (actions : List InnerAction) (delay : Option Nat)
    (requirements : Assessment) :
    FailsOnly config WaitsTooLong (runActions key actions delay requirements) := by
  refine failsOnly_bind (failsOnly_of_returns (delayOf_returns delay)) ?_
  intro before trace after wait waits reliable
  -- the pause is a whole number, be it the step's own or that of the loaded settings
  have whole : ∃ number, wait = .whole number := by
    cases delay with
    | some own =>
        obtain ⟨-, -, rfl⟩ := held_pure_ok.1 waits
        exact ⟨own, rfl⟩
    | none =>
        obtain ⟨tuning, rest, tail, rfl⟩ := held_settings_bind.1 waits
        obtain ⟨-, -, rfl⟩ := held_pure_ok.1 tail
        obtain rfl := reliable.tuned tuning List.mem_cons_self
        exact ⟨_, rfl⟩
  obtain ⟨number, rfl⟩ := whole
  refine failsOnly_bind (begin_failsOnly key) fun _ _ _ _ _ _ => ?_
  refine failsOnly_bind (runInner_failsOnly key number 0 actions) fun _ _ _ failed _ _ => ?_
  split
  · exact failsOnly_pure _
  · refine failsOnly_bind (failsOnly_page (by rintro _ _ ⟨⟩)) fun _ _ _ _ _ _ => ?_
    exact failsOnly_bind (failsOnly_discard (failsOnly_move _)) fun _ _ _ _ _ _ =>
      failsOnly_pure _

theorem trigger_failsOnly (step : Step) (mode : Mode) :
    FailsOnly config (fun fault => fault.isConsistency = true ∨
      ∃ cause, fault = .misuse cause ∧ Overlong cause) (trigger step mode) := by
  intro before trace after fault held reliable
  obtain ⟨opening, rest, verdicts, required, inquiry, response, rfl⟩ := answered_of_trigger held
  have reliable := reliable.mono (List.subset_append_right opening rest)
  cases escape_of_respond response with
  | unmarked _ _ _ _ marking =>
      exact .inl (Control.markCompleted_failsOnly _ marking
        (reliable.mono (List.subset_append_right _ _)))
  | ungrouped _ _ _ kind => exact .inl kind
  | broken passed multiple runs =>
      -- settling does not fail here, nor does a pause; what is left is a pause that is too long
      have idle : before.status step.key ≠ .running := by
        intro running
        have free := inquiry.free_of_required.2
        rw [running] at free
        cases free
      rcases (held_runActions idle runs).2 with
        ⟨earlier, rfl⟩ | ⟨earlier, length, rfl⟩ | ⟨cause, rfl⟩
      · obtain ⟨-, _, _, ⟨⟩, -⟩ := reliable.served .settle fault (by simp)
      · exact absurd (by simp) (reliable.rested length fault)
      · exact .inr ⟨cause, rfl, runActions_failsOnly _ _ _ _ runs reliable cause rfl⟩

theorem findStep_failsOnly (id : String) :
    FailsOnly config (fun fault => (∃ error, fault = .guide error) ∨
      Service.isInvalidStep fault = true) (findStep id) := by
  refine failsOnly_bind Control.contentRoot_failsOnly fun _ _ _ root _ _ => ?_
  refine failsOnly_bind ?_ fun _ _ _ controls _ _ => ?_
  · intro before trace after fault held reliable
    obtain ⟨rfl, -⟩ := held_page.1 held
    obtain ⟨refused, -⟩ := reliable.served _ _ List.mem_cons_self
    match fault, refused with
    | .guide error, _ => exact .inl ⟨error, rfl⟩
  · cases controls with
    | nil => exact failsOnly_throw (.inl ⟨_, rfl⟩)
    | cons control others =>
        refine failsOnly_bind (failsOnly_page (by rintro _ _ ⟨⟩)) fun _ _ _ attributes _ _ => ?_
        split
        · exact failsOnly_pure _
        · exact failsOnly_throw (.inr rfl)

end Guide

/-! Responses. -/

namespace Service

variable {incident : String} {route : Route} {call : Call} {body : List (String × Json)}
  {before after : Records} {trace : List Turn}

def Response.Refuses (response : Response) : Prop :=
  (response.status = 400 ∨ response.status = 404) ∧
    ∃ fields text, response.body = .object fields ∧ Fields.lookup fields "error" = some (.text text)

def multistepFields (body : List (String × Json)) : List (String × Json) :=
  body.foldl (fun fields field => Fields.assign fields field.1 field.2)
    [("target_action", .text Action.multistep.name)]

def requirementsIn (body : List (String × Json)) : Json :=
  (Fields.lookup body "requirements").getD .null

/-- Routes at which a step is run, requirements are checked or a selector is resolved. -/
inductive Route.Works : Route → Prop where
  | trigger (id : String) : Works (.trigger id)
  | runMultistep : Works .runMultistep
  | checkRequirements : Works .checkRequirements
  | resolveSelector : Works .resolveSelector

/-- Routes at which a step is run. -/
inductive Route.Runs : Route → Prop where
  | trigger (id : String) : Runs (.trigger id)
  | runMultistep : Runs .runMultistep

/-- What the body at the route brings about, though it should be refused. -/
inductive Unforeseen : Route → List (String × Json) → Fault → Prop where
  | unserializable {body : List (String × Json)} {failure : Validation.Failure}
      {issue : Validation.Issue}
      (invalid : Step.read .multi (.object (multistepFields body)) = .error failure)
      (found : issue ∈ failure.issues) (rule : issue.defect.isRule = true) :
      Unforeseen .runMultistep body (.misuse .notSerializable)
  | unsplit {body : List (String × Json)} (truthy : (requirementsIn body).truthy = true)
      (other : ∀ text, requirementsIn body ≠ .text text) :
      Unforeseen .checkRequirements body
        (.misuse (.noMember (requirementsIn body).kindName "split"))

/-- How a request at a route can fail. The run of a step fails if its controls are not grouped as
they should be, or if it has to wait longer than can be expressed. -/
inductive Breaks (route : Route) (body : List (String × Json)) (fault : Fault) : Prop where
  | ungrouped (runs : route.Runs) (kind : fault.isConsistency = true)
  | overlong {cause : Misuse} (runs : route.Runs) (long : Overlong cause)
      (same : fault = .misuse cause)
  | unforeseen (brings : Unforeseen route body fault)

/-- How a request at a route ends. -/
inductive Ends (route : Route) (body : List (String × Json)) : Except Fault Response → Prop where
  | answered {response : Response} (fine : response.status = 200) : Ends route body (.ok response)
  | refused {response : Response} (refuses : response.Refuses) : Ends route body (.ok response)
  | broken {fault : Fault} (breaks : Breaks route body fault) : Ends route body (.error fault)

theorem refuses_refused (error : GuideError) : (refused error).Refuses :=
  ⟨.inr rfl, _, _, rfl, rfl⟩

theorem refuses_invalidStep (fault : Fault) : (invalidStep fault).Refuses :=
  ⟨.inl rfl, _, _, rfl, rfl⟩

theorem ends_of_trigger {step : Step} {mode : Mode} {result : Except Fault Response}
    (runs : route.Runs)
    (held : (Guide.trigger step mode >>= fun outcome => pure (respondWith 200 outcome.report)).Held
      before trace after result) (reliable : Reliable config trace) : Ends route body result := by
  cases result with
  | ok response =>
      obtain ⟨outcome, -, rfl⟩ := held_bind_pure_ok.1 held
      exact .answered rfl
  | error fault =>
      rcases Guide.trigger_failsOnly _ _ (held_bind_pure_error.1 held) reliable with
        kind | ⟨cause, same, long⟩
      · exact .broken (.ungrouped runs kind)
      · exact .broken (.overlong runs long same)

theorem ends_of_returns {run : Run α} {tell : α → Json} {result : Except Fault Response}
    (returns : run.Returns)
    (held : (run >>= fun value => pure ⟨200, tell value⟩).Held before trace after result) :
    Ends route body result := by
  cases result with
  | ok response =>
      obtain ⟨value, -, rfl⟩ := held_bind_pure_ok.1 held
      exact .answered rfl
  | error fault =>
      obtain ⟨_, same⟩ := returns (held_bind_pure_error.1 held)
      cases same

theorem isInvalidStep_of_get {registry : Registry} {name : Json} {fault : Fault}
    (failed : registry.get name = .error fault) : isInvalidStep fault = true := by
  unfold Registry.get at failed
  split at failed
  · cases failed
  · cases failed
    rfl

theorem isInvalidStep_of_read {registry : Registry} {fields : List (String × Json)} {fault : Fault}
    (failed : registry.read (.object fields) = .error fault) : isInvalidStep fault = true := by
  simp only [Registry.read] at failed
  split at failed
  · cases failed
    rfl
  · split at failed
    · next unknown =>
        cases failed
        exact isInvalidStep_of_get unknown
    · split at failed
      · cases failed
      · cases failed
        rfl

theorem stepOf_failsOnly (id : String) (body : List (String × Json)) :
    FailsOnly config (fun fault => (∃ error, fault = .guide error) ∨ isInvalidStep fault = true)
      (stepOf id body) := by
  unfold stepOf
  split
  · split
    · exact failsOnly_pure _
    · next failed => exact failsOnly_throw (.inr (isInvalidStep_of_read failed))
  · exact Guide.findStep_failsOnly id

theorem ends_trigger {id : String} {result : Except Fault Response}
    (held : (trigger id body).Held before trace after result) (reliable : Reliable config trace) :
    Ends (.trigger id) body result := by
  unfold trigger at held
  dsimp only at held
  split at held
  · obtain ⟨-, -, rfl⟩ := held_pure.1 held
    exact .refused ⟨.inl rfl, _, _, rfl, rfl⟩
  · obtain ⟨found, looking, middle, rest, looked, tail, rfl⟩ := held_outcome_bind.1 held
    have lasting := reliable.mono (List.subset_append_right looking rest)
    cases found with
    | ok step => exact ends_of_trigger (.trigger id) tail lasting
    | error fault =>
        have foreseen := stepOf_failsOnly id body looked
          (reliable.mono (List.subset_append_left looking rest))
        rcases foreseen with ⟨error, rfl⟩ | invalid
        · obtain ⟨-, -, rfl⟩ := held_pure.1 tail
          exact .refused (refuses_refused error)
        · cases fault with
          | guide error => cases invalid
          | _ =>
              dsimp only at tail
              rw [if_pos invalid] at tail
              obtain ⟨-, -, rfl⟩ := held_pure.1 tail
              exact .refused (refuses_invalidStep _)

theorem ends_runMultistep {result : Except Fault Response}
    (held : (runMultistep body).Held before trace after result) (reliable : Reliable config trace) :
    Ends .runMultistep body result := by
  unfold runMultistep at held
  dsimp only at held
  split at held
  · exact ends_of_trigger .runMultistep held reliable
  · next failure invalid =>
      -- the report of the issues fails if one of them is that of a rule
      split at held
      · next ruled =>
          obtain ⟨issue, found, rule⟩ := List.any_eq_true.1 ruled
          obtain ⟨-, -, rfl⟩ := held_throw.1 held
          exact .broken (.unforeseen (.unserializable invalid found rule))
      · obtain ⟨-, -, rfl⟩ := held_pure.1 held
        exact .refused ⟨.inl rfl, _, _, rfl, rfl⟩

theorem expressionOf_of_ne_text {value : Json} (other : ∀ text, value ≠ .text text) :
    expressionOf value =
      if value.truthy then .error (.misuse (.noMember value.kindName "split")) else .ok "" := by
  cases value with
  | text text => exact absurd rfl (other text)
  | _ => rfl

theorem expressionOf_error_iff {value : Json} {fault : Fault} :
    expressionOf value = .error fault ↔
      value.truthy = true ∧ (∀ text, value ≠ .text text) ∧
        fault = .misuse (.noMember value.kindName "split") := by
  by_cases other : ∀ text, value ≠ .text text
  · rw [expressionOf_of_ne_text other]
    split
    · next truthy =>
        constructor
        · rintro ⟨⟩
          exact ⟨truthy, other, rfl⟩
        · rintro ⟨-, -, rfl⟩
          rfl
    · next falsy =>
        constructor
        · rintro ⟨⟩
        · exact fun ⟨truthy, _⟩ => absurd truthy falsy
  · obtain ⟨text, rfl⟩ : ∃ text, value = .text text := by simpa using other
    simp [expressionOf]

theorem ends_checkRequirements {result : Except Fault Response}
    (held : (checkRequirements body).Held before trace after result) :
    Ends .checkRequirements body result := by
  unfold checkRequirements at held
  dsimp only at held
  split at held
  · exact ends_of_returns (Requirement.evaluate_returns _ _) held
  · next fault failed =>
      obtain ⟨-, -, rfl⟩ := held_throw.1 held
      obtain ⟨truthy, other, rfl⟩ := expressionOf_error_iff.1 failed
      exact .broken (.unforeseen (.unsplit truthy other))

theorem ends_resolveSelector {result : Except Fault Response}
    (held : (resolveSelector body).Held before trace after result) :
    Ends .resolveSelector body result := by
  unfold resolveSelector at held
  dsimp only at held
  split at held
  · obtain ⟨-, -, rfl⟩ := held_pure.1 held
    exact .refused ⟨.inl rfl, _, _, rfl, rfl⟩
  · exact ends_of_returns (Guide.resolve_returns _ _) held

theorem ends_handle {result : Except Fault Response} (works : route.Works)
    (held : (handle route body).Held before trace after result) (reliable : Reliable config trace) :
    Ends route body result := by
  cases works with
  | trigger => exact ends_trigger held reliable
  | runMultistep => exact ends_runMultistep held reliable
  | checkRequirements => exact ends_checkRequirements held
  | resolveSelector => exact ends_resolveSelector held

/-! What the body alone settles. -/

theorem runMultistep_of_invalid {failure : Validation.Failure}
    (invalid : Step.read .multi (.object (multistepFields body)) = .error failure) :
    runMultistep body =
      if failure.issues.any fun issue => issue.defect.isRule then throw (.misuse .notSerializable)
      else
        pure (respondWith 400 [("error", .text "invalid multi-step"),
          ("details", .list (failure.issues.map Validation.Issue.report))]) := by
  unfold runMultistep
  unfold multistepFields at invalid
  dsimp only
  rw [invalid]

theorem checkRequirements_of_unsplit {fault : Fault}
    (failed : expressionOf (requirementsIn body) = .error fault) :
    checkRequirements body = throw fault := by
  unfold requirementsIn at failed
  simp only [checkRequirements, failed]

theorem error_of_unforeseen {fault : Fault} {result : Except Fault Response}
    (unforeseen : Unforeseen route body fault)
    (held : (handle route body).Held before trace after result) : result = .error fault := by
  cases unforeseen with
  | @unserializable _ failure issue invalid found rule =>
      have ruled : (failure.issues.any fun issue => issue.defect.isRule) = true :=
        List.any_eq_true.2 ⟨issue, found, rule⟩
      have thrown : (runMultistep body).Held before trace after result := held
      rw [runMultistep_of_invalid invalid, if_pos ruled] at thrown
      exact (held_throw.1 thrown).2.2
  | unsplit truthy other =>
      have thrown : (checkRequirements body).Held before trace after result := held
      rw [checkRequirements_of_unsplit (expressionOf_error_iff.2 ⟨truthy, other, rfl⟩)] at thrown
      exact (held_throw.1 thrown).2.2

theorem refused_of_invalid {failure : Validation.Failure} {result : Except Fault Response}
    (invalid : Step.read .multi (.object (multistepFields body)) = .error failure)
    (plain : ∀ issue ∈ failure.issues, issue.defect.isRule = false)
    (held : (handle .runMultistep body).Held before trace after result) :
    result = .ok (respondWith 400 [("error", .text "invalid multi-step"),
      ("details", .list (failure.issues.map Validation.Issue.report))]) := by
  have unruled : ¬ (failure.issues.any fun issue => issue.defect.isRule) = true := by
    simpa using plain
  rw [handle, runMultistep_of_invalid invalid, if_neg unruled] at held
  exact (held_pure.1 held).2.2

/-! The response to a request. -/

def told (incident : String) : Except Fault Response → Response
  | .ok response => response
  | .error fault => failure incident fault

theorem held_respond {result : Except Fault Response}
    (leads : (bare call.path).map destination = .ok (.here route)) (works : route.Works)
    (posted : call.method = "POST")
    (held : (respond incident call).Held before trace after result) :
    ∃ inner, (handle route call.body).Held before trace after inner ∧
      result = .ok (told incident inner) := by
  obtain ⟨path, plain, leads⟩ : ∃ path, bare call.path = .ok path ∧
      destination path = .here route := by
    cases plain : bare call.path with
    | ok path =>
        rw [plain] at leads
        exact ⟨path, rfl, Except.ok.inj leads⟩
    | error defect =>
        rw [plain] at leads
        cases leads
  -- at these routes posting is allowed, and the response to it keeps its body
  have allowed : route.allows "POST" = true := by cases works <;> rfl
  have upper : String.ofList ("POST".toList.map Char.toUpper) = "POST" := by decide +kernel
  have whole (response : Response) : response.withoutBody call.method = response :=
    if_neg (by rw [posted]; decide)
  have responds : (respondAt incident route call).Held before trace after result := by
    simpa [respond, plain, leads, posted, upper, allowed] using held
  obtain ⟨inner, turns, middle, rest, handled, ended, rfl⟩ := held_outcome_bind.1 responds
  refine ⟨inner, ?_⟩
  cases inner with
  | ok response =>
      obtain ⟨rfl, rfl, rfl⟩ := held_pure.1 ended
      rw [List.append_nil, whole]
      exact ⟨handled, rfl⟩
  | error fault =>
      obtain ⟨rfl, rfl, rfl⟩ := held_pure.1 ended
      rw [List.append_nil, whole]
      exact ⟨handled, rfl⟩

/-- In surroundings in which nothing fails, every posted request is answered or refused with a text,
unless the run of a step fails or the body brings about what is unforeseen: requirements that are no
text, or a multi-step that breaks a rule of its model. Those always end in an incident; every other
body that is no multi-step is refused with all its issues. -/
theorem refused_unless_broken {result : Except Fault Response}
    (leads : (bare call.path).map destination = .ok (.here route)) (works : route.Works)
    (posted : call.method = "POST")
    (held : (respond incident call).Held before trace after result)
    (reliable : Reliable config trace) :
    ∃ response, result = .ok response ∧
      (response.status = 200 ∨ response.Refuses ∨
        response.status = 500 ∧
          ∃ fault, response = failure incident fault ∧ Breaks route call.body fault) ∧
      (∀ fault, Unforeseen route call.body fault → response = failure incident fault) ∧
      ∀ failure, route = .runMultistep →
        Step.read .multi (.object (multistepFields call.body)) = .error failure →
        (∀ issue ∈ failure.issues, issue.defect.isRule = false) →
        response = respondWith 400 [("error", .text "invalid multi-step"),
          ("details", .list (failure.issues.map Validation.Issue.report))] := by
  obtain ⟨inner, handled, rfl⟩ := held_respond leads works posted held
  refine ⟨told incident inner, rfl, ?_, fun fault unforeseen => ?_,
    fun failure same invalid plain => ?_⟩
  · cases ends_handle works handled reliable with
    | answered fine => exact .inl fine
    | refused refuses => exact .inr (.inl refuses)
    | broken breaks => exact .inr (.inr ⟨rfl, _, rfl, breaks⟩)
  · rw [error_of_unforeseen unforeseen handled]
    rfl
  · subst same
    rw [refused_of_invalid invalid plain handled]
    rfl

/-! A multi-step with two identities. -/

def clearing : Scene where
  page
    | .query .. | .attributes _ | .formEvents .. => .ok []
    | .text _ | .directText _ | .renderedText _ | .location | .setValue .. => .ok ""
    | .contains .. => .ok false
    | .click _ | .highlight .. | .pushRoute _ | .openExternal _ | .markCompleted _
    | .clearCompleted _ | .completionEvent .. | .settle => .ok ()
  tuning := .ofConfig Config.standard

theorem reliable_clearing {trace : List Turn} (gave : ∀ turn ∈ trace, clearing.Gave turn) :
    Reliable Config.standard trace where
  tuned tuning member := (gave _ member).choose_spec
  served call fault member := by
    obtain ⟨_, replied⟩ := gave _ member
    cases call <;> cases replied
  rested length fault member := by
    obtain ⟨_, replied⟩ := gave _ member
    cases replied

def torn : Call where
  method := "POST"
  path := "/multisteps/run"
  body := [("stepId", .text "a"), ("sectionId", .text "b"),
    ("internalActions", .list [.object [("targetAction", .text "navigate"),
      ("refTarget", .text "/x")]])]

def tornFailure : Validation.Failure :=
  ⟨"MultiStepDescriptor", [⟨[], .rule "a step carries exactly one of step_id or section_id",
    .object (multistepFields torn.body)⟩]⟩

theorem torn_unforeseen : Unforeseen .runMultistep torn.body (.misuse .notSerializable) := by
  have invalid : Step.read .multi (.object (multistepFields torn.body)) = .error tornFailure := by
    rfl
  exact .unserializable invalid List.mem_cons_self rfl

/-- The rule that a step has one identity is broken, and so is the response. -/
theorem torn_broken :
    ∃ trace after response,
      (bare torn.path).map destination = .ok (.here .runMultistep) ∧
      (respond "1" torn).Held ⟨[], []⟩ trace after (.ok response) ∧
      Reliable Config.standard trace ∧
      response = failure "1" (.misuse .notSerializable) ∧ response.status = 500 := by
  obtain ⟨trace, held, gave⟩ := clearing.held (respond "1" torn) ⟨[], []⟩
  have leads : (bare torn.path).map destination = .ok (.here .runMultistep) := by decide +kernel
  have reliable := reliable_clearing gave
  obtain ⟨response, same, -, unforeseen, -⟩ :=
    refused_unless_broken leads .runMultistep rfl held reliable
  rw [same] at held
  have failed := unforeseen _ torn_unforeseen
  exact ⟨trace, _, response, leads, held, reliable, failed, failed ▸ rfl⟩

end Service

end Walkthrough
