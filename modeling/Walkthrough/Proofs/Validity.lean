import Mathlib.Data.List.Forall2
import Walkthrough.Proofs.Lookups
import Walkthrough.Step.Registry
/-!
Whatever a registry reads is a valid step. The object of the step has exactly one of the two ids,
none of its texts is blank, and what only a multi-step has is there if and only if the action is
that of a multi-step. All of it is what the payload says: each text is the one given there, and the
action is the one by which the registry has chosen the model.

Main statement: `Registry.read_valid`.
-/

namespace Walkthrough

theorem lookup_present (own name : String) (value : Option String) :
    Fields.lookup (present own value) name =
      if own = name then value.map Json.text else none := by
  cases value <;> simp [present, Fields.lookup_cons, Fields.lookup_nil]

namespace Validation

variable {α β : Type} {fields : List (String × Json)}

theorem also_eq_ok {builder : Checked (α → β)} {value : Checked α} {result : β} :
    also builder value = .ok result ↔
      ∃ build found, builder = .ok build ∧ value = .ok found ∧ build found = result := by
  cases builder <;> cases value <;> simp [also]

theorem located_eq_ok {key : String} {value : Json} {outcome : Except Defect α} {result : α} :
    located key value outcome = .ok result ↔ outcome = .ok result := by
  cases outcome <;> simp [located]

theorem items_ok {read : Json → Checked α} {position : Nat} {given : List Json} {values : List α}
    (told : items read position given = .ok values) :
    List.Forall₂ (fun item value => read item = .ok value) given values := by
  induction given generalizing position values with
  | nil =>
      cases told
      exact .nil
  | cons item rest ih =>
      obtain ⟨_, others, first, later, rfl⟩ := also_eq_ok.1 told
      obtain ⟨_, value, build, here, rfl⟩ := also_eq_ok.1 first
      cases build
      refine .cons ?_ (ih later)
      cases found : read item with
      | ok found => simpa [found] using here
      | error issues => simp [found] at here

namespace Spelling

def given (spelling : Spelling) (fields : List (String × Json)) : Option Json :=
  (spelling.find fields).map Prod.snd

def filled (spelling : Spelling) (fields : List (String × Json)) : Option Json :=
  match spelling.given fields with
  | some (.text content) => if Text.allBlank content then none else some (.text content)
  | _ => none

theorem eq_text_of_filled {spelling : Spelling} {value : Json}
    (found : spelling.filled fields = some value) :
    ∃ content, value = .text content ∧ Text.allBlank content = false := by
  unfold filled at found
  split at found
  · next content _ =>
      split at found
      · cases found
      · next visible =>
          cases found
          exact ⟨content, rfl, by simpa using visible⟩
  · cases found

end Spelling

theorem required_eq_ok {spelling : Spelling} {read : String → Json → Checked α} {found : α} :
    required spelling read fields = .ok found ↔
      ∃ entry, spelling.find fields = some entry ∧ read entry.1 entry.2 = .ok found := by
  unfold required
  cases spelling.find fields <;> simp

theorem optional_eq_ok {spelling : Spelling} {read : String → Json → Checked α}
    {default found : α} :
    optional spelling default read fields = .ok found ↔
      spelling.find fields = none ∧ default = found ∨
        ∃ entry, spelling.find fields = some entry ∧ read entry.1 entry.2 = .ok found := by
  unfold optional
  cases spelling.find fields <;> simp

theorem required_ok {spelling : Spelling} {read : Json → Except Defect α} {found : α}
    (told : required spelling (scalar read) fields = .ok found) :
    ∃ key value, spelling.find fields = some (key, value) ∧ read value = .ok found := by
  obtain ⟨⟨key, value⟩, given, reads⟩ := required_eq_ok.1 told
  exact ⟨key, value, given, located_eq_ok.1 reads⟩

theorem optional_ok {spelling : Spelling} {default found : α} {read : Json → Except Defect α}
    (told : optional spelling default (scalar read) fields = .ok found) :
    match spelling.given fields with
    | some value => read value = .ok found
    | none => found = default := by
  unfold Spelling.given
  obtain ⟨absent, rfl⟩ | ⟨⟨key, value⟩, given, reads⟩ := optional_eq_ok.1 told
  · rw [absent]
    rfl
  · rw [given]
    exact located_eq_ok.1 reads

theorem optionalText_ok {spelling : Spelling} {found : Option String}
    (told : optionalText spelling fields = .ok found) :
    found.map Json.text = spelling.filled fields := by
  have read := optional_ok told
  unfold Spelling.filled
  cases given : spelling.given fields with
  | none =>
      rw [given] at read
      have none : found = none := read
      rw [none]
      rfl
  | some value =>
      rw [given] at read
      have read : blankAsNone value = .ok found := read
      cases value with
      | null =>
          cases read
          rfl
      | text content =>
          cases read
          by_cases blank : Text.allBlank content = true <;> simp [blank]
      | _ => cases read

end Validation

open Validation

/-! What the parts of a step were read from. -/

namespace Step.Draft

variable {fields : List (String × Json)} {model : Model} {draft : Draft}

/-- Each part of the draft with its field. -/
structure Parts (model : Model) (fields : List (String × Json)) (draft : Draft) : Prop where
  action : required Spellings.action (scalar readAction) fields = .ok draft.action
  value : optionalText Spellings.value fields = .ok draft.value
  requirements : optionalText Spellings.requirements fields = .ok draft.requirements
  objectives : optionalText Spellings.objectives fields = .ok draft.objectives
  hints : optionalText Spellings.hints fields = .ok draft.hints
  stepId : optionalText Spellings.stepId fields = .ok draft.stepId
  sectionId : optionalText Spellings.sectionId fields = .ok draft.sectionId
  body : readBody model fields = .ok draft.body

/-- All parts of the draft with their fields. -/
structure Whole (model : Model) (fields : List (String × Json)) (draft : Draft) : Prop
    extends Parts model fields draft where
  target : optional Spellings.target "" (scalar readText) fields = .ok draft.target
  custom : optional Spellings.custom [] textMapping fields = .ok draft.custom

theorem whole_of_readFields (told : readFields model fields = .ok draft) :
    Whole model fields draft ∧ unknownKeys model.spellings fields = .ok () := by
  -- from the last field to the first
  obtain ⟨_, _, known, knows, rfl⟩ := also_eq_ok.1 told
  obtain ⟨_, _, bodied, body, rfl⟩ := also_eq_ok.1 known
  obtain ⟨_, _, customised, custom, rfl⟩ := also_eq_ok.1 bodied
  obtain ⟨_, _, sectioned, sectionId, rfl⟩ := also_eq_ok.1 customised
  obtain ⟨_, _, stepped, stepId, rfl⟩ := also_eq_ok.1 sectioned
  obtain ⟨_, _, hinted, hints, rfl⟩ := also_eq_ok.1 stepped
  obtain ⟨_, _, aimed, objectives, rfl⟩ := also_eq_ok.1 hinted
  obtain ⟨_, _, required, requirements, rfl⟩ := also_eq_ok.1 aimed
  obtain ⟨_, _, valued, value, rfl⟩ := also_eq_ok.1 required
  obtain ⟨_, _, targeted, target, rfl⟩ := also_eq_ok.1 valued
  obtain ⟨_, _, build, action, rfl⟩ := also_eq_ok.1 targeted
  cases build
  exact ⟨⟨⟨action, value, requirements, objectives, hints, stepId, sectionId, body⟩, target,
    custom⟩, knows⟩

theorem readFields_of_whole (whole : Whole model fields draft) :
    readFields model fields = (unknownKeys model.spellings fields).map fun _ => draft := by
  unfold readFields
  rw [whole.action, whole.target, whole.value, whole.requirements, whole.objectives, whole.hints,
    whole.stepId, whole.sectionId, whole.custom, whole.body]
  cases unknownKeys model.spellings fields <;> rfl

theorem finish_ok {step : Step} (told : draft.finish model = .ok step) :
    model.accepts draft.action = true ∧ ∃ identity, draft.identity = .ok identity ∧
      step = ⟨draft.action, draft.target, draft.value, draft.requirements, draft.objectives,
        draft.hints, identity, draft.custom, draft.body⟩ := by
  unfold finish at told
  split at told
  · next accepts =>
      refine ⟨accepts, ?_⟩
      cases identified : draft.identity with
      | ok identity =>
          rw [identified] at told
          cases told
          exact ⟨identity, rfl, rfl⟩
      | error words =>
          rw [identified] at told
          cases told
  · cases told

end Step.Draft

namespace Identity

def stepId? : Identity → Option String
  | ofStep id => some id
  | ofSection _ => none

def sectionId? : Identity → Option String
  | ofStep _ => none
  | ofSection id => some id

theorem of_draft {draft : Step.Draft} {identity : Identity}
    (told : draft.identity = .ok identity) :
    draft.stepId = identity.stepId? ∧ draft.sectionId = identity.sectionId? := by
  unfold Step.Draft.identity at told
  split at told
  · next stepped unsectioned =>
      cases told
      exact ⟨stepped, unsectioned⟩
  · next unstepped sectioned =>
      cases told
      exact ⟨unstepped, sectioned⟩
  · cases told
  · cases told

theorem key_injective {identity other : Identity} (same : identity.key = other.key) :
    identity = other := by
  have letters := congrArg String.toList same
  cases identity with
  | ofStep id =>
      cases other with
      | ofStep id => simpa [key, String.toList_inj] using letters
      -- the marks in front of the ids differ from the second letter on
      | ofSection id => simp [key] at letters
  | ofSection id =>
      cases other with
      | ofStep id => simp [key] at letters
      | ofSection id => simpa [key, String.toList_inj] using letters

end Identity

namespace Step

def draft (step : Step) : Draft :=
  ⟨step.action, step.target, step.value, step.requirements, step.objectives, step.hints,
    step.identity.stepId?, step.identity.sectionId?, step.custom, step.body⟩

theorem Draft.finish_eq_ok {model : Model} {draft : Draft} {step : Step} :
    draft.finish model = .ok step ↔ model.accepts step.action = true ∧ draft = step.draft := by
  constructor
  · intro finished
    obtain ⟨accepts, identity, identified, rfl⟩ := Draft.finish_ok finished
    obtain ⟨ofStep, ofSection⟩ := Identity.of_draft identified
    refine ⟨accepts, ?_⟩
    simp only [Step.draft, ← ofStep, ← ofSection]
  · rintro ⟨accepts, rfl⟩
    unfold Draft.finish
    have accepts : model.accepts step.draft.action = true := accepts
    rw [if_pos accepts]
    unfold Draft.identity Step.draft
    cases step with
    | mk action target value requirements objectives hints identity custom body =>
        cases identity <;> rfl

theorem read_eq_ok {model : Model} {fields : List (String × Json)} {step : Step} :
    Step.read model (.object fields) = .ok step ↔
      Draft.Whole model fields step.draft ∧ unknownKeys model.spellings fields = .ok () ∧
        model.accepts step.action = true := by
  constructor
  · intro told
    unfold Step.read at told
    split at told
    · next checked =>
        cases told
        unfold readChecked at checked
        dsimp only at checked
        split at checked
        · next draft read =>
            split at checked
            · next finished =>
                cases checked
                obtain ⟨accepts, rfl⟩ := Draft.finish_eq_ok.1 finished
                obtain ⟨whole, known⟩ := Draft.whole_of_readFields read
                exact ⟨whole, known, accepts⟩
            · cases checked
        · cases checked
    · cases told
  · rintro ⟨whole, known, accepts⟩
    have read : Draft.readFields model fields = .ok step.draft := by
      rw [Draft.readFields_of_whole whole, known]
      rfl
    have checked : readChecked model (.object fields) = .ok step := by
      unfold readChecked
      dsimp only
      rw [read]
      dsimp only
      rw [Draft.finish_eq_ok.2 ⟨accepts, rfl⟩]
    unfold Step.read
    rw [checked]

theorem parts_of_read {model : Model} {payload : Json} {step : Step}
    (told : Step.read model payload = .ok step) :
    ∃ fields draft, payload = .object fields ∧ Draft.Parts model fields draft ∧
      draft.finish model = .ok step := by
  cases payload with
  | object fields =>
      obtain ⟨whole, -, accepts⟩ := read_eq_ok.1 told
      exact ⟨fields, step.draft, rfl, whole.toParts, Draft.finish_eq_ok.2 ⟨accepts, rfl⟩⟩
  | _ => cases told

/-! The object of a step. -/

theorem lookup_identity (identity : Identity) (name : String) :
    Fields.lookup identity.payload name =
      if "step_id" = name then identity.stepId?.map Json.text
      else if "section_id" = name then identity.sectionId?.map Json.text else none := by
  cases identity with
  | ofStep id => simp [Identity.payload, Fields.lookup_cons, Fields.lookup_nil, Identity.stepId?,
      Identity.sectionId?]
  | ofSection id =>
      by_cases other : "step_id" = name
      · simp [Identity.payload, Fields.lookup_cons, Fields.lookup_nil, Identity.stepId?, ← other]
      · simp [Identity.payload, Fields.lookup_cons, Fields.lookup_nil, Identity.sectionId?, other]

end Step

namespace StepBody

def actions? : StepBody → Option (List InnerAction)
  | single => none
  | multiple actions _ => some actions

def delay? : StepBody → Option Nat
  | single => none
  | multiple _ delay => delay

theorem lookup_payload (body : StepBody) (name : String) :
    Fields.lookup body.payload name =
      if "internal_actions" = name then
        body.actions?.map fun actions => .list (actions.map fun inner => .object inner.payload)
      else if "step_delay_ms" = name then body.delay?.map fun wait : Nat => .int wait
      else none := by
  cases body with
  | single => simp [payload, Fields.lookup_nil, actions?, delay?]
  | multiple actions delay =>
      cases delay <;>
        simp [payload, Fields.lookup_cons, Fields.lookup_nil, actions?, delay?]

end StepBody

namespace Spellings

def texts : List Spelling :=
  [value, requirements, objectives, hints, stepId, sectionId]

end Spellings

namespace Step

variable {step : Step} {fields : List (String × Json)} {model : Model}

def optionalFields (step : Step) : List (String × Option Json) :=
  [("target_value", step.value.map .text), ("requirements", step.requirements.map .text),
    ("objectives", step.objectives.map .text), ("hints", step.hints.map .text),
    ("step_id", step.identity.stepId?.map .text),
    ("section_id", step.identity.sectionId?.map .text),
    ("internal_actions", step.body.actions?.map fun actions =>
      .list (actions.map fun inner => .object inner.payload)),
    ("step_delay_ms", step.body.delay?.map fun wait : Nat => .int wait)]

theorem lookup_optional (step : Step) {name : String} {value : Option Json}
    (listed : (name, value) ∈ step.optionalFields) : Fields.lookup step.payload name = value := by
  have all : ∀ field ∈ step.optionalFields, Fields.lookup step.payload field.1 = field.2 := by
    simp [optionalFields, Step.payload, Fields.lookup_append, Fields.lookup_cons, lookup_present,
      lookup_identity, StepBody.lookup_payload]
  exact all _ listed

theorem lookup_stepId (step : Step) :
    Fields.lookup step.payload "step_id" = step.identity.stepId?.map .text :=
  lookup_optional step (by simp [optionalFields])

theorem lookup_sectionId (step : Step) :
    Fields.lookup step.payload "section_id" = step.identity.sectionId?.map .text :=
  lookup_optional step (by simp [optionalFields])

theorem lookup_actions (step : Step) :
    Fields.lookup step.payload "internal_actions" = step.body.actions?.map fun actions =>
      .list (actions.map fun inner => .object inner.payload) :=
  lookup_optional step (by simp [optionalFields])

theorem lookup_delay (step : Step) :
    Fields.lookup step.payload "step_delay_ms" =
      step.body.delay?.map fun wait : Nat => .int wait :=
  lookup_optional step (by simp [optionalFields])

theorem lookup_texts {draft : Draft} (parts : Draft.Parts model fields draft)
    (finished : draft.finish model = .ok step) :
    ∀ spelling ∈ Spellings.texts,
      Fields.lookup step.payload spelling.name = spelling.filled fields := by
  obtain ⟨-, identity, identified, rfl⟩ := Draft.finish_ok finished
  obtain ⟨ofStep, ofSection⟩ := Identity.of_draft identified
  simp only [Spellings.texts, List.forall_mem_cons, ← optionalText_ok parts.value,
    ← optionalText_ok parts.requirements, ← optionalText_ok parts.objectives,
    ← optionalText_ok parts.hints, ← optionalText_ok parts.stepId,
    ← optionalText_ok parts.sectionId, ofStep, ofSection]
  refine ⟨?_, ?_, ?_, ?_, ?_, ?_, by simp⟩ <;>
    exact lookup_optional _ (by simp [optionalFields, Spellings.value, Spellings.requirements,
      Spellings.objectives, Spellings.hints, Spellings.stepId, Spellings.sectionId])

end Step

/-! Inner actions. -/

namespace InnerAction

variable {fields : List (String × Json)} {inner : InnerAction}

/-- All parts of an inner action with their fields. -/
structure Whole (fields : List (String × Json)) (inner : InnerAction) : Prop where
  action : required Spellings.action (scalar readElementAction) fields = .ok inner.action
  target : optional Spellings.target "" (scalar readText) fields = .ok inner.target
  value : optionalText Spellings.value fields = .ok inner.value
  requirements : optionalText Spellings.requirements fields = .ok inner.requirements
  known : unknownKeys Spellings.inner fields = .ok ()

theorem read_eq_ok : InnerAction.read (.object fields) = .ok inner ↔ Whole fields inner := by
  constructor
  · intro told
    obtain ⟨_, _, required, known, rfl⟩ := also_eq_ok.1 told
    obtain ⟨_, _, valued, requirements, rfl⟩ := also_eq_ok.1 required
    obtain ⟨_, _, targeted, value, rfl⟩ := also_eq_ok.1 valued
    obtain ⟨_, _, acting, target, rfl⟩ := also_eq_ok.1 targeted
    obtain ⟨_, _, build, action, rfl⟩ := also_eq_ok.1 acting
    cases build
    exact ⟨action, target, value, requirements, known⟩
  · intro whole
    change readFields fields = .ok inner
    unfold readFields
    rw [whole.action, whole.target, whole.value, whole.requirements, whole.known]
    rfl

end InnerAction

/-! What only a multi-step has. -/

section Multiple

variable {fields : List (String × Json)} {body : StepBody} {value : Json}

theorem Action.name_injective {action other : Action} (same : action.name = other.name) :
    action = other := by
  have found := Action.ofName?_name action
  rw [same, Action.ofName?_name] at found
  exact (Option.some.inj found).symm

theorem Action.mem_of_isElement {action : Action} (element : action.isElement = true) :
    action ∈ [highlight, button, formfill, navigate] := by
  cases action with
  | highlight | button | formfill | navigate => simp
  | sequence | multistep => cases element

theorem element_of_read {inner : InnerAction} (told : InnerAction.read value = .ok inner) :
    inner.action ∈ [Action.highlight, .button, .formfill, .navigate] := by
  cases value with
  | object fields =>
      obtain ⟨_, given, -, read⟩ := required_ok (InnerAction.read_eq_ok.1 told).action
      unfold readElementAction at read
      split at read
      · split at read
        · next action _ element =>
            cases read
            exact Action.mem_of_isElement element
        · cases read
      · cases read
  | _ => cases told

theorem elements_of_read {given : List Json} {inners : List InnerAction}
    (told : List.Forall₂ (fun item inner => InnerAction.read item = .ok inner) given inners) :
    ∀ inner ∈ inners, inner.action ∈ [Action.highlight, .button, .formfill, .navigate] := by
  induction told with
  | nil => simp
  | cons first _ ih => exact List.forall_mem_cons.2 ⟨element_of_read first, ih⟩

theorem actions_of_readActions {key : String} {actions : List InnerAction}
    (told : readActions key value = .ok actions) :
    actions ≠ [] ∧ ∃ given, value = .list given ∧
      List.Forall₂ (fun item inner => InnerAction.read item = .ok inner) given actions := by
  unfold readActions at told
  split at told
  · next given =>
      split at told
      · cases told
      · next found some read =>
          cases told
          exact ⟨some, given, rfl, items_ok read⟩
      · cases told
  · cases told

theorem natural_of_readDelay {number : Nat} (told : readDelay value = .ok (some number)) :
    readInteger value = .ok (number : Int) := by
  unfold readDelay at told
  split at told
  · cases told
  · unfold readNatural at told
    split at told
    · next read =>
        cases told
        exact read
    · cases told
    · cases told

theorem body_of_multi (told : readBody .multi fields = .ok body) :
    ∃ actions delay, body = .multiple actions delay ∧ actions ≠ [] ∧
      (∃ given, Spellings.actions.given fields = some (.list given) ∧
        List.Forall₂ (fun item inner => InnerAction.read item = .ok inner) given actions) ∧
      ∀ number, delay = some number → ∃ given, Spellings.delay.given fields = some given ∧
        readInteger given = .ok (number : Int) := by
  obtain ⟨_, delay, acting, delayed, rfl⟩ := also_eq_ok.1 told
  obtain ⟨_, actions, build, acts, rfl⟩ := also_eq_ok.1 acting
  cases build
  refine ⟨actions, delay, rfl, ?_⟩
  obtain ⟨⟨key, value⟩, found, reads⟩ := required_eq_ok.1 acts
  obtain ⟨some, given, rfl, read⟩ := actions_of_readActions reads
  refine ⟨some, ⟨given, by simp [Spelling.given, found], read⟩, ?_⟩
  rintro number rfl
  have read := optional_ok delayed
  cases given : Spellings.delay.given fields with
  | none => simp [given] at read
  | some value =>
      rw [given] at read
      exact ⟨value, rfl, natural_of_readDelay read⟩

end Multiple

/-! Registries. -/

namespace Registry

variable {registry : Registry} {payload : Json} {step : Step} {fields : List (String × Json)}

/-- The model of a step goes with its action, and so do the fields of its object: only a multi-step
has inner actions, those that were given, and it may have a delay, that was given too. -/
inductive Shaped (fields : List (String × Json)) (step : Step) : Prop where
  | plain (model : step.model = .plain) (action : step.action ≠ .multistep)
      (actions : Fields.lookup step.payload "internal_actions" = none)
      (delay : Fields.lookup step.payload "step_delay_ms" = none) : Shaped fields step
  | multi {given inners} (model : step.model = .multi) (action : step.action = .multistep)
      (listed : Spellings.actions.given fields = some (.list given))
      (read : List.Forall₂ (fun item inner => InnerAction.read item = .ok inner) given inners)
      (filled : inners ≠ [])
      (elements : ∀ inner ∈ inners,
        inner.action ∈ [Action.highlight, .button, .formfill, .navigate])
      (actions : Fields.lookup step.payload "internal_actions" =
        some (.list (inners.map fun inner => .object inner.payload)))
      (delay : ∀ value, Fields.lookup step.payload "step_delay_ms" = some value →
        ∃ waited number, Spellings.delay.given fields = some waited ∧
          readInteger waited = .ok number ∧ value = .int number ∧ 0 ≤ number) :
      Shaped fields step

/-- A step, in view of the object that it was read from. -/
structure Accepted (registry : Registry) (fields : List (String × Json)) (step : Step) :
    Prop where
  dispatched : ∃ entry, registry.get (actionOf fields) = .ok entry ∧
    actionOf fields = .text step.action.name ∧ entry.action = step.action ∧
    entry.model = step.model
  modelled : step.model = .multi ↔ step.action = .multistep
  identified : (Fields.lookup step.payload "step_id").isSome ≠
    (Fields.lookup step.payload "section_id").isSome
  texts : ∀ spelling ∈ Spellings.texts,
    Fields.lookup step.payload spelling.name = spelling.filled fields
  visible : ∀ spelling ∈ Spellings.texts, ∀ value,
    Fields.lookup step.payload spelling.name = some value →
      ∃ content, value = .text content ∧ Text.allBlank content = false
  shaped : Shaped fields step

theorem read_ok (told : registry.read payload = .ok step) :
    ∃ fields entry, payload = .object fields ∧ registry.get (actionOf fields) = .ok entry ∧
      Step.read entry.model payload = .ok step := by
  unfold Registry.read at told
  split at told
  · next fields =>
      split at told
      · cases told
      · split at told
        · cases told
        · next entry found =>
            split at told
            · next read =>
                cases told
                exact ⟨fields, entry, rfl, found, read⟩
            · cases told
  · cases told

theorem name_of_get {name : Json} {entry : Registration}
    (found : registry.get name = .ok entry) : name = .text entry.action.name := by
  unfold Registry.get at found
  split at found
  · next known =>
      cases found
      unfold Registry.find? at known
      split at known
      · have same := List.find?_some known
        simp only [beq_iff_eq] at same
        rw [same]
      · cases known
  · cases found

theorem actionOf_of_find {key : String} {value : Json}
    (found : Spellings.action.find fields = some (key, value)) (truthy : value.truthy = true) :
    actionOf fields = value := by
  have absent : Json.null.truthy = false := rfl
  simp only [Spelling.find, Spelling.all, Spellings.action, List.findSome?_cons,
    List.findSome?_nil] at found
  unfold actionOf
  rcases Option.eq_none_or_eq_some (Fields.lookup fields "target_action") with snake | ⟨_, snake⟩
  · rcases Option.eq_none_or_eq_some (Fields.lookup fields "targetAction") with camel | ⟨_, camel⟩
    · rcases Option.eq_none_or_eq_some (Fields.lookup fields "targetaction") with
        lower | ⟨_, lower⟩
      · simp [snake, camel, lower] at found
      · simp only [snake, camel, lower, Option.map_some, Option.map_none, Option.some.injEq,
          Prod.mk.injEq] at found
        obtain ⟨-, rfl⟩ := found
        simp [snake, camel, lower, absent]
    · simp only [snake, camel, Option.map_some, Option.map_none, Option.some.injEq,
        Prod.mk.injEq] at found
      obtain ⟨-, rfl⟩ := found
      simp [snake, camel, truthy, absent]
  · simp only [snake, Option.map_some, Option.some.injEq, Prod.mk.injEq] at found
    obtain ⟨-, rfl⟩ := found
    simp [snake, truthy]

theorem actionOf_of_readAction {action : Action}
    (told : required Spellings.action (scalar readAction) fields = .ok action) :
    actionOf fields = .text action.name := by
  obtain ⟨key, value, found, read⟩ := required_ok told
  unfold readAction readChoice at read
  split at read
  · next name =>
      split at read
      · next known =>
          cases read
          rw [← Action.name_of_ofName? known] at found
          have truthy : (Json.text action.name).truthy = true := by cases action <;> rfl
          exact actionOf_of_find found truthy
      · cases read
  · cases read

theorem shaped_of_parts {model : Step.Model} {draft : Step.Draft}
    (parts : Step.Draft.Parts model fields draft) (finished : draft.finish model = .ok step) :
    Shaped fields step ∧ step.model = model := by
  obtain ⟨accepts, identity, -, rfl⟩ := Step.Draft.finish_ok finished
  have body := parts.body
  cases model with
  | plain =>
      have single : draft.body = .single := (Except.ok.inj body).symm
      have other : draft.action ≠ .multistep := by simpa [Step.Model.accepts] using accepts
      refine ⟨.plain ?_ other ?_ ?_, ?_⟩
      · simp [Step.model, single]
      · simp [Step.lookup_actions, single, StepBody.actions?]
      · simp [Step.lookup_delay, single, StepBody.delay?]
      · simp [Step.model, single]
  | multi =>
      obtain ⟨inners, delay, multiple, filled, ⟨given, listed, read⟩, delayed⟩ := body_of_multi body
      have own : draft.action = .multistep := by simpa [Step.Model.accepts] using accepts
      refine ⟨.multi ?_ own listed read filled (elements_of_read read) ?_ ?_, ?_⟩
      · simp [Step.model, multiple]
      · simp [Step.lookup_actions, multiple, StepBody.actions?]
      · intro value waits
        simp only [Step.lookup_delay, multiple, StepBody.delay?, Option.map_eq_some_iff] at waits
        obtain ⟨number, rfl, rfl⟩ := waits
        obtain ⟨waited, there, reads⟩ := delayed number rfl
        exact ⟨waited, number, there, reads, rfl, Int.natCast_nonneg number⟩
      · simp [Step.model, multiple]

theorem Shaped.multi_iff (shaped : Shaped fields step) :
    step.model = .multi ↔ step.action = .multistep := by
  cases shaped with
  | plain model action => simp [model, action]
  | multi model action => simp [model, action]

theorem accepted_of_read (told : registry.read payload = .ok step) :
    ∃ fields, payload = .object fields ∧ Accepted registry fields step := by
  obtain ⟨fields, entry, rfl, found, read⟩ := read_ok told
  obtain ⟨_, draft, same, parts, finished⟩ := Step.parts_of_read read
  cases same
  refine ⟨fields, rfl, ?_⟩
  have texts := Step.lookup_texts parts finished
  obtain ⟨shaped, modelled⟩ := shaped_of_parts parts finished
  obtain ⟨-, identity, -, rfl⟩ := Step.Draft.finish_ok finished
  have dispatched := actionOf_of_readAction parts.action
  have acts : entry.action = draft.action := by
    rw [dispatched] at found
    exact Action.name_injective (Json.text.inj (name_of_get found)).symm
  refine ⟨⟨entry, found, dispatched, acts, modelled.symm⟩, shaped.multi_iff, ?_, texts, ?_, shaped⟩
  · rw [Step.lookup_stepId, Step.lookup_sectionId]
    cases identity <;> simp [Identity.stepId?, Identity.sectionId?]
  · intro spelling listed value given
    rw [texts spelling listed] at given
    exact Spelling.eq_text_of_filled given

/-- Whatever a registry reads is an object, and a valid step. No other step that some registry has
read has the same key, unless it has the same id of the same kind. -/
theorem read_valid (told : registry.read payload = .ok step) :
    (∃ fields, payload = .object fields ∧ Accepted registry fields step) ∧
    ∀ (others : Registry) (another : Json) (other : Step), others.read another = .ok other →
      other.key = step.key → other.identity = step.identity :=
  ⟨accepted_of_read told, fun _ _ _ _ same => Identity.key_injective same⟩

/-- A multi-step as it may be given: its delay is a text, and its hints are blank. -/
def drill : Json :=
  .object [("targetAction", .text "multistep"), ("stepId", .text "drill"), ("hints", .text " "),
    ("stepDelay", .text "20"), ("internalActions", .list [.object
      [("targetAction", .text "button"), ("refTarget", .text "Save")]])]

def drillStep : Step where
  action := .multistep
  target := ""
  value := none
  requirements := none
  objectives := none
  hints := none
  identity := .ofStep "drill"
  custom := []
  body := .multiple [⟨.button, "Save", none, none⟩] (some 20)

theorem drill_valid :
    standard.read drill = .ok drillStep ∧
      (∃ fields, drill = .object fields ∧ Accepted standard fields drillStep) ∧
      ∀ (others : Registry) (another : Json) (other : Step), others.read another = .ok other →
        other.key = "step-drill" → other.identity = .ofStep "drill" :=
  have told : standard.read drill = .ok drillStep := rfl
  ⟨told, read_valid told⟩

end Registry

end Walkthrough
