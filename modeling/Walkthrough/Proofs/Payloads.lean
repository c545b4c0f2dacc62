import Walkthrough.Proofs.Validity
/-!
The payload of a step reads back as the step. A step is read from an object if every part of it is
read from its own field and there is no other key in the object; and the payload has each part under
the name of its field, in a form that reads as that part.
-/

namespace Walkthrough

open Validation

namespace Validation

variable {α : Type} {spelling : Spelling} {fields : List (String × Json)}

theorem Spelling.find_of_absent
    (absent : ∀ key ∈ spelling.others, Fields.lookup fields key = none) :
    spelling.find fields =
      (Fields.lookup fields spelling.name).map fun value => (spelling.name, value) := by
  have rest : (spelling.others.findSome? fun key =>
      (Fields.lookup fields key).map fun value => (key, value)) = none := by
    rw [List.findSome?_eq_none_iff]
    intro key member
    rw [absent key member, Option.map_none]
  unfold Spelling.find Spelling.all
  rw [List.findSome?_cons, rest]
  cases Fields.lookup fields spelling.name <;> rfl

theorem unknownKeys_eq_ok {spellings : List Spelling} :
    unknownKeys spellings fields = .ok () ↔
      ∀ entry ∈ fields, ∃ spelling ∈ spellings,
        (spelling.find fields).map Prod.fst = some entry.1 := by
  have none : unknownKeys spellings fields = .ok () ↔ (fields.filter fun field =>
      !(spellings.filterMap fun spelling => (spelling.find fields).map Prod.fst).contains
        field.1) = [] := by
    unfold unknownKeys
    dsimp only
    split
    · next none => exact ⟨fun _ => none, fun _ => rfl⟩
    · next some => exact ⟨(nomatch ·), fun none => absurd none some⟩
  rw [none, List.filter_eq_nil_iff]
  simp [List.mem_filterMap]

theorem optional_of_find {default found : α} {read : String → Json → Checked α}
    {given : Option (String × Json)} (same : spelling.find fields = given)
    (absent : given = none → found = default)
    (reads : ∀ entry, given = some entry → read entry.1 entry.2 = .ok found) :
    optional spelling default read fields = .ok found := by
  unfold optional
  rw [same]
  cases given with
  | none => rw [absent rfl]
  | some entry => exact reads entry rfl

theorem optionalText_of_find {others : List (String × Json)} {found : Option String}
    (told : optionalText spelling fields = .ok found)
    (same : spelling.find others = found.map fun content => (spelling.name, .text content)) :
    optionalText spelling others = .ok found := by
  refine optional_of_find same (fun absent => by simpa using absent) fun entry given => ?_
  obtain ⟨content, rfl, rfl⟩ := Option.map_eq_some_iff.1 given
  obtain ⟨_, text, visible⟩ := Spelling.eq_text_of_filled (optionalText_ok told).symm
  cases text
  simp [scalar, located, blankAsNone, visible]

theorem items_of_forall₂ {read : Json → Checked α} {position : Nat} {given : List Json}
    {values : List α} (each : List.Forall₂ (fun item value => read item = .ok value) given values) :
    items read position given = .ok values := by
  induction each generalizing position with
  | nil => rfl
  | cons first _ ih =>
      unfold items
      rw [first, ih]
      rfl

theorem textMapping_eq_ok {key : String} {value : Json} {entries : List (String × String)} :
    textMapping key value = .ok entries ↔ value = .pairs entries := by
  constructor
  · intro told
    unfold textMapping at told
    split at told
    · next fields =>
        dsimp only at told
        split at told
        · next none =>
            cases told
            refine congrArg Json.object ?_
            induction fields with
            | nil => rfl
            | cons field rest ih =>
                obtain ⟨name, value⟩ := field
                cases value with
                | text content =>
                    have rest := ih (by simpa [readText] using none)
                    simpa [readText] using rest
                | _ => simp [readText] at none
        · cases told
    · cases told
  · rintro rfl
    simp [textMapping, Json.pairs, readText, List.filterMap_map, Function.comp_def]

end Validation

/-! The payload of a step. -/

namespace Step

variable {step : Step} {model : Model} {fields : List (String × Json)}

theorem find_payload (step : Step) {spelling : Spelling} (listed : spelling ∈ Spellings.multi) :
    spelling.find step.payload =
      (Fields.lookup step.payload spelling.name).map fun value => (spelling.name, value) := by
  have absent : ∀ spelling ∈ Spellings.multi, ∀ key ∈ spelling.others,
      Fields.lookup step.payload key = none := by
    simp [Spellings.multi, Spellings.plain, Spellings.action, Spellings.target, Spellings.value,
      Spellings.requirements, Spellings.objectives, Spellings.hints, Spellings.stepId,
      Spellings.sectionId, Spellings.custom, Spellings.actions, Spellings.delay, Step.payload,
      Fields.lookup_append, Fields.lookup_cons, lookup_present, lookup_identity,
      StepBody.lookup_payload]
  exact Spelling.find_of_absent (absent spelling listed)

theorem lookup_always (step : Step) :
    Fields.lookup step.payload "target_action" = some (.text step.action.name) ∧
    Fields.lookup step.payload "ref_target" = some (.text step.target) ∧
    Fields.lookup step.payload "custom_data" = some (.pairs step.custom) := by
  simp [Step.payload, Fields.lookup_append, Fields.lookup_cons, lookup_present, lookup_identity]

theorem optionalText_payload {spelling : Spelling} {value : Option String}
    (listed : spelling ∈ Spellings.multi)
    (found : Fields.lookup step.payload spelling.name = value.map .text)
    (told : optionalText spelling fields = .ok value) :
    optionalText spelling step.payload = .ok value := by
  refine optionalText_of_find told ?_
  rw [find_payload step listed, found, Option.map_map]
  rfl

theorem texts_subset : Spellings.texts ⊆ Spellings.multi := by
  simp [Spellings.texts, Spellings.multi, Spellings.plain]

theorem lookup_unlisted {name : String} (body : readBody model fields = .ok step.body)
    (unlisted : ∀ spelling ∈ model.spellings, spelling.name ≠ name) :
    Fields.lookup step.payload name = none := by
  cases model with
  | plain =>
      have single : step.body = .single := (Except.ok.inj body).symm
      simp only [Model.spellings, Spellings.plain, List.forall_mem_cons, Spellings.action,
        Spellings.target, Spellings.value, Spellings.requirements, Spellings.objectives,
        Spellings.hints, Spellings.stepId, Spellings.sectionId, Spellings.custom] at unlisted
      simp [Step.payload, Fields.lookup_append, Fields.lookup_cons, lookup_present, lookup_identity,
        single, StepBody.payload, Fields.lookup_nil, unlisted]
  | multi =>
      simp only [Model.spellings, Spellings.multi, Spellings.plain, List.forall_mem_append,
        List.forall_mem_cons, Spellings.action, Spellings.target, Spellings.value,
        Spellings.requirements, Spellings.objectives, Spellings.hints, Spellings.stepId,
        Spellings.sectionId, Spellings.custom, Spellings.actions, Spellings.delay] at unlisted
      simp [Step.payload, Fields.lookup_append, Fields.lookup_cons, lookup_present, lookup_identity,
        StepBody.lookup_payload, unlisted]

theorem spellings_subset (model : Model) : model.spellings ⊆ Spellings.multi := by
  cases model with
  | plain => exact List.subset_append_left _ _
  | multi => exact List.Subset.refl _

theorem known_payload (body : readBody model fields = .ok step.body) :
    unknownKeys model.spellings step.payload = .ok () := by
  rw [unknownKeys_eq_ok]
  intro entry member
  have there : Fields.lookup step.payload entry.1 ≠ none := fun none =>
    Fields.lookup_eq_none_iff.1 none (List.mem_map_of_mem member)
  have listed : ∃ spelling ∈ model.spellings, spelling.name = entry.1 := by
    by_contra unlisted
    simp only [not_exists, not_and] at unlisted
    exact there (lookup_unlisted body unlisted)
  obtain ⟨spelling, own, same⟩ := listed
  obtain ⟨value, found⟩ := Option.ne_none_iff_exists'.1 there
  refine ⟨spelling, own, ?_⟩
  rw [find_payload step (spellings_subset model own), same, found]
  rfl

end Step

theorem readAction_eq_ok {value : Json} {action : Action} :
    readAction value = .ok action ↔ value = .text action.name := by
  constructor
  · intro told
    unfold readAction readChoice at told
    split at told
    · split at told
      · next known =>
          cases told
          rw [Action.name_of_ofName? known]
      · cases told
    · cases told
  · rintro rfl
    simp [readAction, readChoice, Action.ofName?_name]

theorem readElementAction_again {value : Json} {action : Action}
    (told : readElementAction value = .ok action) :
    readElementAction (.text action.name) = .ok action := by
  unfold readElementAction at told ⊢
  rw [readAction_eq_ok.2 rfl]
  split at told
  · split at told
    · next element =>
        cases told
        exact if_pos element
    · cases told
  · cases told

namespace InnerAction

variable {inner : InnerAction} {fields : List (String × Json)}

theorem lookup_payload (inner : InnerAction) (name : String) :
    Fields.lookup inner.payload name =
      if "target_action" = name then some (.text inner.action.name)
      else if "ref_target" = name then some (.text inner.target)
      else if "target_value" = name then inner.value.map .text
      else if "requirements" = name then inner.requirements.map .text else none := by
  unfold InnerAction.payload
  simp only [List.cons_append, List.nil_append, Fields.lookup_cons, Fields.lookup_append,
    lookup_present]
  split
  · rfl
  · split
    · rfl
    · by_cases value : "target_value" = name
      · subst value
        simp
      · simp [value]

theorem find_payload (inner : InnerAction) {spelling : Spelling}
    (listed : spelling ∈ Spellings.inner) :
    spelling.find inner.payload =
      (Fields.lookup inner.payload spelling.name).map fun value => (spelling.name, value) := by
  have absent : ∀ spelling ∈ Spellings.inner, ∀ key ∈ spelling.others,
      Fields.lookup inner.payload key = none := by
    simp [Spellings.inner, Spellings.action, Spellings.target, Spellings.value,
      Spellings.requirements, lookup_payload]
  exact Spelling.find_of_absent (absent spelling listed)

theorem optionalText_payload {spelling : Spelling} {value : Option String}
    (listed : spelling ∈ Spellings.inner)
    (found : Fields.lookup inner.payload spelling.name = value.map .text)
    (told : optionalText spelling fields = .ok value) :
    optionalText spelling inner.payload = .ok value := by
  refine optionalText_of_find told ?_
  rw [find_payload inner listed, found, Option.map_map]
  rfl

theorem known_payload (inner : InnerAction) :
    unknownKeys Spellings.inner inner.payload = .ok () := by
  rw [unknownKeys_eq_ok]
  intro entry member
  have there : Fields.lookup inner.payload entry.1 ≠ none := fun none =>
    Fields.lookup_eq_none_iff.1 none (List.mem_map_of_mem member)
  have listed : ∃ spelling ∈ Spellings.inner, spelling.name = entry.1 := by
    by_contra unlisted
    simp only [Spellings.inner, List.exists_mem_cons_iff, not_or, Spellings.action,
      Spellings.target, Spellings.value, Spellings.requirements] at unlisted
    simp [lookup_payload, unlisted] at there
  obtain ⟨spelling, own, same⟩ := listed
  obtain ⟨value, found⟩ := Option.ne_none_iff_exists'.1 there
  refine ⟨spelling, own, ?_⟩
  rw [find_payload inner own, same, found]
  rfl

theorem read_payload (whole : Whole fields inner) :
    InnerAction.read (.object inner.payload) = .ok inner := by
  rw [read_eq_ok]
  refine ⟨?_, ?_, ?_, ?_, known_payload inner⟩
  · obtain ⟨_, _, -, read⟩ := required_ok whole.action
    have found : Spellings.action.find inner.payload =
        some ("target_action", .text inner.action.name) := by
      rw [find_payload inner (by simp [Spellings.inner])]
      simp [lookup_payload, Spellings.action]
    exact required_eq_ok.2 ⟨_, found, located_eq_ok.2 (readElementAction_again read)⟩
  · have found : Spellings.target.find inner.payload = some ("ref_target", .text inner.target) := by
      rw [find_payload inner (by simp [Spellings.inner])]
      simp [lookup_payload, Spellings.target]
    exact optional_of_find found (by simp) (by rintro _ ⟨⟩; rfl)
  · exact optionalText_payload (by simp [Spellings.inner])
      (by simp [lookup_payload, Spellings.value]) whole.value
  · exact optionalText_payload (by simp [Spellings.inner])
      (by simp [lookup_payload, Spellings.requirements]) whole.requirements

theorem reads_payload {given : List Json} {actions : List InnerAction}
    (each : List.Forall₂ (fun item inner => InnerAction.read item = .ok inner) given actions) :
    List.Forall₂ (fun item inner => InnerAction.read item = .ok inner)
      (actions.map fun inner => .object inner.payload) actions := by
  induction each with
  | nil => exact .nil
  | @cons item inner _ _ told _ ih =>
      cases item with
      | object fields => exact .cons (read_payload (read_eq_ok.1 told)) ih
      | _ => cases told

theorem readActions_of_forall₂ {given : List Json} {actions : List InnerAction}
    (filled : actions ≠ [])
    (each : List.Forall₂ (fun item inner => InnerAction.read item = .ok inner) given actions)
    (key : String) : readActions key (.list given) = .ok actions := by
  unfold readActions
  dsimp only
  rw [items_of_forall₂ each]
  cases actions with
  | nil => exact absurd rfl filled
  | cons first others => rfl

end InnerAction

namespace Step

variable {step : Step} {model : Model} {fields : List (String × Json)}

theorem body_payload (told : readBody model fields = .ok step.body) :
    readBody model step.payload = .ok step.body := by
  cases model with
  | plain => exact told
  | multi =>
      obtain ⟨_, delay, acting, delayed, same⟩ := also_eq_ok.1 told
      obtain ⟨_, actions, build, acts, rfl⟩ := also_eq_ok.1 acting
      cases build
      have body : step.body = .multiple actions delay := same.symm
      have actionsFound : Spellings.actions.find step.payload = some ("internal_actions",
          .list (actions.map fun inner => .object inner.payload)) := by
        rw [find_payload step (by simp [Spellings.multi])]
        simp [Spellings.actions, lookup_actions, body, StepBody.actions?]
      have delayFound : Spellings.delay.find step.payload =
          delay.map fun wait : Nat => ("step_delay_ms", .int wait) := by
        rw [find_payload step (by simp [Spellings.multi])]
        simp [Spellings.delay, lookup_delay, body, StepBody.delay?, Function.comp_def]
      refine also_eq_ok.2 ⟨_, delay, also_eq_ok.2 ⟨_, actions, rfl, ?_, rfl⟩, ?_, same⟩
      · obtain ⟨_, -, acts⟩ := required_eq_ok.1 acts
        obtain ⟨filled, _, -, each⟩ := actions_of_readActions acts
        exact required_eq_ok.2 ⟨_, actionsFound,
          InnerAction.readActions_of_forall₂ filled (InnerAction.reads_payload each) _⟩
      · refine optional_of_find delayFound (fun absent => by simpa using absent) ?_
        intro entry given
        obtain ⟨wait, rfl, rfl⟩ := Option.map_eq_some_iff.1 given
        rfl

theorem read_payload (told : Step.read model (.object fields) = .ok step) :
    Step.read model (.object step.payload) = .ok step := by
  obtain ⟨whole, -, accepts⟩ := read_eq_ok.1 told
  have texts := lookup_texts whole.toParts (Draft.finish_eq_ok.2 ⟨accepts, rfl⟩)
  have again (spelling : Spelling) {found : Option String} (listed : spelling ∈ Spellings.texts)
      (told : optionalText spelling fields = .ok found) :
      optionalText spelling step.payload = .ok found :=
    optionalText_payload (texts_subset listed)
      ((texts spelling listed).trans (optionalText_ok told).symm) told
  rw [read_eq_ok]
  refine ⟨⟨⟨?_, ?_, ?_, ?_, ?_, ?_, ?_, body_payload whole.body⟩, ?_, ?_⟩,
    known_payload whole.body, accepts⟩
  · have found : Spellings.action.find step.payload =
        some ("target_action", .text step.action.name) := by
      rw [find_payload step (by simp [Spellings.multi, Spellings.plain])]
      simp [Spellings.action, lookup_always]
    exact required_eq_ok.2 ⟨_, found, located_eq_ok.2 (readAction_eq_ok.2 rfl)⟩
  · exact again Spellings.value (by simp [Spellings.texts]) whole.value
  · exact again Spellings.requirements (by simp [Spellings.texts]) whole.requirements
  · exact again Spellings.objectives (by simp [Spellings.texts]) whole.objectives
  · exact again Spellings.hints (by simp [Spellings.texts]) whole.hints
  · exact again Spellings.stepId (by simp [Spellings.texts]) whole.stepId
  · exact again Spellings.sectionId (by simp [Spellings.texts]) whole.sectionId
  · have found : Spellings.target.find step.payload = some ("ref_target", .text step.target) := by
      rw [find_payload step (by simp [Spellings.multi, Spellings.plain])]
      simp [Spellings.target, lookup_always]
    exact optional_of_find found (by simp) (by rintro _ ⟨⟩; rfl)
  · have found : Spellings.custom.find step.payload =
        some ("custom_data", .pairs step.custom) := by
      rw [find_payload step (by simp [Spellings.multi, Spellings.plain])]
      simp [Spellings.custom, lookup_always]
    exact optional_of_find found (by simp) (by rintro _ ⟨⟩; exact textMapping_eq_ok.2 rfl)

end Step

end Walkthrough
