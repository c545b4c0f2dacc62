import Walkthrough.Proofs.Inspection
import Walkthrough.Proofs.Markers
import Walkthrough.Proofs.Trimming
import Walkthrough.Proofs.Validity
/-!
The key of a rendered control, and the key of the step that is read from it. The control is grouped
by the id without the blanks around it, the step keeps the id as it is written. So the two keys are
equal, and the step finds its own control, if the id has no blanks around it; if it has, there is no
group of that key on any page, and the step is refused.

Main statement: `Control.found_iff_trimmed`.
-/

namespace Walkthrough

/-! The fields that are read from the attributes of a control. -/

section Attributes

variable {row : String × String × Bool} {attributes : List (String × String)}

theorem attributeFields_distinct : ∀ row ∈ attributeFields, ∀ other ∈ attributeFields,
    row.2.1 = other.2.1 → row.1 = other.1 := by
  decide

theorem fieldOfAttribute_of_mem : ∀ row ∈ attributeFields,
    fieldOfAttribute row.1 = some row.2 ∧ dataMark.isPrefixOf row.1.toList = true := by
  decide

theorem mem_of_fieldOfAttribute {name : String} {found : String × Bool}
    (known : fieldOfAttribute name = some found) : (name, found) ∈ attributeFields := by
  obtain ⟨row, listed, rfl⟩ := Option.map_eq_some_iff.1 known
  have same : row.1 = name := by simpa using List.find?_some listed
  rw [← same]
  exact List.mem_of_find?_eq_some listed

theorem fieldsOfAttributes_cons (entry : String × Json) (rest : List (String × Json)) :
    fieldsOfAttributes (entry :: rest) =
      ((fieldOfAttribute entry.1).map fun field => (field.1, entry.2)).toList ++
        fieldsOfAttributes rest := by
  unfold fieldsOfAttributes
  cases known : fieldOfAttribute entry.1 with
  | none =>
      cases isData : isDataAttribute entry <;> simp [isData, known]
  | some field =>
      have isData : isDataAttribute entry = true :=
        (fieldOfAttribute_of_mem _ (mem_of_fieldOfAttribute known)).2
      simp [isData, known]

theorem lookup_fieldsOfAttributes (listed : row ∈ attributeFields)
    (attributes : List (String × String)) :
    Fields.lookup (fieldsOfAttributes (textFields attributes)) row.2.1 =
      (attributeValue attributes row.1).map Json.text := by
  induction attributes with
  | nil => rfl
  | cons entry rest ih =>
      have fields : textFields (entry :: rest) = (entry.1, .text entry.2) :: textFields rest := rfl
      rw [fields, fieldsOfAttributes_cons, Fields.lookup_append, ih]
      by_cases here : entry.1 = row.1
      · simp [here, (fieldOfAttribute_of_mem row listed).1, Fields.lookup_cons, attributeValue]
      · have later : attributeValue (entry :: rest) row.1 = attributeValue rest row.1 := by
          simp [attributeValue, here]
        rw [later]
        cases known : fieldOfAttribute entry.1 with
        | none => simp [Fields.lookup_nil]
        | some field =>
            -- it is the field of one attribute only
            have other : field.1 ≠ row.2.1 := fun same =>
              here (attributeFields_distinct _ (mem_of_fieldOfAttribute known) row listed same)
            simp [Fields.lookup_cons, Fields.lookup_nil, other]

theorem lookup_fieldsOfAttributes_other {name : String}
    (unlisted : ∀ row ∈ attributeFields, row.2.1 ≠ name) (attributes : List (String × Json)) :
    Fields.lookup (fieldsOfAttributes attributes) name = none := by
  induction attributes with
  | nil => rfl
  | cons entry rest ih =>
      rw [fieldsOfAttributes_cons, Fields.lookup_append, ih, Option.or_none]
      cases known : fieldOfAttribute entry.1 with
      | none => rfl
      | some field =>
          have other := unlisted _ (mem_of_fieldOfAttribute known)
          simp [Fields.lookup_cons, Fields.lookup_nil, other]

def controlFields (attributes : List (String × String)) : List (String × Json) :=
  fieldsOfAttributes (textFields attributes) ++
    [("custom_data", .object (customOfAttributes (textFields attributes)))]

theorem given_controlFields (listed : row ∈ attributeFields) {others : List String}
    (unlisted : ∀ other ∈ others, other ≠ "custom_data" ∧ ∀ row ∈ attributeFields, row.2.1 ≠ other)
    (attributes : List (String × String)) :
    Validation.Spelling.given ⟨row.2.1, others⟩ (controlFields attributes) =
      (attributeValue attributes row.1).map Json.text := by
  have named : ∀ row ∈ attributeFields, "custom_data" ≠ row.2.1 := by decide
  have first : Fields.lookup (controlFields attributes) row.2.1 =
      (attributeValue attributes row.1).map Json.text := by
    rw [controlFields, Fields.lookup_append, lookup_fieldsOfAttributes listed, Fields.lookup_cons,
      if_neg (named row listed), Fields.lookup_nil, Option.or_none]
  have rest : ∀ other ∈ others, Fields.lookup (controlFields attributes) other = none := by
    intro other member
    obtain ⟨plain, unlisted⟩ := unlisted other member
    rw [controlFields, Fields.lookup_append, lookup_fieldsOfAttributes_other unlisted,
      Fields.lookup_cons, if_neg plain.symm, Fields.lookup_nil, Option.or_none]
  unfold Validation.Spelling.given Validation.Spelling.find Validation.Spelling.all
  rw [List.findSome?_cons, first]
  cases attributeValue attributes row.1 with
  | none =>
      have none : (others.findSome? fun key =>
          (Fields.lookup (controlFields attributes) key).map fun value => (key, value)) = none := by
        rw [List.findSome?_eq_none_iff]
        intro other member
        rw [rest other member, Option.map_none]
      simp [none]
  | some content => simp

end Attributes

namespace Identity

def trimmed : Identity → Identity
  | ofStep id => .ofStep (Text.trim id)
  | ofSection id => .ofSection (Text.trim id)

theorem trimmed_trimmed (identity : Identity) : identity.trimmed.trimmed = identity.trimmed := by
  cases identity <;> simp [trimmed, Text.trim_trim]

theorem key_ne_empty (identity : Identity) : identity.key ≠ "" := by
  cases identity <;> simp [key]

end Identity

namespace Control

variable {attributes : List (String × String)} {step : Step}

theorem trimmed_of_key? {key : String} (named : key? attributes = some key) :
    ∃ identity : Identity, identity.trimmed = identity ∧ identity.key = key := by
  unfold key? keyOf? at named
  dsimp only at named
  split at named
  · cases named
    exact ⟨(Identity.ofSection _).trimmed, Identity.trimmed_trimmed _, rfl⟩
  · split at named
    · cases named
      exact ⟨(Identity.ofStep _).trimmed, Identity.trimmed_trimmed _, rfl⟩
    · cases named

theorem filled_controlFields {row : String × String × Bool} (listed : row ∈ attributeFields)
    {others : List String} {found : Option String}
    (unlisted : ∀ other ∈ others, other ≠ "custom_data" ∧ ∀ row ∈ attributeFields, row.2.1 ≠ other)
    (told : optionalText ⟨row.2.1, others⟩ (controlFields attributes) = .ok found) :
    found = (attributeValue attributes row.1).filter fun content => !Text.allBlank content := by
  have filled := Validation.optionalText_ok told
  rw [Validation.Spelling.filled, given_controlFields listed unlisted] at filled
  cases given : attributeValue attributes row.1 with
  | none => simpa [given] using filled
  | some content =>
      cases blank : Text.allBlank content <;> cases found <;> simp_all [Option.filter]

theorem trim_of_unfilled {value : Option String}
    (unfilled : (value.filter fun content => !Text.allBlank content) = none) :
    Text.trim (value.getD "") = "" := by
  rw [Text.trim_eq_empty_iff]
  cases value with
  | none => rfl
  | some content => simpa using Option.filter_eq_none_iff.1 unfilled content rfl

theorem trim_of_filled {value : Option String} {id : String}
    (filled : (value.filter fun content => !Text.allBlank content) = some id) :
    Text.trim (value.getD "") = Text.trim id ∧ Text.trim id ≠ "" := by
  obtain ⟨rfl, visible⟩ := Option.filter_eq_some_iff.1 filled
  refine ⟨rfl, ?_⟩
  rw [Ne, Text.trim_eq_empty_iff]
  simpa using visible

theorem key?_of_read (told : Step.ofAttributes attributes = .ok step) :
    key? attributes = some step.identity.trimmed.key := by
  obtain ⟨fields, draft, same, parts, finished⟩ := Step.parts_of_read told
  cases same
  obtain ⟨-, identity, identified, rfl⟩ := Step.Draft.finish_ok finished
  obtain ⟨ofStep, ofSection⟩ := Identity.of_draft identified
  have stepListed : ("data-step-id", "step_id", true) ∈ attributeFields := by decide
  have sectionListed : ("data-section-id", "section_id", true) ∈ attributeFields := by decide
  have byStep := filled_controlFields stepListed (by decide) parts.stepId
  have bySection := filled_controlFields sectionListed (by decide) parts.sectionId
  unfold key? keyOf?
  cases identity with
  | ofStep id =>
      have unfilled := trim_of_unfilled (bySection.symm.trans ofSection)
      have filled := trim_of_filled (byStep.symm.trans ofStep)
      simp only [unfilled, filled]
      simp [filled, Identity.trimmed, Identity.key]
  | ofSection id =>
      have filled := trim_of_filled (bySection.symm.trans ofSection)
      simp only [filled]
      simp [filled, Identity.trimmed, Identity.key]

/-! Finding the control of a step. -/

section Finding

variable {rendering : Rendering} {before after : Records} {trace : List Turn}

/-- On a page whose controls have these attributes: a step that is read from one of them has the key
of that control, and is marked along with it, if its id has no blanks around it. If it has any, the
control has the key without them, and the step is refused although its control is there. -/
theorem found_iff_trimmed (attributesOf : Element → List (String × String)) {control : Element}
    (keyed : ∀ control ∈ rendering.controls,
      rendering.key control = key? (attributesOf control))
    (rendered : control ∈ rendering.controls)
    (told : Step.ofAttributes (attributesOf control) = .ok step) :
    Control.key (textFields (attributesOf control)) = .ok step.identity.trimmed.key ∧
    (step.identity.trimmed.key = step.key ↔ step.identity.trimmed = step.identity) ∧
    ∀ {before trace after result},
      (markCompleted (some step.key)).Held before trace after result →
      (∀ turn ∈ trace, rendering.Steady turn) →
      (step.identity.trimmed = step.identity → control ∈ rendering.group step.key ∧
        result = .ok (rendering.group step.key) ∧
        (⟨.page (.markCompleted (rendering.group step.key)), .ok ()⟩ : Turn) ∈ trace) ∧
      (step.identity.trimmed ≠ step.identity →
        (∃ fault, result = .error fault ∧ Stray step.key fault) ∧
        ∀ turn ∈ trace, turn.asked.looks = true) := by
  have own := key?_of_read told
  refine ⟨by rw [Guide.key_textFields, own],
    ⟨Identity.key_injective, fun same => by rw [same, Step.key]⟩, ?_⟩
  intro before trace after result held steady
  have found := held_markCompleted held steady
  have named : step.key ≠ "" := step.identity.key_ne_empty
  constructor
  · intro same
    have member : control ∈ rendering.group step.key := by
      rw [Rendering.mem_group, keyed control rendered, own, same]
      exact ⟨rendered, rfl⟩
    rcases found with ⟨_, -, -, none⟩ | ⟨_, _, result, -, rfl, -, -⟩
    · rw [(none named).1] at member
      cases member
    · exact ⟨member, result, List.mem_append_right _ List.mem_cons_self⟩
  · intro blanks
    rcases found with ⟨fault, result, looks, none⟩ | ⟨_, _, -, there, -⟩
    · exact ⟨⟨fault, result, (none named).2⟩, looks⟩
    · -- a control of this key would have an id with blanks around it
      obtain ⟨other, member⟩ := List.exists_mem_of_ne_nil _ there
      obtain ⟨listed, named⟩ := Rendering.mem_group.1 member
      rw [keyed other listed] at named
      obtain ⟨identity, trimmed, same⟩ := trimmed_of_key? named
      rw [Identity.key_injective same] at trimmed
      exact absurd trimmed blanks

end Finding

def smudgedSignpost : List (String × String) :=
  [("data-targetaction", "navigate"), ("data-reftarget", "/detour"), ("data-requirements", ""),
    ("data-step-id", " detour ")]

def smudgedDetour : Step :=
  { detour with identity := .ofStep " detour ", custom := [("step-id", " detour ")] }

def smudged : Scene :=
  { roadside with
    page
      | .attributes _ => .ok smudgedSignpost
      | call => roadside.page call }

theorem steady_of_smudged {trace : List Turn} (known : ∀ turn ∈ trace, smudged.Gave turn) :
    ∀ turn ∈ trace, Guide.roadway.Steady turn :=
  Guide.steady_of_posted rfl (fun _ _ => rfl) (fun _ => ⟨smudgedSignpost, rfl, by decide⟩)
    (fun _ => rfl) (fun _ => rfl) (fun _ _ => rfl) rfl known

/-- The control is on the page, and its step is refused. -/
theorem smudged_stray :
    Step.ofAttributes smudgedSignpost = .ok smudgedDetour ∧
    Control.key (textFields smudgedSignpost) = .ok "step-detour" ∧
    smudgedDetour.key = "step- detour " ∧
    ∃ trace after fault, (markCompleted (some smudgedDetour.key)).Held ⟨[], []⟩ trace after
      (.error fault) ∧ Stray smudgedDetour.key fault := by
  have told : Step.ofAttributes smudgedSignpost = .ok smudgedDetour := by rfl
  have keyed : ∀ control ∈ Guide.roadway.controls,
      Guide.roadway.key control = key? smudgedSignpost := by decide
  have rendered : 0 ∈ Guide.roadway.controls := by decide
  obtain ⟨own, -, finds⟩ :=
    found_iff_trimmed (fun _ => smudgedSignpost) keyed rendered told
  obtain ⟨trace, held, known⟩ := smudged.held (markCompleted (some smudgedDetour.key)) ⟨[], []⟩
  have blanks : smudgedDetour.identity.trimmed ≠ smudgedDetour.identity := by decide
  obtain ⟨⟨fault, result, stray⟩, -⟩ := (finds held (steady_of_smudged known)).2 blanks
  rw [result] at held
  exact ⟨told, own, rfl, trace, _, fault, held, stray⟩

end Control

end Walkthrough
