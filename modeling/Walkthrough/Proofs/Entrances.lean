import Walkthrough.Proofs.Incidents
import Walkthrough.Proofs.Respelling
/-!
The two entrances of multi-steps. A multi-step may be given as the step of a trigger, or as the body
of a request of its own, that need not name the action. For this the action is put below the given
fields, under the name of its field; so the entrances read an object alike if it has the action
under that name, and under any other spelling the second entrance refuses it.

Main statement: `Service.multistep_entered`.
-/

namespace Walkthrough

open Validation

/-! Objects that have almost the same fields. -/

namespace Validation

variable {α : Type} {spelling : Spelling} {fields others : List (String × Json)}

theorem Spelling.find_congr
    (same : ∀ key ∈ spelling.all, Fields.lookup others key = Fields.lookup fields key) :
    spelling.find others = spelling.find fields := by
  unfold Spelling.find
  rw [← List.head?_filterMap, ← List.head?_filterMap]
  refine congrArg List.head? (List.filterMap_congr fun key spelled => ?_)
  rw [same key spelled]

theorem required_congr {read : String → Json → Checked α} {found : α}
    (same : spelling.find others = spelling.find fields)
    (told : required spelling read fields = .ok found) :
    required spelling read others = .ok found := by
  rw [required_eq_ok] at told ⊢
  rwa [same]

theorem optional_congr {read : String → Json → Checked α} {default : α}
    (same : spelling.find others = spelling.find fields) :
    optional spelling default read others = optional spelling default read fields := by
  unfold optional
  rw [same]

end Validation

namespace Step.Draft

variable {fields others : List (String × Json)} {model : Model} {draft : Draft}

theorem Whole.congr (whole : Whole model fields draft)
    (action : required Spellings.action (scalar readAction) others = .ok draft.action)
    (same : ∀ spelling ∈ model.spellings, spelling.name ≠ Spellings.action.name →
      spelling.find others = spelling.find fields) : Whole model others draft := by
  have body : readBody model others = .ok draft.body := by
    have told := whole.body
    cases model with
    | plain => exact told
    | multi =>
        obtain ⟨_, delay, acting, delayed, build⟩ := also_eq_ok.1 told
        obtain ⟨_, actions, built, acts, rfl⟩ := also_eq_ok.1 acting
        have listed : Spellings.actions ∈ Spellings.multi ∧ Spellings.delay ∈ Spellings.multi := by
          simp [Spellings.multi]
        exact also_eq_ok.2 ⟨_, delay, also_eq_ok.2 ⟨_, actions, built,
          required_congr (same _ listed.1 (by decide)) acts, rfl⟩,
          (optional_congr (same _ listed.2 (by decide))).trans delayed, build⟩
  have plain : ∀ spelling ∈ Spellings.plain, spelling ∈ model.spellings := by
    cases model with
    | plain => exact fun _ listed => listed
    | multi => exact fun _ listed => List.mem_append_left _ listed
  simp only [Spellings.plain, List.forall_mem_cons] at plain
  obtain ⟨-, target, value, requirements, objectives, hints, stepId, sectionId, custom, -⟩ := plain
  exact ⟨⟨action,
    (optional_congr (same _ value (by decide))).trans whole.value,
    (optional_congr (same _ requirements (by decide))).trans whole.requirements,
    (optional_congr (same _ objectives (by decide))).trans whole.objectives,
    (optional_congr (same _ hints (by decide))).trans whole.hints,
    (optional_congr (same _ stepId (by decide))).trans whole.stepId,
    (optional_congr (same _ sectionId (by decide))).trans whole.sectionId, body⟩,
    (optional_congr (same _ target (by decide))).trans whole.target,
    (optional_congr (same _ custom (by decide))).trans whole.custom⟩

end Step.Draft

/-! The body of a multi-step. -/

namespace Service

variable {fields : List (String × Json)} {step : Step} {key : String}

theorem lookup_multistepFields (distinct : (Fields.names fields).Nodup) (name : String) :
    Fields.lookup (multistepFields fields) name = (Fields.lookup fields name).or
      (if "target_action" = name then some (.text "multistep") else none) := by
  rw [multistepFields, Fields.lookup_foldl_assign distinct, Fields.lookup_cons, Fields.lookup_nil]
  rfl

theorem eq_action {spelling : Spelling} (listed : spelling ∈ Spellings.multi)
    (spelled : "target_action" ∈ spelling.all) : spelling = Spellings.action :=
  Spellings.distinct spelling listed Spellings.action (by simp [Spellings.multi, Spellings.plain])
    "target_action" spelled (by decide)

theorem eq_action_of_name {spelling : Spelling} (listed : spelling ∈ Spellings.multi)
    (acts : spelling.name = Spellings.action.name) : spelling = Spellings.action :=
  eq_action listed (List.mem_cons.2 (.inl acts.symm))

theorem find_multistepFields (distinct : (Fields.names fields).Nodup) {spelling : Spelling}
    (listed : spelling ∈ Spellings.multi) (other : spelling.name ≠ Spellings.action.name) :
    spelling.find (multistepFields fields) = spelling.find fields := by
  refine Spelling.find_congr fun key spelled => ?_
  have unspelled : "target_action" ≠ key := by
    rintro rfl
    exact other (congrArg Spelling.name (eq_action listed spelled))
  rw [lookup_multistepFields distinct, if_neg unspelled, Option.or_none]

theorem findAction_multistepFields (distinct : (Fields.names fields).Nodup)
    (found : Spellings.action.find fields = some (key, .text "multistep")) :
    Spellings.action.find (multistepFields fields) =
      some ("target_action", .text "multistep") := by
  have there : Fields.lookup (multistepFields fields) "target_action" =
      some (.text "multistep") := by
    rw [lookup_multistepFields distinct, if_pos rfl]
    cases given : Fields.lookup fields "target_action" with
    | none => rfl
    | some value =>
        simp only [Spelling.find, Spelling.all, Spellings.action, List.findSome?_cons, given,
          Option.map_some, Option.some.injEq, Prod.mk.injEq] at found
        rw [found.2]
        rfl
  simp [Spelling.find, Spelling.all, Spellings.action, there]

theorem whole_multistepFields (distinct : (Fields.names fields).Nodup)
    (found : Spellings.action.find fields = some (key, .text "multistep"))
    (whole : Step.Draft.Whole .multi fields step.draft) (multi : step.action = .multistep) :
    Step.Draft.Whole .multi (multistepFields fields) step.draft := by
  refine whole.congr ?_ fun spelling listed other => find_multistepFields distinct listed other
  refine required_eq_ok.2 ⟨_, findAction_multistepFields distinct found, ?_⟩
  have acts : step.draft.action = .multistep := multi
  rw [acts]
  exact located_eq_ok.2 (readAction_eq_ok.2 rfl)

/-- With the action under the name of its field, the body has no other keys than the object. -/
theorem known_multistepFields (distinct : (Fields.names fields).Nodup)
    (found : Spellings.action.find fields = some ("target_action", .text "multistep"))
    (known : unknownKeys Spellings.multi fields = .ok ()) :
    unknownKeys Spellings.multi (multistepFields fields) = .ok () := by
  have named : "target_action" ∈ Fields.names fields :=
    List.mem_map_of_mem (Spelling.mem_uses.1 (Spelling.mem_uses_of_find found)).1
  rw [unknownKeys_eq_ok] at known ⊢
  intro entry member
  have there : entry.1 ∈ Fields.names fields := by
    by_contra absent
    have other : "target_action" ≠ entry.1 := fun same => absent (same ▸ named)
    have gone := lookup_multistepFields distinct entry.1
    rw [Fields.lookup_eq_none_iff.2 absent, if_neg other] at gone
    exact Fields.lookup_eq_none_iff.1 gone (List.mem_map_of_mem member)
  obtain ⟨given, inside, same⟩ := List.mem_map.1 there
  obtain ⟨spelling, listed, used⟩ := known given inside
  refine ⟨spelling, listed, ?_⟩
  rw [← same, ← used]
  by_cases acts : spelling.name = Spellings.action.name
  · obtain rfl := eq_action_of_name listed acts
    rw [findAction_multistepFields distinct found, found]
  · rw [find_multistepFields distinct listed acts]

section Renamed

variable (distinct : (Fields.names fields).Nodup)
  (found : Spellings.action.find fields = some (key, .text "multistep"))
  (other : key ≠ "target_action")
include distinct found other

theorem multistepFields_of_renamed :
    multistepFields fields = ("target_action", .text "multistep") :: fields := by
  have absent : Fields.lookup fields "target_action" = none := by
    cases given : Fields.lookup fields "target_action" with
    | none => rfl
    | some value =>
        simp only [Spelling.find, Spelling.all, Spellings.action, List.findSome?_cons, given,
          Option.map_some, Option.some.injEq, Prod.mk.injEq] at found
        exact absurd found.1.symm other
  exact Fields.foldl_assign_of_nodup
    (List.nodup_cons.2 ⟨Fields.lookup_eq_none_iff.1 absent, distinct⟩)

theorem used_of_renamed (known : unknownKeys Spellings.multi fields = .ok ())
    {entry : String × Json} (member : entry ∈ multistepFields fields) :
    (∃ spelling ∈ Spellings.multi,
      (spelling.find (multistepFields fields)).map Prod.fst = some entry.1) ↔ entry.1 ≠ key := by
  have acts := findAction_multistepFields distinct found
  constructor
  · rintro ⟨spelling, listed, used⟩ rfl
    by_cases named : spelling.name = Spellings.action.name
    · obtain rfl := eq_action_of_name listed named
      rw [acts, Option.map_some, Option.some.injEq] at used
      exact other used.symm
    · rw [find_multistepFields distinct listed named] at used
      obtain ⟨given, there, same⟩ := Option.map_eq_some_iff.1 used
      have spelled := (Spelling.mem_uses.1 (Spelling.mem_uses_of_find there)).2
      have own := (Spelling.mem_uses.1 (Spelling.mem_uses_of_find found)).2
      rw [same] at spelled
      obtain rfl := Spellings.distinct spelling listed Spellings.action
        (by simp [Spellings.multi, Spellings.plain]) _ spelled own
      exact named rfl
  · intro different
    rw [multistepFields_of_renamed distinct found other, List.mem_cons] at member
    rcases member with rfl | given
    · exact ⟨Spellings.action, by simp [Spellings.multi, Spellings.plain], by rw [acts]; rfl⟩
    · obtain ⟨spelling, listed, used⟩ := unknownKeys_eq_ok.1 known entry given
      refine ⟨spelling, listed, ?_⟩
      by_cases named : spelling.name = Spellings.action.name
      · obtain rfl := eq_action_of_name listed named
        rw [found, Option.map_some, Option.some.injEq] at used
        exact absurd used.symm different
      · rw [find_multistepFields distinct listed named, used]

theorem unknown_of_renamed (known : unknownKeys Spellings.multi fields = .ok ()) :
    unknownKeys Spellings.multi (multistepFields fields) =
      .error [⟨[.field key], .unknownField, .text "multistep"⟩] := by
  have unused : ((multistepFields fields).filter fun field =>
      !(Spellings.multi.filterMap fun spelling =>
        (spelling.find (multistepFields fields)).map Prod.fst).contains field.1) =
      [(key, .text "multistep")] := by
    have merged := multistepFields_of_renamed distinct found other
    have member := (Spelling.mem_uses.1 (Spelling.mem_uses_of_find found)).1
    have fresh : (Fields.names (multistepFields fields)).Nodup :=
      Fields.nodup_names_foldl_assign (by simp [Fields.names])
    rw [← Fields.filter_name fresh (merged ▸ List.mem_cons_of_mem _ member)]
    refine List.filter_congr fun entry there => ?_
    have used := used_of_renamed distinct found other known there
    rw [Bool.eq_iff_iff]
    simp only [Bool.not_eq_true', List.contains_eq_mem, decide_eq_false_iff_not,
      List.mem_filterMap, used, not_not, beq_iff_eq]
  unfold unknownKeys
  dsimp only
  rw [unused]
  rfl

end Renamed

/-! The two entrances. -/

def running (step : Step) : Run Response := do
  return respondWith 200 (← Guide.trigger step .commit).report

def refusing (key : String) (value : Json) : Run Response :=
  pure (respondWith 400 [("error", .text "invalid multi-step"),
    ("details", .list [Issue.report ⟨[.field key], .unknownField, value⟩])])

theorem trigger_of_read (told : Registry.standard.read (.object fields) = .ok step) (id : String) :
    trigger id [("step", .object fields)] = running step := by
  have stepped : stepOf id [("step", .object fields)] = pure step := by
    simp only [stepOf, Fields.lookup_cons, if_pos, told]
  have pressed : given [("step", .object fields)] "button_type" Mode.commit.name =
      Mode.commit.name := rfl
  have commits : Mode.ofName? (Text.lower (Text.trim Mode.commit.name)) = some .commit := by
    decide +kernel
  unfold trigger
  simp only [pressed, commits, stepped]
  rfl

theorem runMultistep_of_read
    (read : Step.read .multi (.object (multistepFields fields)) = .ok step) :
    runMultistep fields = running step := by
  unfold runMultistep
  unfold multistepFields at read
  dsimp only
  rw [read]
  rfl

/-- A multi-step that is read as a step is run alike at both entrances if it has its action under
the name of the field. If it has its action under another spelling, it is run as a step; as the body
of a request it is refused for the key of its action, and nothing is run. -/
theorem multistep_entered (distinct : (Fields.names fields).Nodup)
    (told : Registry.standard.read (.object fields) = .ok step) (multi : step.model = .multi)
    (id : String) :
    trigger id [("step", .object fields)] = running step ∧
    ∃ key, Spellings.action.find fields = some (key, .text "multistep") ∧
      runMultistep fields =
        if key = "target_action" then running step else refusing key (.text "multistep") := by
  refine ⟨trigger_of_read told id, ?_⟩
  obtain ⟨_, entry, ⟨⟩, got, read⟩ := Registry.read_ok told
  obtain ⟨_, draft, ⟨⟩, parts, finished⟩ := Step.parts_of_read read
  have model : entry.model = .multi :=
    (Registry.shaped_of_parts parts finished).2.symm.trans multi
  rw [model, Step.read_eq_ok] at read
  obtain ⟨whole, known, accepts⟩ := read
  have action : step.action = .multistep := by simpa [Step.Model.accepts] using accepts
  have found : ∃ key, Spellings.action.find fields = some (key, .text "multistep") := by
    obtain ⟨key, value, there, reads⟩ := required_ok whole.action
    rw [readAction_eq_ok.1 reads] at there
    have acts : step.draft.action = .multistep := action
    exact ⟨key, by rw [there, acts]; rfl⟩
  obtain ⟨key, found⟩ := found
  refine ⟨key, found, ?_⟩
  have whole := whole_multistepFields distinct found whole action
  by_cases named : key = "target_action"
  · subst named
    have read : Step.read .multi (.object (multistepFields fields)) = .ok step :=
      Step.read_eq_ok.2 ⟨whole, known_multistepFields distinct found known, accepts⟩
    rw [if_pos rfl, runMultistep_of_read read]
  · have invalid : Step.read .multi (.object (multistepFields fields)) =
        .error ⟨Step.Model.multi.name, [⟨[.field key], .unknownField, .text "multistep"⟩]⟩ := by
      have unread := Step.Draft.readFields_of_whole whole
      rw [Step.Model.spellings, unknown_of_renamed distinct found named known] at unread
      simp only [Step.read, Step.readChecked, unread, Except.map]
    rw [if_neg named, runMultistep_of_invalid invalid]
    rfl

def errand : List (String × Json) :=
  [("targetAction", .text "multistep"), ("stepId", .text "errand"), ("internalActions", .list
    [.object [("targetAction", .text "navigate"), ("refTarget", .text "/explore")]])]

def errandStep : Step where
  action := .multistep
  target := ""
  value := none
  requirements := none
  objectives := none
  hints := none
  identity := .ofStep "errand"
  custom := []
  body := .multiple [⟨.navigate, "/explore", none, none⟩] none

/-- The multi-step is run as a step, and refused as a body. -/
theorem errand_refused :
    (Fields.names errand).Nodup ∧ Registry.standard.read (.object errand) = .ok errandStep ∧
      errandStep.model = .multi ∧ trigger "errand" [("step", .object errand)] = running errandStep ∧
      ∃ key, Spellings.action.find errand = some (key, .text "multistep") ∧
        key ≠ "target_action" ∧ runMultistep errand = refusing key (.text "multistep") := by
  have distinct : (Fields.names errand).Nodup := by decide
  have told : Registry.standard.read (.object errand) = .ok errandStep := rfl
  obtain ⟨run, key, found, entered⟩ := multistep_entered distinct told rfl "errand"
  have camel : key = "targetAction" := by
    cases found
    rfl
  have other : key ≠ "target_action" := by
    rw [camel]
    decide
  rw [if_neg other] at entered
  exact ⟨distinct, told, rfl, run, key, found, other, entered⟩

end Service

end Walkthrough
