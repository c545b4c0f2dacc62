import Walkthrough.Proofs.Assessing
import Walkthrough.Proofs.Labels
/-!
What becomes of an action on elements. Its target is looked for first, and meanwhile the page is
only inspected. If the search fails, so does the action, and if nothing is found it fails with a
message of its own; in neither case is an element touched. Otherwise the elements are touched one
after the other, up to the first one where that fails. The check that the target of an action exists
makes the same search, so on a page that reads the same it foretells which way the action takes.
Main statements: `existence_foretells_touch` and `buttons_touched_by_label`.
-/

namespace Walkthrough

open Run

/-- The element that is to be clicked, highlighted or filled. -/
def Request.touches? : Request → Option Element
  | .page (.click element) | .page (.highlight element _) | .page (.setValue element _) =>
      some element
  | _ => none

def touched (trace : List Turn) : List Element :=
  trace.filterMap (·.asked.touches?)

theorem touched_append (first second : List Turn) :
    touched (first ++ second) = touched first ++ touched second :=
  List.filterMap_append

theorem touched_of_inspects {trace : List Turn}
    (inspects : ∀ turn ∈ trace, turn.asked.inspects = true) : touched trace = [] := by
  rw [touched, List.filterMap_eq_nil_iff]
  rintro ⟨asked, reply⟩ member
  have looks := inspects _ member
  cases asked with
  | page call =>
      cases call with
      | click | highlight | setValue => cases looks
      | _ => rfl
  | _ => rfl

def Action.seeks : Action → Bool
  | .highlight | .button | .formfill => true
  | .navigate | .sequence | .multistep => false

theorem Action.name_eq_button_iff {action : Action} :
    action.name = Action.button.name ↔ action = .button := by
  cases action <;> decide

namespace Command

variable {command : Command} {action : Action} {target : String} {before after : Records}
  {trace : List Turn}

/-! The search. -/

def search (action : Action) (target : String) : Run (List Element) :=
  if action = .button then buttonsLabelled target
  else Resolution.elements <$> Selector.resolve target none

theorem search_inspects (action : Action) (target : String) :
    (search action target).Asks (·.inspects) := by
  unfold search
  split
  · exact buttonsLabelled_inspects target
  · exact asks_map _ (Selector.resolve_inspects target none)

theorem search_of_labels {result : Except Fault (List Element)}
    (held : (buttonsLabelled target).Held before trace after result) :
    (search .button target).Held before trace after result := by
  rwa [search, if_pos rfl]

theorem search_of_resolution (other : action ≠ .button) {resolution : Resolution}
    (held : (Selector.resolve target none).Held before trace after (.ok resolution)) :
    (search action target).Held before trace after (.ok resolution.elements) := by
  rw [search, if_neg other]
  exact held_map.2 ⟨.ok resolution, held, rfl⟩

/-- The fault says that nothing was found. -/
inductive Misses : Action → String → Fault → Prop where
  | button (label : String) :
      Misses .button label (.guide (.action
        ("No buttons found containing text: \"" ++ label ++ "\"") [("locator", .text label)]))
  | element {action : Action} {resolution : Resolution} (other : action ≠ .button)
      (nothing : resolution.elements = []) :
      Misses action resolution.selector (.guide (.action
        ("No elements found matching selector: " ++ resolution.selector)
        (("action", .text action.name) :: resolution.report)))

/-- What an action takes from its search: at least one element. -/
inductive Secured (action : Action) (target : String) :
    Except Fault (List Element) → Except Fault (List Element) → Prop where
  | broken (fault : Fault) : Secured action target (.error fault) (.error fault)
  | missed {fault : Fault} (misses : Misses action target fault) :
      Secured action target (.ok []) (.error fault)
  | found (first : Element) (rest : List Element) :
      Secured action target (.ok (first :: rest)) (.ok (first :: rest))

def secure (action : Action) (target : String) : Run (List Element) :=
  if action = .button then labelled target else found action target

theorem secured_of_found (other : action ≠ .button) {result : Except Fault (List Element)}
    (held : (found action target).Held before trace after result) :
    after = before ∧ ∃ outcome, (search action target).Held before trace before outcome ∧
      Secured action target outcome result := by
  rcases held_bind.1 held with ⟨resolution, first, _, rest, resolves, checked, rfl⟩ | ⟨_, failed, rfl⟩
  · obtain ⟨rfl, _, same, resolved⟩ := Selector.resolved_of_held resolves
    cases same
    obtain ⟨_, _, -, authoritative⟩ := resolved.authoritative
    obtain rfl := authoritative.selector_eq
    have searched := search_of_resolution other resolves
    split at checked
    · next empty =>
        obtain ⟨rfl, rfl, rfl⟩ := held_throw.1 checked
        rw [List.isEmpty_iff] at empty
        rw [empty] at searched
        rw [List.append_nil]
        exact ⟨rfl, _, searched, .missed (.element other empty)⟩
    · next filled =>
        obtain ⟨rfl, rfl, rfl⟩ := held_pure.1 checked
        obtain ⟨one, others, elements⟩ :=
          List.exists_cons_of_ne_nil (mt List.isEmpty_iff.2 filled)
        rw [elements] at searched ⊢
        rw [List.append_nil]
        exact ⟨rfl, _, searched, .found one others⟩
  · obtain ⟨-, _, same, -⟩ := Selector.resolved_of_held failed
    cases same

theorem secured_of_labelled {result : Except Fault (List Element)}
    (held : (labelled target).Held before trace after result) :
    after = before ∧ ∃ outcome, (search .button target).Held before trace before outcome ∧
      Secured .button target outcome result := by
  rcases held_bind.1 held with ⟨buttons, first, _, rest, scans, checked, rfl⟩ | ⟨fault, failed, rfl⟩
  · obtain rfl := scans.looked (buttonsLabelled_looks _)
    split at checked
    · next empty =>
        obtain ⟨rfl, rfl, rfl⟩ := held_throw.1 checked
        obtain rfl := List.isEmpty_iff.1 empty
        rw [List.append_nil]
        exact ⟨rfl, _, search_of_labels scans, .missed (.button target)⟩
    · next filled =>
        obtain ⟨rfl, rfl, rfl⟩ := held_pure.1 checked
        obtain ⟨one, others, rfl⟩ := List.exists_cons_of_ne_nil (mt List.isEmpty_iff.2 filled)
        rw [List.append_nil]
        exact ⟨rfl, _, search_of_labels scans, .found one others⟩
  · obtain rfl := failed.looked (buttonsLabelled_looks _)
    exact ⟨rfl, _, search_of_labels failed, .broken fault⟩

theorem secured_of_held {result : Except Fault (List Element)}
    (held : (secure action target).Held before trace after result) :
    after = before ∧ ∃ outcome, (search action target).Held before trace before outcome ∧
      Secured action target outcome result := by
  unfold secure at held
  split at held
  · next button =>
      subst button
      exact secured_of_labelled held
  · next other => exact secured_of_found other held

/-! Touching what is found. -/

theorem touched_of_touch {mode : Mode} {element : Element} {result : Except Fault Unit}
    (held : (touch mode element).Held before trace after result) : touched trace = [element] := by
  cases mode with
  | preview =>
      obtain ⟨_, _, shows, rfl⟩ := held_settings_bind.1 held
      obtain ⟨rfl, -⟩ := held_page.1 shows
      rfl
  | commit =>
      obtain ⟨rfl, -⟩ := held_page.1 held
      rfl

/-- Elements are touched in order, at least the first one, and all of them unless that fails. -/
structure Touches (elements : List Element) (trace : List Turn) (whole : Prop) : Prop where
  within : touched trace <+: elements
  some : elements ≠ [] → touched trace ≠ []
  all : whole → touched trace = elements

theorem touches_one {element : Element} {whole : Prop} (one : touched trace = [element]) :
    Touches [element] trace whole where
  within := one ▸ List.prefix_rfl
  some _ := by simp [one]
  all _ := one

theorem touches_none {whole : Prop} : Touches [] [] whole :=
  ⟨List.nil_prefix, fun filled => filled, fun _ => rfl⟩

theorem touched_of_page_bind {α : Type} {call : PageCall} {next : call.Answer → Run α}
    {result : Except Fault α}
    (quiet : ∀ {reply before trace after result}, (next reply).Held before trace after result →
      touched trace = [])
    (held : (page call >>= next).Held before trace after result) :
    touched trace = (Request.page call).touches?.toList := by
  have single (reply : Except Fault call.Answer) :
      touched [⟨.page call, reply⟩] = (Request.page call).touches?.toList := by
    unfold touched
    cases touches : (Request.page call).touches? with
    | none => exact List.filterMap_cons_none touches
    | some element => exact List.filterMap_cons_some touches
  rcases held_bind.1 held with ⟨_, first, _, rest, asks, tail, rfl⟩ | ⟨fault, failed, -⟩
  · obtain ⟨rfl, -⟩ := held_page.1 asks
    rw [touched_append, quiet tail, List.append_nil, single]
  · obtain ⟨rfl, -⟩ := held_page.1 failed
    exact single _

theorem touched_of_pure {α : Type} {value : α} {result : Except Fault α}
    (held : (pure value : Run α).Held before trace after result) : touched trace = [] := by
  obtain ⟨rfl, -, -⟩ := held_pure.1 held
  rfl

theorem touches_of_touchAll {mode : Mode} {elements : List Element} {result : Except Fault Unit}
    (held : (touchAll mode elements).Held before trace after result) :
    Touches elements trace (result = .ok ()) := by
  -- an element is touched whether or not that succeeds, the ones behind it only if it does
  induction elements generalizing before trace with
  | nil =>
      obtain ⟨rfl, -, -⟩ := held_pure.1 held
      exact touches_none
  | cons element rest ih =>
      rcases held_bind.1 held with ⟨_, first, _, later, here, tail, rfl⟩ | ⟨_, failed, rfl⟩
      · have one := touched_of_touch here
        have others := ih tail
        constructor
        · rw [touched_append, one]
          exact (List.prefix_cons_inj element).2 others.within
        · intro _
          simp [touched_append, one]
        · intro whole
          rw [touched_append, one, others.all whole]
          rfl
      · have one := touched_of_touch failed
        refine ⟨?_, ?_, fun whole => ?_⟩
        · rw [one]
          exact List.prefix_append [element] rest
        · simp [one]
        · cases whole

def reach (action : Action) (elements : List Element) : List Element :=
  if action = .formfill then elements.take 1 else elements

def pursue (command : Command) (elements : List Element) : Run Performance :=
  if command.action = .formfill then
    match elements with
    | [] => return ⟨.formfill, command.mode, command.target, 0, []⟩
    | element :: _ =>
        match command.mode with
        | .preview => do
            preview element
            return ⟨.formfill, command.mode, command.target, 1, []⟩
        | .commit => do
            let tag ← page (.setValue element (command.value.getD ""))
            let events ← page (.formEvents element tag)
            return ⟨.formfill, command.mode, command.target, 1,
              [("tag", .text tag), ("events", .texts events)]⟩
  else do
    touchAll command.mode elements
    return ⟨command.action, command.mode, command.target, elements.length, []⟩

theorem carryOut_eq (seeks : command.action.seeks = true) :
    command.carryOut = secure command.action command.target >>= command.pursue := by
  obtain ⟨action, target, value, mode⟩ := command
  cases action with
  | highlight | button => rfl
  | formfill =>
      change fill mode target (value.getD "") = _
      unfold fill secure pursue
      cases mode <;> rfl
  | navigate | sequence | multistep => cases seeks

theorem touches_of_pursue {elements : List Element} {result : Except Fault Performance}
    (held : (command.pursue elements).Held before trace after result) :
    Touches (reach command.action elements) trace (∃ performance, result = .ok performance) := by
  unfold pursue at held
  unfold reach
  split at held
  · next fills =>
      rw [if_pos fills]
      cases elements with
      | nil =>
          obtain ⟨rfl, -, -⟩ := held_pure.1 held
          exact touches_none
      | cons element rest =>
          apply touches_one
          cases mode : command.mode with
          | preview =>
              simp only [mode, preview, bind_assoc] at held
              obtain ⟨_, _, shows, rfl⟩ := held_settings_bind.1 held
              exact touched_of_page_bind touched_of_pure shows
          | commit =>
              simp only [mode] at held
              exact touched_of_page_bind (touched_of_page_bind touched_of_pure) held
  · next other =>
      rw [if_neg other]
      rcases held_bind.1 held with ⟨_, first, _, last, touches, ends, rfl⟩ | ⟨fault, failed, rfl⟩
      · obtain ⟨rfl, -, rfl⟩ := held_pure.1 ends
        obtain ⟨within, some, all⟩ := touches_of_touchAll touches
        rw [List.append_nil]
        exact ⟨within, some, fun _ => all rfl⟩
      · obtain ⟨within, some, -⟩ := touches_of_touchAll failed
        refine ⟨within, some, fun whole => ?_⟩
        obtain ⟨_, same⟩ := whole
        cases same

/-! The whole action. -/

/-- What becomes of an action, in view of what its search has come to. -/
inductive Pursued (command : Command) :
    Except Fault (List Element) → List Turn → Except Fault Performance → Prop where
  | broken (fault : Fault) : Pursued command (.error fault) [] (.error fault)
  | missed {fault : Fault} (misses : Misses command.action command.target fault) :
      Pursued command (.ok []) [] (.error fault)
  | carried {first : Element} {rest : List Element} {acting : List Turn}
      {result : Except Fault Performance}
      (touches : Touches (reach command.action (first :: rest)) acting
        (∃ performance, result = .ok performance)) :
      Pursued command (.ok (first :: rest)) acting result

theorem pursued_of_held (seeks : command.action.seeks = true) {result : Except Fault Performance}
    (held : command.perform.Held before trace after result) :
    ∃ searching acting outcome, trace = ⟨.announce command, ()⟩ :: (searching ++ acting) ∧
      (search command.action command.target).Held before searching before outcome ∧
      Pursued command outcome acting result := by
  obtain ⟨_, middle, rest, answered, tail, rfl⟩ := held_ask_bind.1 held
  obtain rfl : middle = before := answered
  rw [carryOut_eq seeks] at tail
  rcases held_bind.1 tail with ⟨elements, first, _, last, secures, acts, rfl⟩ | ⟨fault, failed, rfl⟩
  · obtain ⟨rfl, outcome, searched, secured⟩ := secured_of_held secures
    cases secured with
    | found one others => exact ⟨first, last, _, rfl, searched, .carried (touches_of_pursue acts)⟩
  · obtain ⟨-, outcome, searched, secured⟩ := secured_of_held failed
    rw [← List.append_nil rest]
    cases secured with
    | broken => exact ⟨rest, [], _, rfl, searched, .broken fault⟩
    | missed misses => exact ⟨rest, [], _, rfl, searched, .missed misses⟩

theorem reach_ne_nil (action : Action) (first : Element) (rest : List Element) :
    reach action (first :: rest) ≠ [] := by
  unfold reach
  split
  · exact List.cons_ne_nil first []
  · exact List.cons_ne_nil first rest

theorem Pursued.touched_iff {outcome : Except Fault (List Element)} {acting : List Turn}
    {result : Except Fault Performance} (pursued : Pursued command outcome acting result) :
    touched acting ≠ [] ↔ ∃ elements, outcome = .ok elements ∧ elements ≠ [] := by
  cases pursued with
  | broken =>
      constructor
      · exact fun some => absurd rfl some
      · rintro ⟨_, same, -⟩
        cases same
  | missed =>
      constructor
      · exact fun some => absurd rfl some
      · rintro ⟨_, same, filled⟩
        cases same
        exact absurd rfl filled
  | carried touches =>
      constructor
      · exact fun _ => ⟨_, rfl, List.cons_ne_nil _ _⟩
      · exact fun _ => touches.some (reach_ne_nil _ _ _)

end Command

namespace Requirement

open Command

variable {action : Action} {target : String} {before after : Records} {trace : List Turn}

/-- The check that a target exists makes the search of the action, and passes if it finds an
element. -/
theorem searched_of_targetExists {raw : String} {result : Except Fault Verdict}
    (held : (targetExists raw ⟨action.name, target⟩).Held before trace after result) :
    ∃ outcome, (search action target).Held before trace after outcome ∧
      ((Verdict.ofOutcome raw result).passed = true ↔
        ∃ elements, outcome = .ok elements ∧ elements ≠ []) := by
  unfold targetExists at held
  split at held
  · next named =>
      obtain rfl := Action.name_eq_button_iff.1 named
      rcases held_bind.1 held with ⟨buttons, first, _, rest, scans, ends, rfl⟩ | ⟨fault, failed, rfl⟩
      · obtain ⟨rfl, rfl, rfl⟩ := held_pure.1 ends
        rw [List.append_nil]
        refine ⟨_, search_of_labels scans, ?_⟩
        cases buttons with
        | nil => simp [Verdict.ofOutcome, verdictOf, Verdict.failed]
        | cons => simp [Verdict.ofOutcome, verdictOf, Verdict.ok]
      · refine ⟨_, search_of_labels failed, ?_⟩
        simp [Verdict.ofOutcome, Verdict.broken, Verdict.failed]
  · next other =>
      have other : action ≠ .button := fun button => other (Action.name_eq_button_iff.2 button)
      rcases held_bind.1 held with ⟨resolution, first, _, rest, resolves, ends, rfl⟩ | ⟨fault, failed, rfl⟩
      · obtain ⟨rfl, rfl, rfl⟩ := held_pure.1 ends
        rw [List.append_nil]
        refine ⟨_, search_of_resolution other resolves, ?_⟩
        cases elements : resolution.elements with
        | nil => simp [Verdict.ofOutcome, Verdict.failed]
        | cons => simp [Verdict.ofOutcome, Verdict.ok]
      · obtain ⟨-, _, same, -⟩ := Selector.resolved_of_held failed
        cases same

theorem parseAll_existsTarget :
    parseAll "exists-reftarget" = [⟨.existsTarget, "exists-reftarget", ""⟩] := by
  decide

theorem searched_of_evaluate {assessed : Except Fault Assessment}
    (held : (evaluate (some "exists-reftarget") ⟨action.name, target⟩).Held before trace after
      assessed) :
    ∃ assessment start searching ending outcome, assessed = .ok assessment ∧
      searching <:+: trace ∧ (search action target).Held start searching ending outcome ∧
      (assessment.passed = true ↔ ∃ elements, outcome = .ok elements ∧ elements ≠ []) := by
  obtain ⟨-, assessment, rfl, known⟩ := assessed_of_evaluate held
  have judged := known.judged
  rw [Option.getD_some, parseAll_existsTarget] at judged
  obtain ⟨verdict, _, first, none, verdicts⟩ := List.forall₂_cons_left_iff.1 judged
  obtain rfl := List.forall₂_nil_left_iff.1 none
  cases first with
  | @seen run start searching ending checked direct looks part =>
      obtain rfl : targetExists "exists-reftarget" ⟨action.name, target⟩ = run :=
        Check.direct.inj direct
      obtain ⟨outcome, searched, passes⟩ := searched_of_targetExists looks
      refine ⟨assessment, start, searching, ending, outcome, rfl, part, searched, ?_⟩
      rw [known.passed, verdicts, List.all_cons, List.all_nil, Bool.and_true, passes]
  | told fact | awaited fact => cases fact

end Requirement

/-- Whatever is read of the page in a talk is as the table has it. -/
def ReadFrom (answers : (asked : Request) → asked.Answer) (trace : List Turn) : Prop :=
  ∀ turn ∈ trace, turn.asked.inspects = true → turn.reply = answers turn.asked

namespace Command

variable {action : Action} {target : String} {trace : List Turn}

theorem outcome_alike {answers : (asked : Request) → asked.Answer}
    {before middle start after : Records} {first second : List Turn}
    {outcome found : Except Fault (List Element)}
    (one : (search action target).Held before first middle outcome)
    (other : (search action target).Held start second after found)
    (here : ReadFrom answers first) (there : ReadFrom answers second) : outcome = found := by
  apply Dialogue.Held.result_alike one other
  · exact fun turn member => here turn member (one.asked (search_inspects _ _) turn member)
  · exact fun turn member => there turn member (other.asked (search_inspects _ _) turn member)

theorem raised_of_search {before after : Records} {fault : Fault}
    (held : (search action target).Held before trace after (.error fault)) :
    action = .button ∧ ∃ turn ∈ trace, turn.Raised := by
  unfold search at held
  split at held
  · next button => exact ⟨button, (Label.scanned_of_held held).raised⟩
  · obtain ⟨inner, resolves, same⟩ := held_map.1 held
    obtain ⟨-, resolution, rfl, -⟩ := Selector.resolved_of_held resolves
    cases same

end Command

open Command in
/-- For an action on elements, the check that its target exists passes exactly if the action touches
an element, whoever goes first, as long as the page reads the same in both. If it does not pass, the
page is inspected at most, and the action fails because nothing is found, or because a read fails
while it looks for buttons. -/
theorem existence_foretells_touch {action : Action} (seeks : action.seeks = true)
    {target : String} {value : Option String} {mode : Mode}
    {answers : (asked : Request) → asked.Answer} {start ending before after : Records}
    {asking trace : List Turn} {assessed : Except Fault Assessment}
    {result : Except Fault Performance}
    (checked : (Requirement.evaluate (some "exists-reftarget") ⟨action.name, target⟩).Held start
      asking ending assessed)
    (performed : (perform ⟨action, target, value, mode⟩).Held before trace after result)
    (alike : ReadFrom answers (asking ++ trace)) :
    ∃ assessment, assessed = .ok assessment ∧
      (assessment.passed = true ↔ touched trace ≠ []) ∧
      (assessment.passed = false →
        ∃ searching fault, trace = ⟨.announce ⟨action, target, value, mode⟩, ()⟩ :: searching ∧
          (∀ turn ∈ searching, turn.asked.inspects = true) ∧ result = .error fault ∧
          ((action = .button → ∀ turn ∈ searching, ¬turn.Raised) →
            Misses action target fault)) := by
  obtain ⟨assessment, _, looking, _, found, rfl, part, looks, passes⟩ :=
    Requirement.searched_of_evaluate checked
  obtain ⟨searching, acting, outcome, rfl, searched, pursued⟩ := pursued_of_held seeks performed
  -- the two searches read the same of the page
  obtain rfl : found = outcome := by
    apply outcome_alike looks searched
    · exact fun turn member => alike turn (List.mem_append_left _ (part.subset member))
    · exact fun turn member => alike turn (by simp [member])
  have inspects := searched.asked (search_inspects action target)
  have touches : touched (⟨.announce ⟨action, target, value, mode⟩, ()⟩ :: (searching ++ acting)) =
      touched acting := by
    change touched (searching ++ acting) = touched acting
    rw [touched_append, touched_of_inspects inspects, List.nil_append]
  refine ⟨assessment, rfl, ?_, fun fails => ?_⟩
  · rw [passes, touches, pursued.touched_iff]
  · have failed : ¬∃ elements, found = .ok elements ∧ elements ≠ [] := by
      rw [← passes, fails]
      exact Bool.false_ne_true
    cases pursued with
    | broken fault =>
        rw [List.append_nil]
        refine ⟨searching, fault, rfl, inspects, rfl, fun calm => ?_⟩
        obtain ⟨button, turn, member, raised⟩ := raised_of_search searched
        exact absurd raised (calm button turn member)
    | missed misses =>
        rw [List.append_nil]
        exact ⟨searching, _, rfl, inspects, rfl, fun _ => misses⟩
    | carried => exact absurd ⟨_, rfl, List.cons_ne_nil _ _⟩ failed

def toolbar : Scene where
  page
    | .query "button" none => .ok [1, 2]
    | .query selector _ => .error (.guide (.selectorSyntax selector "unknown"))
    | .renderedText 1 => .ok "Save"
    | .renderedText _ => .ok "Open"
    | .click _ => .ok ()
    | _ => .error (.page "empty")
  tuning := Scene.unhurried 3

theorem readFrom_of_gave {scene : Scene} {trace : List Turn}
    (gave : ∀ turn ∈ trace, scene.Gave turn) :
    ReadFrom (fun asked => ((scene.answer asked).run ⟨[], []⟩).1) trace := by
  rintro ⟨asked, reply⟩ member inspects
  obtain ⟨met, replied⟩ := gave _ member
  cases asked with
  | page => exact replied
  | _ => cases inspects

/-- There is a button with the first label, and none with the second. -/
theorem toolbar_foretold :
    (∃ asking trace after assessment result,
      (Requirement.evaluate (some "exists-reftarget") ⟨"button", " save "⟩).Held ⟨[], []⟩ asking
        ⟨[], []⟩ (.ok assessment) ∧
      (Command.perform ⟨.button, " save ", none, .commit⟩).Held ⟨[], []⟩ trace after result ∧
      assessment.passed = true ∧ touched trace ≠ []) ∧
    ∃ asking trace after assessment fault,
      (Requirement.evaluate (some "exists-reftarget") ⟨"button", "quit"⟩).Held ⟨[], []⟩ asking
        ⟨[], []⟩ (.ok assessment) ∧
      (Command.perform ⟨.button, "quit", none, .commit⟩).Held ⟨[], []⟩ trace after
        (.error fault) ∧
      assessment.passed = false ∧ touched trace = [] := by
  have foretold (label : String) : ∃ asking trace after assessment,
      (Requirement.evaluate (some "exists-reftarget") ⟨"button", label⟩).Held ⟨[], []⟩ asking
        ⟨[], []⟩ (.ok assessment) ∧
      (Command.perform ⟨.button, label, none, .commit⟩).Held ⟨[], []⟩ trace after
        (toolbar.outcome (Command.perform ⟨.button, label, none, .commit⟩) ⟨[], []⟩).1 ∧
      (toolbar.outcome (Requirement.evaluate (some "exists-reftarget") ⟨"button", label⟩)
        ⟨[], []⟩).1 = .ok assessment ∧
      (assessment.passed = true ↔ touched trace ≠ []) := by
    obtain ⟨asking, checked, known⟩ := toolbar.held
      (Requirement.evaluate (some "exists-reftarget") ⟨"button", label⟩) ⟨[], []⟩
    obtain ⟨trace, performed, given⟩ := toolbar.held
      (Command.perform ⟨.button, label, none, .commit⟩) ⟨[], []⟩
    obtain ⟨same, -⟩ := Requirement.assessed_of_evaluate checked
    rw [same] at checked
    obtain ⟨assessment, assessed, passes, -⟩ :=
      @existence_foretells_touch .button rfl label none .commit _ _ _ _ _ _ _ _ _ checked performed
        (readFrom_of_gave (List.forall_mem_append.2 ⟨known, given⟩))
    rw [assessed] at checked
    exact ⟨asking, trace, _, assessment, checked, performed, assessed, passes⟩
  constructor
  · obtain ⟨asking, trace, after, assessment, checked, performed, assessed, passes⟩ :=
      foretold " save "
    have passed : assessment.passed = true := by
      have computed : (toolbar.outcome (Requirement.evaluate (some "exists-reftarget")
          ⟨"button", " save "⟩) ⟨[], []⟩).1.map Assessment.passed = .ok true := by rfl
      rw [assessed] at computed
      exact Except.ok.inj computed
    exact ⟨asking, trace, after, assessment, _, checked, performed, passed, passes.1 passed⟩
  · obtain ⟨asking, trace, after, assessment, checked, performed, assessed, passes⟩ :=
      foretold "quit"
    have failed : assessment.passed = false := by
      have computed : (toolbar.outcome (Requirement.evaluate (some "exists-reftarget")
          ⟨"button", "quit"⟩) ⟨[], []⟩).1.map Assessment.passed = .ok false := by rfl
      rw [assessed] at computed
      exact Except.ok.inj computed
    obtain ⟨fault, outcome⟩ : ∃ fault, (toolbar.outcome
        (Command.perform ⟨.button, "quit", none, .commit⟩) ⟨[], []⟩).1 = .error fault := ⟨_, rfl⟩
    rw [outcome] at performed
    refine ⟨asking, trace, after, assessment, fault, checked, performed, failed, ?_⟩
    by_contra some
    rw [passes.2 some] at failed
    cases failed

open Command Label in
/-- What an action on buttons touches, and when the check for them passes. Both search the buttons of
the page for the label. The action touches what was found, in the order of the page, all of it unless
a touch fails; if nothing was found it fails with that message, and touches nothing. The buttons that
are found are those with the label in their text, letter case and blanks around the label aside; but
a label of nothing but blanks, which means no button, finds every button of the page. Only for the
label that is empty as it stands none is found. -/
theorem buttons_touched_by_label (label : String) :
    (∀ value mode before trace after result,
      (perform ⟨.button, label, value, mode⟩).Held before trace after result →
        ∃ searching acting outcome,
          trace = ⟨.announce ⟨.button, label, value, mode⟩, ()⟩ :: (searching ++ acting) ∧
          Scanned label searching outcome ∧
          Pursued ⟨.button, label, value, mode⟩ outcome acting result) ∧
    (∀ before trace after assessed,
      (Requirement.evaluate (some "exists-reftarget") ⟨Action.button.name, label⟩).Held before trace
        after assessed →
        ∃ assessment searching outcome, assessed = .ok assessment ∧ searching <:+: trace ∧
          Scanned label searching outcome ∧
          (assessment.passed = true ↔ ∃ buttons, outcome = .ok buttons ∧ buttons ≠ [])) ∧
    ∀ searching buttons, Scanned label searching (.ok buttons) →
      buttons.Sublist ((readings searching).map Prod.fst) ∧
      (buttons = named label (readings searching) ↔
        (Text.allBlank label = true → label = "" ∨ readings searching = [])) ∧
      (label ≠ "" → Text.allBlank label = true → buttons = (readings searching).map Prod.fst) := by
  refine ⟨?acts, ?checks, fun searching buttons scanned => ?_⟩
  case acts =>
    intro value mode before trace after result held
    obtain ⟨searching, acting, outcome, same, searched, pursued⟩ :=
      @pursued_of_held ⟨.button, label, value, mode⟩ _ _ _ rfl _ held
    exact ⟨searching, acting, outcome, same, scanned_of_held searched, pursued⟩
  case checks =>
    intro before trace after assessed held
    obtain ⟨assessment, _, searching, _, outcome, same, part, searched, passes⟩ :=
      Requirement.searched_of_evaluate held
    exact ⟨assessment, searching, outcome, same, part, scanned_of_held searched, passes⟩
  · exact ⟨scanned.sublist, scanned.named_iff, scanned.all_of_blank⟩

/-- With blanks for a label both buttons are clicked, where none is meant. -/
theorem toolbar_clicked_throughout :
    ∃ searching acting after performance,
      (Command.perform ⟨.button, "  ", none, .commit⟩).Held ⟨[], []⟩
        (⟨.announce ⟨.button, "  ", none, .commit⟩, ()⟩ :: (searching ++ acting)) after
        (.ok performance) ∧
      touched acting = [1, 2] ∧ Label.named "  " (readings searching) = [] := by
  obtain ⟨acts, -, finds⟩ := buttons_touched_by_label "  "
  obtain ⟨trace, held, known⟩ :=
    toolbar.held (Command.perform ⟨.button, "  ", none, .commit⟩) ⟨[], []⟩
  obtain ⟨performance, performed⟩ : ∃ performance, (toolbar.outcome
      (Command.perform ⟨.button, "  ", none, .commit⟩) ⟨[], []⟩).1 = .ok performance := ⟨_, rfl⟩
  rw [performed] at held
  obtain ⟨searching, acting, outcome, rfl, scanned, pursued⟩ := acts _ _ _ _ _ _ held
  refine ⟨searching, acting, _, performance, held, ?_, rfl⟩
  generalize done : Except.ok performance = result at pursued
  cases pursued with
  | broken | missed => cases done
  | @carried first rest _ _ touches =>
      have filled : "  " ≠ "" := by decide
      obtain ⟨-, -, all⟩ := finds searching _ scanned
      obtain ⟨_, listed⟩ := known _ (List.mem_cons_of_mem _
        (List.mem_append_left _ (scanned.query_mem filled)))
      have two : (readings searching).map Prod.fst = [1, 2] := Except.ok.inj listed
      rw [touches.all ⟨performance, done.symm⟩, Command.reach, if_neg (by decide),
        all filled (by decide), two]

end Walkthrough
