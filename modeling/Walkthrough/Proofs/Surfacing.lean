import Walkthrough.Proofs.Crossings
import Walkthrough.Proofs.Resolving
/-!
How failures of a browser surface in an action. Most calls into the browser are guarded: while an
element is acted on a failure becomes one of the action, and while a selector is resolved it is left
out. Some calls are bare: the styles of highlights are added without a guard, and so is the search
for buttons. An action fails with a failure that is not its own exactly if a bare call fails.
Main statement: `wrapped_unless_bare`.
-/

namespace Walkthrough

namespace Browser

open Text

/-! What can be relied on. -/

def Script.Returns (value : Json) : Script → Prop
  | .renderedText | .setValue _ => ∃ content, value = .text content
  | .formEvents _ => ∃ items, value = .list items
  | _ => True

/-- A browser that fails fails as a page does, and otherwise does what it is told. -/
def Crossing.Sound : Crossing → Prop
  | ⟨.evaluate _ script, .ok value⟩ => script.Returns value
  | ⟨.properties, .ok properties⟩ => ∃ elements, Bridge.elementsOf properties = .ok elements
  | crossing => ∀ fault, crossing.fault? = some fault → ∃ message, fault = .page message

theorem Crossing.Sound.fails {crossing : Crossing} (sound : crossing.Sound) {fault : Fault}
    (fails : crossing.fault? = some fault) : ∃ message, fault = .page message := by
  unfold Sound at sound
  split at sound
  · cases fails
  · cases fails
  · exact sound fault fails

/-! What surfaces. -/

/-- A failure of the browser that is passed on as it is, except that the refusal of a selector is
told apart. -/
inductive Raw : Call → String → Fault → Prop where
  | same (call : Call) (message : String) : Raw call message (.page message)
  | refused {root : Option Element} {selector message : String}
      (refuses : Bridge.isSyntaxMessage message = true) :
      Raw (.evaluateHandle (.nativeQuery root selector)) message
        (.guide (.selectorSyntax selector (firstLine message)))

/-- No bare call fails. -/
def Unscathed (bare : Call → Bool) (crossings : List Crossing) : Prop :=
  ∀ crossing ∈ crossings, bare crossing.call = true → crossing.fault? = none

/-- What comes of a talk with the browser: a result, or a failure of the action, as long as no bare
call fails; and otherwise the failure of a bare call. -/
inductive Surfaces {α : Type} (bare : Call → Bool) (crossings : List Crossing) :
    Except Fault α → Prop where
  | returned (calm : Unscathed bare crossings) (value : α) : Surfaces bare crossings (.ok value)
  | wrapped (calm : Unscathed bare crossings) (message : String) (details : List (String × Json)) :
      Surfaces bare crossings (.error (.guide (.action message details)))
  | escaped {crossing : Crossing} {message : String} {fault : Fault}
      (member : crossing ∈ crossings) (bares : bare crossing.call = true)
      (fails : crossing.fault? = some (.page message)) (raw : Raw crossing.call message fault) :
      Surfaces bare crossings (.error fault)

section Composing

variable {α β : Type} {bare : Call → Bool} {first second : List Crossing}

theorem unscathed_nil : Unscathed bare [] := by simp [Unscathed]

theorem unscathed_append :
    Unscathed bare (first ++ second) ↔ Unscathed bare first ∧ Unscathed bare second :=
  List.forall_mem_append

theorem Surfaces.unscathed {value : α} (surfaces : Surfaces bare first (.ok value)) :
    Unscathed bare first := by
  cases surfaces with
  | returned calm => exact calm

theorem Surfaces.after {result : Except Fault α} (later : Surfaces bare second result)
    (calm : Unscathed bare first) : Surfaces bare (first ++ second) result := by
  cases later with
  | returned later value => exact .returned (unscathed_append.2 ⟨calm, later⟩) value
  | wrapped later message details =>
      exact .wrapped (unscathed_append.2 ⟨calm, later⟩) message details
  | escaped member bares fails raw =>
      exact .escaped (List.mem_append_right _ member) bares fails raw

theorem Surfaces.error {fault : Fault} (surfaces : Surfaces (α := α) bare first (.error fault)) :
    Surfaces (α := β) bare first (.error fault) := by
  cases surfaces with
  | wrapped calm message details => exact .wrapped calm message details
  | escaped member bares fails raw => exact .escaped member bares fails raw

end Composing

/-! Calls of a page. -/

namespace Bridge

variable {α β : Type} {bare : Call → Bool} {target : Option Element} {script : Script}
  {what : String} {details : List (String × Json)} {threshold : Json}

def Surfacing (bare : Call → Bool) (bridge : Bridge α) : Prop :=
  ∀ ⦃state crossings result ending⦄, Crossed bridge state crossings result ending →
    (∀ crossing ∈ crossings, crossing.Sound) → Surfaces bare crossings result

theorem surfacing_pure (value : α) : Surfacing bare (pure value : Bridge α) := by
  intro state crossings result ending crossed _
  obtain ⟨rfl, rfl, -⟩ := crossed_pure.1 crossed
  exact .returned unscathed_nil value

theorem surfacing_bind {bridge : Bridge α} {next : α → Bridge β} (first : Surfacing bare bridge)
    (second : ∀ value, Surfacing bare (next value)) : Surfacing bare (bridge >>= next) := by
  intro state crossings result ending crossed sound
  rcases crossed_bind.1 crossed with ⟨value, _, _, _, head, last, rfl⟩ | ⟨fault, failed, rfl⟩
  · obtain ⟨here, later⟩ := List.forall_mem_append.1 sound
    exact (second value last later).after (first head here).unscathed
  · exact (first failed sound).error

def Guards (target : Option Element) (script : Script) (bridge : Bridge α) : Prop :=
  ∀ ⦃state crossings result ending⦄, Crossed bridge state crossings result ending →
    ∃ reply, crossings = [⟨.evaluate target script, reply⟩] ∧
      (∀ value, reply = .ok value → script.Returns value → ∃ found, result = .ok found) ∧
      ∀ message, reply = .error (.page message) →
        ∃ report details, result = .error (.guide (.action report details))

theorem surfacing_of_guards {bridge : Bridge α} (free : bare (.evaluate target script) = false)
    (guards : Guards target script bridge) : Surfacing bare bridge := by
  intro state crossings result ending crossed sound
  obtain ⟨reply, rfl, returns, fails⟩ := guards crossed
  have sound := sound _ List.mem_cons_self
  have calm : Unscathed bare [⟨.evaluate target script, reply⟩] := by
    intro crossing member bares
    obtain rfl := List.mem_singleton.1 member
    rw [free] at bares
    cases bares
  cases reply with
  | ok value =>
      obtain ⟨found, rfl⟩ := returns value rfl sound
      exact .returned calm found
  | error fault =>
      obtain ⟨message, rfl⟩ := sound.fails rfl
      obtain ⟨report, details, rfl⟩ := fails message rfl
      exact .wrapped calm report details

def Runs (target : Option Element) (script : Script) (call : Bridge Json) : Prop :=
  ∀ ⦃state crossings result ending⦄, Crossed call state crossings result ending →
    crossings = [⟨.evaluate target script, result⟩]

theorem runs_evaluate (script : Script) : Runs none script (evaluate script) :=
  fun _ _ _ _ crossed => (crossed_evaluate.1 crossed).1

theorem runs_evaluateOn (element : Element) (script : Script) :
    Runs (some element) script (evaluateOn (some element) script) :=
  fun _ _ _ _ crossed => (crossed_evaluateOn.1 crossed).1

theorem guards_discard {call : Bridge Json} (runs : Runs target script call) :
    Guards target script (acting what details (discard call)) := by
  intro state crossings result ending crossed
  obtain ⟨_, acts, rfl⟩ := crossed_acting.1 crossed
  obtain ⟨reply, called, rfl⟩ := crossed_map.1 acts
  refine ⟨reply, runs called, ?_, ?_⟩
  · rintro value rfl -
    exact ⟨(), rfl⟩
  · rintro message rfl
    exact ⟨_, _, rfl⟩

theorem guards_bind {call : Bridge Json} {next : Json → Bridge α} (runs : Runs target script call)
    (reads : ∀ value, (∃ found, next value = pure found) ∨
      ¬script.Returns value ∧ ∃ fault, next value = throw fault) :
    Guards target script (acting what details call >>= next) := by
  intro state crossings result ending crossed
  rcases crossed_bind.1 crossed with ⟨value, first, _, second, acts, tail, rfl⟩ | ⟨_, failed, rfl⟩
  · obtain ⟨inner, called, same⟩ := crossed_acting.1 acts
    obtain rfl := acted_eq_ok same.symm
    rcases reads value with ⟨found, reading⟩ | ⟨never, fault, reading⟩
    · rw [reading] at tail
      obtain ⟨rfl, rfl, -⟩ := crossed_pure.1 tail
      rw [List.append_nil]
      refine ⟨_, runs called, fun _ _ _ => ⟨found, rfl⟩, ?_⟩
      rintro message same
      cases same
    · rw [reading] at tail
      obtain ⟨rfl, rfl, -⟩ := crossed_throw.1 tail
      rw [List.append_nil]
      refine ⟨_, runs called, ?_, ?_⟩
      · rintro _ same returned
        cases same
        exact absurd returned never
      · rintro message same
        cases same
  · obtain ⟨reply, called, same⟩ := crossed_acting.1 failed
    refine ⟨reply, runs called, ?_, ?_⟩
    · rintro value rfl -
      cases same
    · rintro message rfl
      cases same
      exact ⟨_, _, rfl⟩

theorem asText_reads (value : Json) : (∃ found, asText value = pure found) ∨
    ¬(∃ content, value = .text content) ∧ ∃ fault, asText value = throw fault := by
  cases value with
  | text content => exact .inl ⟨content, rfl⟩
  | _ =>
      refine .inr ⟨?_, _, rfl⟩
      rintro ⟨_, same⟩
      cases same

theorem asTexts_reads (value : Json) : (∃ found, asTexts value = pure found) ∨
    ¬(∃ items, value = .list items) ∧ ∃ fault, asTexts value = throw fault := by
  cases value with
  | list items => exact .inl ⟨_, rfl⟩
  | _ =>
      refine .inr ⟨?_, _, rfl⟩
      rintro ⟨_, same⟩
      cases same

end Bridge

/-- The calls of an action whose failures are passed on: the one that adds the styles of highlights,
and those of a search for buttons. -/
def bare (action : Action) : Call → Bool
  | .addStyles => true
  | .evaluateHandle _ | .properties | .dispose | .evaluate _ .renderedText => action == .button
  | _ => false

namespace Bridge

variable {action : Action} {threshold : Json}

theorem surfacing_click (element : Element) :
    Surfacing (bare action) (answer threshold (.click element)) :=
  surfacing_of_guards rfl (guards_discard (runs_evaluateOn element .click))

theorem surfacing_setValue (element : Element) (value : String) :
    Surfacing (bare action) (answer threshold (.setValue element value)) :=
  surfacing_of_guards rfl (guards_bind (runs_evaluateOn element _) asText_reads)

theorem surfacing_formEvents (element : Element) (tag : String) :
    Surfacing (bare action) (answer threshold (.formEvents element tag)) :=
  surfacing_of_guards rfl
    (guards_bind (runs_evaluateOn element (.formEvents (formEventSequence tag))) asTexts_reads)

theorem surfacing_pushRoute (path : String) :
    Surfacing (bare action) (answer threshold (.pushRoute path)) :=
  surfacing_of_guards rfl (guards_discard (runs_evaluate _))

theorem surfacing_openExternal (address : String) :
    Surfacing (bare action) (answer threshold (.openExternal address)) :=
  surfacing_of_guards rfl (guards_discard (runs_evaluate _))

theorem surfacing_ensureStyles : Surfacing (bare action) ensureStyles := by
  intro state crossings result ending crossed sound
  rw [ensureStyles, crossed_get_bind] at crossed
  split at crossed
  · obtain ⟨reply, rest, tail, rfl⟩ := crossed_ask_bind.1 crossed
    cases reply with
    | ok added =>
        obtain ⟨rfl, rfl, -⟩ := crossed_set.1 tail
        exact .returned (by simp [Unscathed, Crossing.fault?]) ()
    | error fault =>
        obtain ⟨rfl, rfl, -⟩ := crossed_throw.1 tail
        obtain ⟨message, rfl⟩ := (sound _ List.mem_cons_self).fails rfl
        exact .escaped List.mem_cons_self rfl rfl (.same _ message)
  · obtain ⟨rfl, rfl, -⟩ := crossed_pure.1 crossed
    exact .returned unscathed_nil ()

theorem surfacing_scroll (element : Element) (duration : Json) :
    Surfacing (bare action) (scroll element duration) := by
  intro state crossings result ending crossed sound
  obtain ⟨reply, rest, tail, rfl⟩ := crossed_ask_bind.1 crossed
  have calm : Unscathed (bare action) [⟨.scrollIntoView element duration, reply⟩] := by
    intro crossing member bares
    obtain rfl := List.mem_singleton.1 member
    cases bares
  cases reply with
  | ok scrolled =>
      obtain ⟨rfl, rfl, -⟩ := crossed_pure.1 tail
      exact .returned calm ()
  | error fault =>
      -- an element that cannot be scrolled to is left where it is
      obtain ⟨message, rfl⟩ := (sound _ List.mem_cons_self).fails rfl
      obtain ⟨rfl, rfl, -⟩ := crossed_pure.1 tail
      exact .returned calm ()

theorem surfacing_highlight (element : Element) (duration : Json) :
    Surfacing (bare action) (answer threshold (.highlight element duration)) :=
  surfacing_bind surfacing_ensureStyles fun _ =>
    surfacing_bind (surfacing_pure element) fun _ =>
      surfacing_bind (surfacing_scroll _ duration) fun _ =>
        surfacing_of_guards rfl (guards_discard (runs_evaluateOn element _))

/-! The search for buttons. -/

theorem surfacing_query (selector : String) (root : Option Element) :
    Surfacing (bare .button) (query selector root) := by
  intro state crossings result ending crossed sound
  -- three calls, one after the other, and whichever fails is the last
  obtain ⟨reply, _, tail, rfl⟩ := crossed_ask_bind.1 crossed
  obtain ⟨asks, others⟩ := List.forall_mem_cons.1 sound
  cases reply with
  | error fault =>
      obtain ⟨message, rfl⟩ := asks.fails rfl
      dsimp only at tail
      split at tail
      · next refuses =>
          obtain ⟨rfl, rfl, -⟩ := crossed_throw.1 tail
          exact .escaped List.mem_cons_self rfl rfl (.refused refuses)
      · obtain ⟨rfl, rfl, -⟩ := crossed_throw.1 tail
        exact .escaped List.mem_cons_self rfl rfl (.same _ message)
  | ok =>
      obtain ⟨listing, _, later, rfl⟩ := crossed_ask_bind.1 tail
      obtain ⟨lists, last⟩ := List.forall_mem_cons.1 others
      cases listing with
      | error fault =>
          obtain ⟨rfl, rfl, -⟩ := crossed_throw.1 later
          obtain ⟨message, rfl⟩ := lists.fails rfl
          exact .escaped (List.mem_cons_of_mem _ List.mem_cons_self) rfl rfl (.same _ message)
      | ok properties =>
          -- of an array that can be listed only the handle is left to be disposed of
          obtain ⟨elements, listed⟩ := lists
          have known : Crossed (ofOutcome ((elementsOf properties).mapError .misuse) >>=
              fun found => ask .dispose >>= fun freed => ofOutcome freed >>= fun _ => pure found)
              _ _ _ _ := later
          rw [listed] at known
          obtain ⟨freeing, _, ends, rfl⟩ := crossed_ask_bind.1 known
          have frees := last _ List.mem_cons_self
          cases freeing with
          | error fault =>
              obtain ⟨rfl, rfl, -⟩ := crossed_throw.1 ends
              obtain ⟨message, rfl⟩ := frees.fails rfl
              exact .escaped (List.mem_cons_of_mem _ (List.mem_cons_of_mem _ List.mem_cons_self))
                rfl rfl (.same _ message)
          | ok =>
              obtain ⟨rfl, rfl, -⟩ := crossed_pure.1 ends
              exact .returned (by simp [Unscathed, Crossing.fault?]) elements

theorem surfacing_renderedText (element : Element) :
    Surfacing (bare .button) (answer threshold (.renderedText element)) := by
  intro state crossings result ending crossed sound
  rcases crossed_bind.1 crossed with ⟨value, _, _, _, runs, tail, rfl⟩ | ⟨fault, failed, rfl⟩
  · obtain rfl := runs_evaluateOn element .renderedText runs
    obtain ⟨content, rfl⟩ := sound _ List.mem_cons_self
    obtain ⟨rfl, rfl, -⟩ := crossed_pure.1 tail
    exact .returned (by simp [Unscathed, Crossing.fault?]) content
  · obtain rfl := runs_evaluateOn element .renderedText failed
    obtain ⟨message, rfl⟩ := (sound _ List.mem_cons_self).fails rfl
    exact .escaped List.mem_cons_self rfl rfl (.same _ message)

end Bridge

/-! A talk with a page in a browser. -/

/-- What the page says in a talk is what its calls come to in the browser. -/
inductive Bridged (threshold : Json) : State → List Turn → List Crossing → State → Prop where
  | done (state : State) : Bridged threshold state [] [] state
  | page {call : PageCall} {reply : Except Fault call.Answer} {state middle ending : State}
      {trace : List Turn} {crossings later : List Crossing}
      (crossed : Bridge.Crossed (Bridge.answer threshold call) state crossings reply middle)
      (rest : Bridged threshold middle trace later ending) :
      Bridged threshold state (⟨.page call, reply⟩ :: trace) (crossings ++ later) ending
  | aside {asked : Request} {reply : asked.Answer} {state ending : State} {trace : List Turn}
      {crossings : List Crossing} (other : ∀ call, asked ≠ .page call)
      (rest : Bridged threshold state trace crossings ending) :
      Bridged threshold state (⟨asked, reply⟩ :: trace) crossings ending

end Browser

def Request.plain : Request → Bool
  | page (.highlight ..) => false
  | _ => true

theorem Request.plain_of_acts (request : Request) (acts : request.acts .commit = true) :
    request.plain = true := by
  cases request with
  | page call =>
      cases call with
      | highlight => cases acts
      | _ => rfl
  | _ => rfl

theorem Request.plain_of_inspects (request : Request) (inspects : request.inspects = true) :
    request.plain = true :=
  request.plain_of_acts (request.acts_of_inspects .commit inspects)

open Browser

section Talking

variable {threshold : Json} {state ending : State} {trace first second : List Turn}
  {crossings : List Crossing}

theorem bridged_nil (bridged : Bridged threshold state [] crossings ending) :
    crossings = [] ∧ ending = state := by
  cases bridged
  exact ⟨rfl, rfl⟩

theorem bridged_append (bridged : Bridged threshold state (first ++ second) crossings ending) :
    ∃ here middle later, Bridged threshold state first here middle ∧
      Bridged threshold middle second later ending ∧ crossings = here ++ later := by
  induction first generalizing state crossings with
  | nil => exact ⟨[], state, crossings, .done state, bridged, rfl⟩
  | cons turn rest ih =>
      rw [List.cons_append] at bridged
      cases bridged with
      | page crossed tail =>
          obtain ⟨here, middle, later, head, last, rfl⟩ := ih tail
          exact ⟨_, middle, later, .page crossed head, last, (List.append_assoc ..).symm⟩
      | aside other tail =>
          obtain ⟨here, middle, later, head, last, rfl⟩ := ih tail
          exact ⟨here, middle, later, .aside other head, last, rfl⟩

theorem bridged_page {call : PageCall} {reply : Except Fault call.Answer}
    (bridged : Bridged threshold state [⟨.page call, reply⟩] crossings ending) :
    Bridge.Crossed (Bridge.answer threshold call) state crossings reply ending := by
  cases bridged with
  | page crossed rest =>
      obtain ⟨rfl, rfl⟩ := bridged_nil rest
      rwa [List.append_nil]
  | aside other => exact absurd rfl (other call)

theorem bridged_aside {asked : Request} {reply : asked.Answer} (other : ∀ call, asked ≠ .page call)
    (bridged : Bridged threshold state (⟨asked, reply⟩ :: trace) crossings ending) :
    Bridged threshold state trace crossings ending := by
  cases bridged with
  | page => exact absurd rfl (other _)
  | aside _ rest => exact rest

theorem Browser.Bridged.unstyled {styled : Bool}
    (known : styled = true ∨ ∀ turn ∈ trace, turn.asked.plain = true)
    (bridged : Bridged threshold ⟨styled⟩ trace crossings ending) :
    ∀ crossing ∈ crossings, crossing.call ≠ .addStyles := by
  induction trace generalizing crossings with
  | nil =>
      obtain ⟨rfl, -⟩ := bridged_nil bridged
      simp
  | cons turn rest ih =>
      have onward := known.imp_right fun plain turn member =>
        plain turn (List.mem_cons_of_mem _ member)
      cases bridged with
      | @page call _ _ _ _ _ _ _ crossed tail =>
          have here : styled = true ∨ ∀ element duration, call ≠ .highlight element duration :=
            known.imp_right fun plain element duration same => by
              subst same
              cases plain _ List.mem_cons_self
          -- the page is left as it is, so the same is known for the rest of the talk
          obtain ⟨rfl, others⟩ := Bridge.plain_answer threshold here crossed
          exact List.forall_mem_append.2 ⟨others, ih onward tail⟩
      | aside _ tail => exact ih onward tail

theorem unscathed_of_unstyled {action : Action} (other : action ≠ .button)
    (unstyled : ∀ crossing ∈ crossings, crossing.call ≠ .addStyles) :
    Unscathed (bare action) crossings := by
  intro crossing member bares
  unfold bare at bares
  split at bares
  · next adds => exact absurd adds (unstyled crossing member)
  · exact absurd (beq_iff_eq.1 bares) other
  · exact absurd (beq_iff_eq.1 bares) other
  · exact absurd (beq_iff_eq.1 bares) other
  · exact absurd (beq_iff_eq.1 bares) other
  · cases bares

end Talking

/-! A run in a browser. -/

namespace Run

variable {α β : Type} {threshold : Json} {bare : Call → Bool}

def Surfacing (threshold : Json) (bare : Call → Bool) (run : Run α) : Prop :=
  ∀ ⦃before trace after result state crossings ending⦄, run.Held before trace after result →
    Bridged threshold state trace crossings ending → (∀ crossing ∈ crossings, crossing.Sound) →
      Surfaces bare crossings result

theorem surfacing_pure (value : α) : (pure value : Run α).Surfacing threshold bare := by
  intro before trace after result state crossings ending held bridged _
  obtain ⟨rfl, -, rfl⟩ := held_pure.1 held
  obtain ⟨rfl, -⟩ := bridged_nil bridged
  exact .returned unscathed_nil value

theorem surfacing_failed (message : String) (details : List (String × Json)) :
    (Command.failed message details : Run α).Surfacing threshold bare := by
  intro before trace after result state crossings ending held bridged _
  obtain ⟨rfl, -, rfl⟩ := held_throw.1 held
  obtain ⟨rfl, -⟩ := bridged_nil bridged
  exact .wrapped unscathed_nil message details

theorem surfacing_bind {run : Run α} {next : α → Run β} (first : run.Surfacing threshold bare)
    (second : ∀ value, (next value).Surfacing threshold bare) :
    (run >>= next).Surfacing threshold bare := by
  intro before trace after result state crossings ending held bridged sound
  rcases held_bind.1 held with ⟨value, _, _, _, head, last, rfl⟩ | ⟨fault, failed, rfl⟩
  · obtain ⟨here, middle, later, begins, ends, rfl⟩ := bridged_append bridged
    obtain ⟨early, late⟩ := List.forall_mem_append.1 sound
    exact (second value last ends late).after (first head begins early).unscathed
  · exact (first failed bridged sound).error

theorem surfacing_page {call : PageCall}
    (surfacing : Bridge.Surfacing bare (Bridge.answer threshold call)) :
    (page call).Surfacing threshold bare := by
  intro before trace after result state crossings ending held bridged sound
  obtain ⟨rfl, -⟩ := held_page.1 held
  exact surfacing (bridged_page bridged) sound

theorem surfacing_ask {asked : Request} (other : ∀ call, asked ≠ .page call) :
    (ask asked).Surfacing threshold bare := by
  intro before trace after result state crossings ending held bridged _
  obtain ⟨reply, -, rfl, rfl⟩ := held_ask.1 held
  obtain ⟨rfl, -⟩ := bridged_nil (bridged_aside other bridged)
  exact .returned unscathed_nil reply

theorem surfacing_filterRun {check : Element → Run Bool}
    (checks : ∀ element, (check element).Surfacing threshold bare) (elements : List Element) :
    (Selector.filterRun check elements).Surfacing threshold bare := by
  induction elements with
  | nil => exact surfacing_pure []
  | cons element rest ih =>
      exact surfacing_bind (checks element) fun holds => surfacing_bind ih fun kept =>
        surfacing_pure _

end Run

/-! An action in a browser. -/

namespace Command

open Run

variable {threshold : Json} {action : Action}

theorem surfacing_labelled (label : String) :
    (labelled label).Surfacing threshold (bare .button) := by
  refine surfacing_bind ?scan fun buttons => ?check
  case scan =>
    unfold buttonsLabelled
    split
    · exact surfacing_pure []
    · exact surfacing_bind (surfacing_page (Bridge.surfacing_query "button" none))
        (surfacing_filterRun fun button =>
          surfacing_bind (surfacing_page (Bridge.surfacing_renderedText button)) fun _ =>
            surfacing_pure _)
  case check =>
    split
    · exact surfacing_failed _ _
    · exact surfacing_pure buttons

theorem surfacing_resolve (other : action ≠ .button) (selector : String) :
    (Selector.resolve selector none).Surfacing threshold (bare action) := by
  rintro before trace after result ⟨styled⟩ crossings ending held bridged _
  -- there is a resolution in any case, so only what was asked of the browser matters
  have inspects := held.asked (Selector.resolve_inspects selector none)
  obtain ⟨-, resolution, rfl, -⟩ := Selector.resolved_of_held held
  refine .returned (unscathed_of_unstyled other (bridged.unstyled (.inr ?_))) resolution
  exact fun turn member => turn.asked.plain_of_inspects (inspects turn member)

theorem surfacing_found (other : action ≠ .button) (target : String) :
    (found action target).Surfacing threshold (bare action) := by
  refine surfacing_bind (surfacing_resolve other target) fun resolution => ?_
  split
  · exact surfacing_failed _ _
  · exact surfacing_pure resolution.elements

theorem surfacing_preview (element : Element) :
    (preview element).Surfacing threshold (bare action) :=
  surfacing_bind (surfacing_ask fun _ => Request.noConfusion) fun _ =>
    surfacing_page (Bridge.surfacing_highlight element _)

theorem surfacing_touchAll (mode : Mode) (elements : List Element) :
    (touchAll mode elements).Surfacing threshold (bare action) := by
  induction elements with
  | nil => exact surfacing_pure ()
  | cons element rest ih =>
      refine surfacing_bind ?_ fun _ => ih
      cases mode with
      | preview => exact surfacing_preview element
      | commit => exact surfacing_page (Bridge.surfacing_click element)

theorem surfacing_fill (mode : Mode) (target value : String) :
    (fill mode target value).Surfacing threshold (bare .formfill) := by
  refine surfacing_bind (surfacing_found (by decide) target) fun elements => ?_
  split
  · exact surfacing_pure _
  · next element _ =>
      cases mode with
      | preview => exact surfacing_bind (surfacing_preview element) fun _ => surfacing_pure _
      | commit =>
          exact surfacing_bind (surfacing_page (Bridge.surfacing_setValue element value)) fun tag =>
            surfacing_bind (surfacing_page (Bridge.surfacing_formEvents element tag)) fun _ =>
              surfacing_pure _

theorem surfacing_navigate (mode : Mode) (target : String) :
    (navigate mode target).Surfacing threshold (bare action) := by
  cases mode with
  | preview => exact surfacing_pure _
  | commit =>
      unfold navigate
      dsimp only
      split
      · exact surfacing_bind (surfacing_page (Bridge.surfacing_openExternal target)) fun _ =>
          surfacing_pure _
      · exact surfacing_bind (surfacing_page (Bridge.surfacing_pushRoute target)) fun _ =>
          surfacing_pure _

theorem surfacing_perform (command : Command) :
    command.perform.Surfacing threshold (bare command.action) := by
  obtain ⟨action, target, value, mode⟩ := command
  refine surfacing_bind (surfacing_ask fun _ => Request.noConfusion) fun _ => ?_
  cases action with
  | highlight =>
      exact surfacing_bind (surfacing_found Action.noConfusion target) fun elements =>
        surfacing_bind (surfacing_touchAll mode elements) fun _ => surfacing_pure _
  | button =>
      exact surfacing_bind (surfacing_labelled target) fun buttons =>
        surfacing_bind (surfacing_touchAll mode buttons) fun _ => surfacing_pure _
  | formfill => exact surfacing_fill mode target _
  | navigate => exact surfacing_navigate mode target
  | sequence | multistep => exact surfacing_failed _ _

theorem perform_plain (command : Command) (commits : command.mode = .commit) :
    command.perform.Asks (·.plain) := by
  have acts := command.carryOut_acts
  rw [commits] at acts
  exact asks_bind (asks_ask rfl) fun _ => asks_mono acts Request.plain_of_acts

end Command

/-- A result, or a failure of the action. -/
inductive Proper {α : Type} : Except Fault α → Prop where
  | returned (value : α) : Proper (.ok value)
  | wrapped (message : String) (details : List (String × Json)) :
      Proper (.error (.guide (.action message details)))

theorem Browser.Raw.not_proper {α : Type} {call : Call} {message : String} {fault : Fault}
    (raw : Raw call message fault) : ¬Proper (.error fault : Except Fault α) := by
  intro proper
  cases raw with
  | same => cases proper
  | refused => cases proper

theorem Browser.Surfaces.proper_iff {α : Type} {bare : Call → Bool} {crossings : List Crossing}
    {result : Except Fault α} (surfaces : Surfaces bare crossings result) :
    Proper result ↔ Unscathed bare crossings := by
  cases surfaces with
  | returned calm value => exact iff_of_true (.returned value) calm
  | wrapped calm message details => exact iff_of_true (.wrapped message details) calm
  | escaped member bares fails raw =>
      refine iff_of_false raw.not_proper fun calm => ?_
      rw [calm _ member bares] at fails
      cases fails

/-- Over a browser an action comes to a result or to a failure of its own exactly if no bare call
fails. What leaves it otherwise is the failure of a bare call, as the browser has put it. An action on
anything but buttons has no bare call to make if it is carried out, or if the page has its styles. -/
theorem wrapped_unless_bare {threshold : Json} {command : Command} {before after : Records}
    {trace : List Turn} {result : Except Fault Performance} {state ending : State}
    {crossings : List Crossing} (held : command.perform.Held before trace after result)
    (bridged : Bridged threshold state trace crossings ending)
    (sound : ∀ crossing ∈ crossings, crossing.Sound) :
    (Proper result ↔ Unscathed (bare command.action) crossings) ∧
    (¬Proper result → ∃ crossing ∈ crossings, ∃ message fault,
      bare command.action crossing.call = true ∧ crossing.fault? = some (.page message) ∧
        Raw crossing.call message fault ∧ result = .error fault) ∧
    (command.action ≠ .button → command.mode = .commit ∨ state.styled = true → Proper result) := by
  have surfaces := command.surfacing_perform held bridged sound
  refine ⟨surfaces.proper_iff, fun improper => ?escapes, fun other quiet => ?stays⟩
  case escapes =>
    cases surfaces with
    | returned _ value => exact absurd (.returned value) improper
    | wrapped _ message details => exact absurd (.wrapped message details) improper
    | escaped member bares fails raw => exact ⟨_, member, _, _, bares, fails, raw, rfl⟩
  case stays =>
    obtain ⟨styled⟩ := state
    have known : styled = true ∨ ∀ turn ∈ trace, turn.asked.plain = true := by
      obtain commits | styled := quiet
      · exact .inr (held.asked (command.perform_plain commits))
      · exact .inl styled
    exact surfaces.proper_iff.2 (unscathed_of_unstyled other (bridged.unstyled known))

/-- A page with one button, and a policy against styles. -/
def strict : List Crossing :=
  [⟨.evaluateHandle (.nativeQuery none "button"), .ok ()⟩, ⟨.properties, .ok [("0", some 1)]⟩,
    ⟨.dispose, .ok ()⟩, ⟨.evaluate (some 1) .renderedText, .ok (.text "Save")⟩,
    ⟨.addStyles, .error (.page "policy")⟩]

theorem strict_elements : Bridge.elementsOf [("0", some 1)] = .ok [1] := by
  change Except.ok ((List.mergeSort [((0 : Int), some 1)]
    fun left right => decide (left.1 ≤ right.1)).filterMap Prod.snd) = _
  rw [List.mergeSort_singleton]
  rfl

theorem strict_sound : ∀ crossing ∈ strict, crossing.Sound := by
  simp [strict, Crossing.Sound, Crossing.fault?, Script.Returns, strict_elements]

def strictTalk : List Turn :=
  [⟨.announce ⟨.button, "Save", none, .preview⟩, ()⟩, ⟨.page (.query "button" none), .ok [1]⟩,
    ⟨.page (.renderedText 1), .ok "Save"⟩, ⟨.settings, Scene.unhurried 3⟩,
    ⟨.page (.highlight 1 (.int 0)), .error (.page "policy")⟩]

theorem strict_bridged : Bridged (.int 100) ⟨false⟩ strictTalk strict ⟨false⟩ := by
  have listing : Bridge.Crossed (Bridge.answer (.int 100) (.query "button" none)) ⟨false⟩
      (strict.take 3) (.ok [1]) ⟨false⟩ := by
    refine Bridge.crossed_ask_bind.2 ⟨.ok (), _, ?_, rfl⟩
    refine Bridge.crossed_ask_bind.2 ⟨.ok [("0", some 1)], _, ?_, rfl⟩
    change Bridge.Crossed (Bridge.ofOutcome ((Bridge.elementsOf _).mapError .misuse) >>= _) _ _ _ _
    rw [strict_elements]
    exact Bridge.crossed_ask_bind.2 ⟨.ok (), [], .done _, rfl⟩
  have reading : Bridge.Crossed (Bridge.answer (.int 100) (.renderedText 1)) ⟨false⟩
      [⟨.evaluate (some 1) .renderedText, .ok (.text "Save")⟩] (.ok "Save") ⟨false⟩ :=
    Bridge.crossed_ask_bind.2 ⟨.ok (.text "Save"), [], .done _, rfl⟩
  have styling : Bridge.Crossed (Bridge.answer (.int 100) (.highlight 1 (.int 0))) ⟨false⟩
      [⟨.addStyles, .error (.page "policy")⟩] (.error (.page "policy")) ⟨false⟩ :=
    Bridge.crossed_bind.2 (.inr ⟨_, Bridge.crossed_ask_bind.2
      ⟨Except.error (Fault.page "policy"), [], .done _, rfl⟩, rfl⟩)
  exact .aside (fun _ => Request.noConfusion) (.page listing (.page reading
    (.aside (fun _ => Request.noConfusion) (.page styling (.done _)))))

/-- Showing the button fails as adding the styles does in the browser. -/
theorem strict_escapes :
    (Command.perform ⟨.button, "Save", none, .preview⟩).Held ⟨[], []⟩ strictTalk ⟨[], []⟩
      (.error (.page "policy")) ∧
    Bridged (.int 100) ⟨false⟩ strictTalk strict ⟨false⟩ ∧
    ∃ crossing ∈ strict, bare .button crossing.call = true ∧
      crossing.fault? = some (.page "policy") := by
  have held : (Command.perform ⟨.button, "Save", none, .preview⟩).Held ⟨[], []⟩ strictTalk ⟨[], []⟩
      (.error (.page "policy")) :=
    .ask rfl (.ask rfl (.ask rfl (.ask rfl (.ask rfl (.done _ _)))))
  obtain ⟨-, escapes, -⟩ := wrapped_unless_bare held strict_bridged strict_sound
  obtain ⟨⟨call, reply⟩, member, message, fault, bares, fails, raw, same⟩ := escapes nofun
  cases same
  cases raw
  exact ⟨held, strict_bridged, _, member, bares, fails⟩

end Walkthrough
