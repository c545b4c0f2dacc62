import Walkthrough.Browser.Bridge
import Walkthrough.Proofs.Conduct
/-!
Calls of a page that are carried out in a browser. A call of the page is one call into the browser or
a few, and what it comes to depends on their answers. Only a highlight adds the styles to the page.
-/

namespace Walkthrough.Browser

/-- A call into the browser, and its answer. -/
structure Crossing where
  call : Call
  reply : call.Answer

def Crossing.fault? : Crossing → Option Fault
  | ⟨.evaluate _ _, .error fault⟩ | ⟨.evaluateHandle _, .error fault⟩ | ⟨.properties, .error fault⟩
  | ⟨.dispose, .error fault⟩ | ⟨.textContent _, .error fault⟩ | ⟨.scrollIntoView _ _, .error fault⟩
  | ⟨.addStyles, .error fault⟩ | ⟨.wait _, .error fault⟩ => some fault
  | _ => none

namespace Bridge

variable {α β : Type} {state ending : State} {crossings : List Crossing}

def Crossed (bridge : Bridge α) (state : State) (crossings : List Crossing)
    (result : Except Fault α) (ending : State) : Prop :=
  Dialogue.Conducted (fun call reply record => record = [⟨call, reply⟩])
    (StateT.run (ExceptT.run bridge) state) crossings (result, ending)

theorem crossed_pure {value : α} {result : Except Fault α} :
    Crossed (pure value) state crossings result ending ↔
      crossings = [] ∧ result = .ok value ∧ ending = state :=
  Dialogue.ran_pure

theorem crossed_throw {fault : Fault} {result : Except Fault α} :
    Crossed (throw fault : Bridge α) state crossings result ending ↔
      crossings = [] ∧ result = .error fault ∧ ending = state :=
  Dialogue.ran_throw

theorem crossed_bind {bridge : Bridge α} {next : α → Bridge β} {result : Except Fault β} :
    Crossed (bridge >>= next) state crossings result ending ↔
      (∃ value first middle second, Crossed bridge state first (.ok value) middle ∧
        Crossed (next value) middle second result ending ∧ crossings = first ++ second) ∨
      ∃ fault, Crossed bridge state crossings (.error fault) ending ∧ result = .error fault :=
  Dialogue.ran_bind.trans (or_congr_left (exists_congr fun _ => exists_comm))

theorem crossed_ask {call : Call} {result : Except Fault call.Answer} :
    Crossed (ask call) state crossings result ending ↔
      ∃ reply, crossings = [⟨call, reply⟩] ∧ result = .ok reply ∧ ending = state := by
  constructor
  · intro crossed
    obtain ⟨reply, _, _, rfl, tail, rfl⟩ := Dialogue.conducted_ask_iff.1 crossed
    obtain ⟨rfl, same⟩ := Dialogue.conducted_done_iff.1 tail
    obtain ⟨rfl, rfl⟩ := Prod.mk.inj same
    exact ⟨reply, rfl, rfl, rfl⟩
  · rintro ⟨reply, rfl, rfl, rfl⟩
    exact Dialogue.conducted_ask_iff.2 ⟨reply, _, _, rfl, .done _, rfl⟩

theorem crossed_ask_bind {call : Call} {next : call.Answer → Bridge α} {result : Except Fault α} :
    Crossed (ask call >>= next) state crossings result ending ↔
      ∃ reply rest, Crossed (next reply) state rest result ending ∧
        crossings = ⟨call, reply⟩ :: rest := by
  refine Dialogue.conducted_ask_iff.trans ?_
  constructor
  · rintro ⟨reply, _, rest, rfl, tail, rfl⟩
    exact ⟨reply, rest, tail, rfl⟩
  · rintro ⟨reply, rest, tail, rfl⟩
    exact ⟨reply, _, rest, rfl, tail, rfl⟩

theorem crossed_get_bind {next : State → Bridge α} {result : Except Fault α} :
    Crossed (get >>= next) state crossings result ending ↔
      Crossed (next state) state crossings result ending :=
  Iff.rfl

theorem crossed_set {other : State} {result : Except Fault PUnit} :
    Crossed (set other) state crossings result ending ↔
      crossings = [] ∧ result = .ok () ∧ ending = other := by
  refine Dialogue.conducted_done_iff.trans (and_congr_right fun _ => ?_)
  exact Prod.mk.injEq .. ▸ Iff.rfl

theorem crossed_ofOutcome {outcome result : Except Fault α} :
    Crossed (ofOutcome outcome) state crossings result ending ↔
      crossings = [] ∧ result = outcome ∧ ending = state := by
  cases outcome with
  | ok value => exact crossed_pure
  | error fault => exact crossed_throw

theorem crossed_map {bridge : Bridge α} {change : α → β} {result : Except Fault β} :
    Crossed (change <$> bridge) state crossings result ending ↔
      ∃ inner, Crossed bridge state crossings inner ending ∧ result = inner.map change :=
  Dialogue.ran_map

theorem crossed_ask_ofOutcome {call : Call} {outcome : call.Answer → Except Fault α}
    {result : Except Fault α} :
    Crossed (ask call >>= fun reply => ofOutcome (outcome reply)) state crossings result ending ↔
      ∃ reply, crossings = [⟨call, reply⟩] ∧ result = outcome reply ∧ ending = state := by
  rw [crossed_ask_bind]
  constructor
  · rintro ⟨reply, _, tail, rfl⟩
    obtain ⟨rfl, rfl, rfl⟩ := crossed_ofOutcome.1 tail
    exact ⟨reply, rfl, rfl, rfl⟩
  · rintro ⟨reply, rfl, rfl, rfl⟩
    exact ⟨reply, [], crossed_ofOutcome.2 ⟨rfl, rfl, rfl⟩, rfl⟩

theorem crossed_script {place : Option Element} {script : Script} {result : Except Fault Json} :
    Crossed (ask (.evaluate place script) >>= fun reply => ofOutcome reply) state crossings result
        ending ↔
      crossings = [⟨.evaluate place script, result⟩] ∧ ending = state := by
  refine crossed_ask_ofOutcome.trans ?_
  constructor
  · rintro ⟨_, rfl, rfl, rfl⟩
    exact ⟨rfl, rfl⟩
  · rintro ⟨rfl, rfl⟩
    exact ⟨_, rfl, rfl, rfl⟩

theorem crossed_evaluate {script : Script} {result : Except Fault Json} :
    Crossed (evaluate script) state crossings result ending ↔
      crossings = [⟨.evaluate none script, result⟩] ∧ ending = state :=
  crossed_script

theorem crossed_evaluateOn {element : Element} {script : Script} {result : Except Fault Json} :
    Crossed (evaluateOn (some element) script) state crossings result ending ↔
      crossings = [⟨.evaluate (some element) script, result⟩] ∧ ending = state :=
  crossed_script

def acted (what : String) (details : List (String × Json)) :
    Except Fault α → Except Fault α
  | .error (.page message) => .error (.guide (.action (what ++ " failed: " ++ message) details))
  | result => result

theorem acted_eq_ok {what : String} {details : List (String × Json)} {result : Except Fault α}
    {value : α} (same : acted what details result = .ok value) : result = .ok value := by
  unfold acted at same
  split at same
  · cases same
  · exact same

theorem crossed_acting {what : String} {details : List (String × Json)} {act : Bridge α}
    {result : Except Fault α} :
    Crossed (acting what details act) state crossings result ending ↔
      ∃ inner, Crossed act state crossings inner ending ∧ result = acted what details inner := by
  refine Dialogue.conducted_bind_iff.trans ?_
  constructor
  · rintro ⟨⟨inner, middle⟩, first, second, head, last, rfl⟩
    have same : second = [] ∧ result = acted what details inner ∧ ending = middle := by
      cases inner with
      | ok value => exact crossed_pure.1 last
      | error fault =>
          cases fault with
          | page message => exact crossed_throw.1 last
          | _ => exact crossed_throw.1 last
    obtain ⟨rfl, rfl, rfl⟩ := same
    exact ⟨inner, by rwa [List.append_nil], rfl⟩
  · rintro ⟨inner, crossed, rfl⟩
    refine ⟨(inner, ending), crossings, [], crossed, ?_, by simp⟩
    cases inner with
    | ok value => exact crossed_pure.2 ⟨rfl, rfl, rfl⟩
    | error fault =>
        cases fault with
        | page message => exact crossed_throw.2 ⟨rfl, rfl, rfl⟩
        | _ => exact crossed_throw.2 ⟨rfl, rfl, rfl⟩

/-! The styles of highlights. -/

/-- The bridge neither adds the styles nor takes note of them. -/
def Plain (styled : Bool) (bridge : Bridge α) : Prop :=
  ∀ ⦃crossings result ending⦄, Crossed bridge ⟨styled⟩ crossings result ending →
    ending = ⟨styled⟩ ∧ ∀ crossing ∈ crossings, crossing.call ≠ .addStyles

section Plain

variable {styled : Bool}

theorem plain_pure (value : α) : Plain styled (pure value : Bridge α) := by
  intro crossings result ending crossed
  obtain ⟨rfl, -, rfl⟩ := crossed_pure.1 crossed
  exact ⟨rfl, by simp⟩

theorem plain_throw (fault : Fault) : Plain styled (throw fault : Bridge α) := by
  intro crossings result ending crossed
  obtain ⟨rfl, -, rfl⟩ := crossed_throw.1 crossed
  exact ⟨rfl, by simp⟩

theorem plain_bind {bridge : Bridge α} {next : α → Bridge β} (first : Plain styled bridge)
    (second : ∀ value, Plain styled (next value)) : Plain styled (bridge >>= next) := by
  intro crossings result ending crossed
  rcases crossed_bind.1 crossed with ⟨value, _, _, _, head, last, rfl⟩ | ⟨fault, failed, rfl⟩
  · obtain ⟨rfl, here⟩ := first head
    obtain ⟨rfl, later⟩ := second value last
    exact ⟨rfl, List.forall_mem_append.2 ⟨here, later⟩⟩
  · exact first failed

theorem plain_ask {call : Call} (other : call ≠ .addStyles) : Plain styled (ask call) := by
  intro crossings result ending crossed
  obtain ⟨reply, rfl, -, rfl⟩ := crossed_ask.1 crossed
  exact ⟨rfl, by simpa using other⟩

theorem plain_discard {bridge : Bridge α} (plain : Plain styled bridge) :
    Plain styled (discard bridge) := by
  intro crossings result ending crossed
  obtain ⟨_, inner, -⟩ := crossed_map.1 crossed
  exact plain inner

theorem plain_acting {what : String} {details : List (String × Json)} {act : Bridge α}
    (plain : Plain styled act) : Plain styled (acting what details act) := by
  intro crossings result ending crossed
  obtain ⟨_, inner, -⟩ := crossed_acting.1 crossed
  exact plain inner

theorem plain_ofOutcome (outcome : Except Fault α) : Plain styled (ofOutcome outcome) := by
  cases outcome with
  | ok value => exact plain_pure value
  | error fault => exact plain_throw fault

theorem plain_evaluate (script : Script) : Plain styled (evaluate script) :=
  plain_bind (plain_ask Call.noConfusion) plain_ofOutcome

theorem plain_evaluateOn (element : Element) (script : Script) :
    Plain styled (evaluateOn (some element) script) :=
  plain_bind (plain_pure element) fun _ =>
    plain_bind (plain_ask Call.noConfusion) plain_ofOutcome

theorem plain_asText (value : Json) : Plain styled (asText value) := by
  unfold asText
  split
  · exact plain_pure _
  · exact plain_throw _

theorem plain_asTexts (value : Json) : Plain styled (asTexts value) := by
  unfold asTexts
  split
  · exact plain_pure _
  · exact plain_throw _

theorem plain_asPairs (value : Json) : Plain styled (asPairs value) := by
  unfold asPairs
  split
  · exact plain_pure _
  · exact plain_throw _

theorem plain_query (selector : String) (root : Option Element) :
    Plain styled (query selector root) := by
  refine plain_bind (plain_ask Call.noConfusion) fun reply => ?_
  split
  · split
    · exact plain_throw _
    · exact plain_throw _
  · exact plain_throw _
  · refine plain_bind (plain_ask Call.noConfusion) fun properties => ?_
    refine plain_bind (plain_ofOutcome _) fun listed => plain_bind (plain_ofOutcome _) fun found => ?_
    exact plain_bind (plain_ask Call.noConfusion) fun freed =>
      plain_bind (plain_ofOutcome _) fun _ => plain_pure _

theorem plain_location : Plain styled location := by
  refine plain_bind (plain_ask Call.noConfusion) fun address => ?_
  split
  · exact plain_pure _
  · exact plain_throw _

theorem plain_waitIdle (timeout threshold : Json) : Plain styled (waitIdle timeout threshold) := by
  refine plain_bind (plain_ask Call.noConfusion) fun reply => ?_
  split
  · exact plain_pure _
  · exact plain_bind (plain_ask Call.noConfusion) fun _ =>
      plain_bind (plain_ofOutcome _) fun _ => plain_pure _

theorem plain_settle (threshold : Json) : Plain styled (settle threshold) := by
  refine plain_bind (plain_discard (plain_ask Call.noConfusion)) fun _ => ?_
  refine plain_bind (plain_ofOutcome _) fun positive => ?_
  split
  · exact plain_discard (plain_waitIdle _ _)
  · exact plain_pure _

theorem plain_scroll (element : Element) (duration : Json) :
    Plain styled (scroll element duration) := by
  refine plain_bind (plain_ask Call.noConfusion) fun reply => ?_
  split
  · exact plain_pure _
  · exact plain_ofOutcome _

theorem plain_ensureStyles : Plain true ensureStyles := by
  intro crossings result ending crossed
  rw [ensureStyles, crossed_get_bind] at crossed
  exact plain_pure () crossed

theorem plain_answer (threshold : Json) {call : PageCall}
    (known : styled = true ∨ ∀ element duration, call ≠ .highlight element duration) :
    Plain styled (answer threshold call) := by
  cases call with
  | query selector root => exact plain_query selector root
  | text element =>
      exact plain_bind (plain_bind (plain_pure element) fun _ => plain_bind
        (plain_ask Call.noConfusion) fun _ => plain_bind (plain_ofOutcome _) fun _ =>
          plain_pure _) plain_asText
  | directText element | renderedText element =>
      exact plain_bind (plain_evaluateOn element _) plain_asText
  | attributes element => exact plain_bind (plain_evaluateOn element _) plain_asPairs
  | contains container element =>
      exact plain_bind (plain_evaluateOn container _) fun _ => plain_pure _
  | location => exact plain_location
  | click element => exact plain_acting (plain_discard (plain_evaluateOn element _))
  | highlight element duration =>
      -- the one call that is known not to be asked for, unless the styles are there
      obtain rfl | other := known
      · exact plain_bind plain_ensureStyles fun _ => plain_bind (plain_pure element) fun _ =>
          plain_bind (plain_scroll _ duration) fun _ =>
            plain_acting (plain_discard (plain_evaluateOn element _))
      · exact absurd rfl (other element duration)
  | setValue element value =>
      exact plain_bind (plain_acting (plain_evaluateOn element _)) plain_asText
  | formEvents element tag =>
      exact plain_bind (plain_acting (plain_bind (plain_pure element) fun present =>
        plain_bind (plain_ofOutcome _) fun _ => plain_evaluateOn present _)) plain_asTexts
  | pushRoute path => exact plain_acting (plain_discard (plain_evaluate _))
  | openExternal address => exact plain_acting (plain_discard (plain_evaluate _))
  | markCompleted elements => exact plain_discard (plain_evaluate _)
  | clearCompleted elements => exact plain_discard (plain_evaluate _)
  | completionEvent element state => exact plain_discard (plain_evaluate _)
  | settle => exact plain_settle threshold

end Plain

end Bridge

end Walkthrough.Browser
