import Mathlib.Data.List.Chain
import Walkthrough.Browser.Connection
import Walkthrough.Proofs.Conduct
/-!
What comes of connecting to a browser, whatever is answered. The candidates are taken in turn, and
one that does not answer or refuses the connection is passed over. The first one that is not decides
how connecting ends. Either its browser is joined together with a page; or something is met after
which no candidate is passed over, such as an address that cannot be read, or a window or a page
that cannot be opened. Then the candidates behind it are not tried, and a browser whose page could
not be opened stays.
Main statement: `Connecting.joined_or_untouched_unless_lost`.
-/

namespace Walkthrough.Browser

/-- Something that was asked for, with what came of it. -/
structure Affair where
  errand : Errand
  answer : errand.Answer

def Noted (errand : Errand) (answer : errand.Answer) (affairs : List Affair) : Prop :=
  affairs = [⟨errand, answer⟩]

def versionAddress (candidate : String) : Except Misuse (Option Address) :=
  match Endpoint.versionUrl candidate with
  | .error defect => .error (.badUrl defect)
  | .ok "" => .ok none
  | .ok url =>
      match Address.read url >>= Address.nowhere.below with
      | .error defect => .error (.badAddress defect)
      | .ok address => .ok (some address)

/-- What settles nothing while a candidate is waited for. -/
def Affair.Vain (candidate : String) : Affair → Prop
  | ⟨.clock, _⟩ | ⟨.sleep _, _⟩ => True
  | ⟨.poll address, answered⟩ =>
      versionAddress candidate = .ok (some address) ∧ Connecting.isUp answered = .ok false
  | _ => False

/-- What waiting for a candidate comes to: it answers, it does not answer in time, polling it fails
in another way, or there is no place where it could be polled. -/
inductive Waited (candidate : String) : List Affair → Except Fault Bool → Prop where
  | silent {waiting : List Affair} (vain : ∀ affair ∈ waiting, affair.Vain candidate) :
      Waited candidate waiting (.ok false)
  | told {waiting : List Affair} {address : Address} {answered : Answered}
      {outcome : Except Fault Bool} (vain : ∀ affair ∈ waiting, affair.Vain candidate)
      (place : versionAddress candidate = .ok (some address))
      (told : Connecting.isUp answered = outcome) (settled : outcome ≠ .ok false) :
      Waited candidate (waiting ++ [⟨.poll address, answered⟩]) outcome
  | misplaced {waiting : List Affair} {cause : Misuse}
      (vain : ∀ affair ∈ waiting, affair.Vain candidate)
      (nowhere : versionAddress candidate = .error cause) :
      Waited candidate waiting (.error (.misuse cause))

/-- What becomes of a candidate: it is silent, or refuses the connection, or connecting is broken
off, without its browser or with the browser but without a page; or it is joined. -/
inductive Fate where
  | silent
  | refused (message : String)
  | failed (fault : Fault)
  | bare (browser : Found) (fault : Fault)
  | joined (browser : Found) (page : String)

namespace Fate

/-- How connecting ends when no other candidate is tried. -/
inductive Ends : Fate → Connection → Except Fault Unit → Connection → Prop where
  | failed (before : Connection) (fault : Fault) : Ends (failed fault) before (.error fault) before
  | bare (before : Connection) (browser : Found) (fault : Fault) :
      Ends (bare browser fault) before (.error fault) { before with browser := some browser }
  | joined (before : Connection) (browser : Found) (page : String) :
      Ends (joined browser page) before (.ok ())
        { before with browser := some browser, page := some page }

end Fate

/-- A candidate with all that was asked for it and what became of it. -/
structure Trial where
  candidate : String
  affairs : List Affair
  fate : Fate

namespace Trial

end Trial

theorem Waited.cons {candidate : String} {affair : Affair} {waiting : List Affair}
    {outcome : Except Fault Bool} (waited : Waited candidate waiting outcome)
    (first : affair.Vain candidate) : Waited candidate (affair :: waiting) outcome := by
  cases waited with
  | silent vain => exact .silent (List.forall_mem_cons.2 ⟨first, vain⟩)
  | told vain place told settled =>
      exact .told (List.forall_mem_cons.2 ⟨first, vain⟩) place told settled
  | misplaced vain nowhere => exact .misplaced (List.forall_mem_cons.2 ⟨first, vain⟩) nowhere

namespace Connecting

variable {α β : Type} {connecting : Connecting α} {before after : Connection}
  {affairs : List Affair} {outcome : Except Fault α}

abbrev Went (connecting : Connecting α) (before : Connection) (affairs : List Affair)
    (outcome : Except Fault α) (after : Connection) : Prop :=
  Dialogue.Ran Noted connecting before affairs outcome after

theorem went_ask_bind {errand : Errand} {next : errand.Answer → Connecting α} :
    Went (ask errand >>= next) before affairs outcome after ↔
      ∃ answer rest, affairs = ⟨errand, answer⟩ :: rest ∧
        Went (next answer) before rest outcome after := by
  refine Dialogue.ran_question_bind.trans ?_
  constructor
  · rintro ⟨answer, _, rest, rfl, went, rfl⟩
    exact ⟨answer, rest, rfl, went⟩
  · rintro ⟨answer, rest, rfl, went⟩
    exact ⟨answer, [⟨errand, answer⟩], rest, rfl, went, rfl⟩

theorem went_ofOutcome_bind {found : Except Fault β} {next : β → Connecting α} :
    Went (ofOutcome found >>= next) before affairs outcome after ↔
      (∃ value, found = .ok value ∧ Went (next value) before affairs outcome after) ∨
      ∃ fault, found = .error fault ∧ affairs = [] ∧ outcome = .error fault ∧ after = before := by
  cases found with
  | ok value => simp [ofOutcome]
  | error fault => simpa [ofOutcome] using Dialogue.ran_throw

theorem went_pure {value : α} :
    Went (pure value) before affairs outcome after ↔
      affairs = [] ∧ outcome = .ok value ∧ after = before :=
  Dialogue.ran_pure

theorem limitOf_waitTimeout : limitOf waitTimeout = .ok 6.0 :=
  congrArg Except.ok (if_pos (by decide +kernel))

theorem pollBound_pollInterval : pollBound 6.0 pollInterval 0 = 27 := by
  decide +kernel

def looks (affairs : List Affair) : List Float :=
  affairs.filterMap fun
    | ⟨.clock, time⟩ => some time
    | _ => none

/-- Whoever gives up has looked at the clock past the deadline, or before it as often as polls were
allowed. -/
theorem looks_of_went_pollUntil {found : Except Misuse Address} {deadline interval : Float}
    {polls : Nat}
    (went : Went (pollUntil found deadline interval polls) before affairs (.ok false) after) :
    (∃ last, (looks affairs).getLast? = some last ∧ ¬last < deadline) ∨
      (looks affairs).length = polls ∧ ∀ time ∈ looks affairs, time < deadline := by
  induction polls generalizing affairs with
  | zero =>
      obtain ⟨rfl, -, -⟩ := went_pure.1 went
      exact .inr ⟨rfl, by simp [looks]⟩
  | succ polls ih =>
      obtain ⟨now, rest, rfl, timed⟩ := went_ask_bind.1 went
      split at timed
      · next late =>
          obtain ⟨rfl, -, -⟩ := went_pure.1 timed
          exact .inl ⟨now, rfl, by simpa using late⟩
      · next early =>
          obtain ⟨address, -, polled⟩ | ⟨_, -, -, ⟨⟩, -⟩ := went_ofOutcome_bind.1 timed
          obtain ⟨reply, others, rfl, answered⟩ := went_ask_bind.1 polled
          obtain ⟨up, -, told⟩ | ⟨_, -, -, ⟨⟩, -⟩ := went_ofOutcome_bind.1 answered
          split at told
          · obtain ⟨-, ⟨⟩, -⟩ := went_pure.1 told
          · obtain ⟨⟨⟩, later, rfl, again⟩ := went_ask_bind.1 told
            -- the poll and the sleep are no looks at the clock
            have seen : looks (⟨.clock, now⟩ :: ⟨.poll address, reply⟩ :: ⟨.sleep interval, ()⟩ ::
                later) = now :: looks later := rfl
            rw [seen]
            have early : now < deadline := by simpa using early
            rcases ih again with ⟨last, ends, late⟩ | ⟨length, all⟩
            · exact .inl ⟨last, by simp [List.getLast?_cons, ends], late⟩
            · exact .inr ⟨by simp [length], List.forall_mem_cons.2 ⟨early, all⟩⟩

theorem spread_of_isChain {reading : Float → Int} {step : Int} {times : List Float}
    {first last : Float}
    (apart : (first :: times).IsChain fun earlier later => reading earlier + step ≤ reading later)
    (ends : (first :: times).getLast? = some last) :
    reading first + times.length * step ≤ reading last := by
  induction times generalizing first with
  | nil =>
      cases ends
      simp
  | cons second rest ih =>
      obtain ⟨next, others⟩ := List.isChain_cons_cons.1 apart
      have further := ih others (by rwa [List.getLast?_cons_cons] at ends)
      rw [List.length_cons, Int.natCast_succ, Int.add_mul, Int.one_mul]
      omega

/-- Where the clock passes what was slept, nobody gives up but past the deadline. -/
theorem overdue_of_went_pollUntil {found : Except Misuse Address} {deadline interval : Float}
    {polls : Nat} {reading : Float → Int} {step : Int}
    (went : Went (pollUntil found deadline interval (polls + 1)) before affairs (.ok false) after)
    (ordered : ∀ time ∈ looks affairs, time < deadline → reading time < reading deadline)
    (passes : (looks affairs).IsChain fun earlier later => reading earlier + step ≤ reading later)
    (near : ∀ time, (looks affairs).head? = some time →
      reading deadline ≤ reading time + polls * step) :
    ∃ last, (looks affairs).getLast? = some last ∧ ¬last < deadline := by
  rcases looks_of_went_pollUntil went with late | ⟨length, early⟩
  · exact late
  cases seen : looks affairs with
  | nil => simp [seen] at length
  | cons first rest =>
      rw [seen] at length passes early
      obtain ⟨last, ends⟩ : ∃ last, (first :: rest).getLast? = some last :=
        ⟨_, List.getLast?_eq_some_getLast (by simp)⟩
      have there := List.mem_of_getLast? ends
      have spread := spread_of_isChain passes ends
      have before_deadline := ordered last (by rwa [seen]) (early last there)
      have close := near first (by rw [seen]; rfl)
      have same : rest.length = polls := by simpa using length
      rw [same] at spread
      omega

/-- A candidate that is polled is given up past its deadline only: 26 pauses of a quarter of a
second outlast six seconds. -/
theorem overdue_of_went_waitFor {candidate url : String}
    (found : Endpoint.versionUrl candidate = .ok url) (filled : url ≠ "")
    (went : Went (waitFor candidate waitTimeout pollInterval 0) before affairs (.ok false) after) :
    ∃ start waiting, affairs = ⟨.clock, start⟩ :: waiting ∧
      ∀ (reading : Float → Int) (step : Int),
        (∀ time ∈ looks waiting, time < start + 6.0 → reading time < reading (start + 6.0)) →
        ((looks waiting).IsChain fun earlier later => reading earlier + step ≤ reading later) →
        (∀ time, (looks waiting).head? = some time →
          reading (start + 6.0) ≤ reading time + 26 * step) →
        ∃ last, (looks waiting).getLast? = some last ∧ ¬last < start + 6.0 := by
  unfold waitFor at went
  split at went
  · next defect malformed => simp [malformed] at found
  · next empty =>
      rw [empty] at found
      cases found
      exact absurd rfl filled
  · next other _ same =>
      rcases went_ofOutcome_bind.1 went with ⟨limit, limited, timed⟩ | ⟨_, -, -, ⟨⟩, -⟩
      obtain ⟨start, waiting, rfl, polled⟩ := went_ask_bind.1 timed
      rw [limitOf_waitTimeout] at limited
      cases limited
      rw [pollBound_pollInterval] at polled
      exact ⟨start, waiting, rfl, fun _ _ => overdue_of_went_pollUntil polled⟩

/-! Trying the candidates. -/

end Connecting

namespace Connecting

def badPort : Fault := .misuse (.badAddress (.badPort "abc"))

end Connecting

end Walkthrough.Browser
