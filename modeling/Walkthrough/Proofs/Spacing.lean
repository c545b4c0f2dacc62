import Mathlib.Algebra.Order.Group.Int
import Mathlib.Algebra.Order.Group.Unbundled.Basic
import Walkthrough.Proofs.Freshness
/-!
How often a provider asks its server for the same thing. Time may pass at any moment, also while a
reply is awaited. A reply that says something is not asked for again while it is young enough; one
that says null is never found again, since null is also how a missing reply is told, and so its
request is repeated each time. The account is kept by the keys under which replies are filed.
Main statement: `Facts.asked_again_late_or_after_null`.
-/

namespace Walkthrough.Facts

/-! What can be noticed of a provider, with the times. -/

/-- A look at the clock, or a request with the time at which it was sent and what came of it. -/
inductive Deed (time : Type) where
  | looked (now : time)
  | asked (sent : time) (fetch : Fetch) (reply : Answered)

namespace Deed

variable {time : Type}

def moment : Deed time → time
  | looked now => now
  | asked sent _ _ => sent

def Asks (key : String) : Deed time → Prop
  | looked _ => False
  | asked _ fetch _ => fetch.key = key

/-- A request whose reply said something other than null. -/
def Settles (key : String) : Deed time → Prop
  | looked _ => False
  | asked _ fetch reply =>
      fetch.key = key ∧ ∃ content, reply.bind Reply.read = .ok content ∧ content ≠ .null

end Deed

variable {time α β : Type} {log deeds : List (Deed time)} {cache after : Cache time} {ttl : time}
  {fetch : Fetch} {key : String}

def Noted : (errand : Errand) → errand.Answer time → List (Deed time) → Prop
  | .clock, now, record => record = [.looked now]
  | .fetch fetch, reply, record => ∃ sent, record = [.asked sent fetch reply]

/-- With these deeds the lookup comes to this outcome, and leaves these replies behind. -/
def Served.Done (lookup : Served time α) (cache : Cache time) (deeds : List (Deed time))
    (outcome : Except Fault α) (after : Cache time) : Prop :=
  Dialogue.Ran Noted lookup cache deeds outcome after

namespace Served

theorem done_clock_bind {next : time → Served time α} {outcome : Except Fault α} :
    Done (errand .clock >>= next) cache deeds outcome after ↔
      ∃ now rest, deeds = .looked now :: rest ∧ Done (next now) cache rest outcome after := by
  refine Dialogue.ran_question_bind.trans ?_
  constructor
  · rintro ⟨now, _, rest, rfl, done, rfl⟩
    exact ⟨now, rest, rfl, done⟩
  · rintro ⟨now, rest, rfl, done⟩
    exact ⟨now, [.looked now], rest, rfl, done, rfl⟩

/-- A look at the clock, with nothing else asked behind it. -/
theorem done_clock_done {next : time → Served time α} {value : time → α}
    {left : time → Cache time} {outcome : Except Fault α}
    (asks_nothing : ∀ now, (next now).run.run cache = .done (.ok (value now), left now)) :
    Done (errand .clock >>= next) cache deeds outcome after ↔
      ∃ now, deeds = [.looked now] ∧ outcome = .ok (value now) ∧ after = left now := by
  refine done_clock_bind.trans ?_
  constructor
  · rintro ⟨now, _, rfl, done⟩
    rw [Done, Dialogue.Ran, asks_nothing] at done
    obtain ⟨rfl, same⟩ := Dialogue.conducted_done_iff.1 done
    cases same
    exact ⟨now, rfl, rfl, rfl⟩
  · rintro ⟨now, rfl, rfl, rfl⟩
    refine ⟨now, [], rfl, ?_⟩
    rw [Done, Dialogue.Ran, asks_nothing]
    exact .done _

theorem done_fetch_bind {next : Answered → Served time α} {outcome : Except Fault α} :
    Done (errand (.fetch fetch) >>= next) cache deeds outcome after ↔
      ∃ sent reply rest, deeds = .asked sent fetch reply :: rest ∧
        Done (next reply) cache rest outcome after := by
  refine Dialogue.ran_question_bind.trans ?_
  constructor
  · rintro ⟨reply, _, rest, ⟨sent, rfl⟩, done, rfl⟩
    exact ⟨sent, reply, rest, rfl, done⟩
  · rintro ⟨sent, reply, rest, rfl, done⟩
    exact ⟨reply, [.asked sent fetch reply], rest, ⟨sent, rfl⟩, done, rfl⟩

theorem done_keep {content : Json} {outcome : Except Fault Unit} :
    Done (keep key content) cache deeds outcome after ↔
      ∃ stored, deeds = [.looked stored] ∧ outcome = .ok () ∧
        after = cache.set stored key content :=
  done_clock_done fun _ => rfl

theorem done_settle {reply : Answered} {outcome : Except Fault Json} :
    Done (settle fetch reply) cache deeds outcome after ↔
      outcome = reply.bind Reply.read ∧
        ((∃ content stored, reply.bind Reply.read = .ok content ∧ deeds = [.looked stored] ∧
          after = cache.set stored fetch.key content) ∨
        ∃ fault, reply.bind Reply.read = .error fault ∧ deeds = [] ∧ after = cache) := by
  cases said : reply.bind Reply.read with
  | ok content =>
      cases reply with
      | error fault => cases said
      | ok reply =>
          have said : reply.read = .ok content := said
          simp only [settle, said, bind_pure_comp]
          refine Dialogue.ran_map.trans ?_
          constructor
          · rintro ⟨_, kept, rfl⟩
            obtain ⟨stored, rfl, rfl, rfl⟩ := done_keep.1 kept
            exact ⟨rfl, .inl ⟨content, stored, rfl, rfl, rfl⟩⟩
          · rintro ⟨rfl, ⟨_, stored, ⟨⟩, rfl, rfl⟩ | ⟨_, ⟨⟩, -⟩⟩
            exact ⟨.ok (), done_keep.2 ⟨stored, rfl, rfl, rfl⟩, rfl⟩
  | error fault =>
      have failing : settle fetch reply = (throw fault : Served time Json) := by
        cases reply with
        | error other => cases said; rfl
        | ok reply =>
            have said : reply.read = .error fault := said
            simp only [settle, said]
      rw [failing]
      refine Dialogue.ran_throw.trans ?_
      constructor
      · rintro ⟨rfl, rfl, rfl⟩
        exact ⟨rfl, .inr ⟨fault, rfl, rfl, rfl⟩⟩
      · rintro ⟨rfl, ⟨_, _, ⟨⟩, -⟩ | ⟨_, -, rfl, rfl⟩⟩
        exact ⟨rfl, rfl, rfl⟩

variable [Sub time] [LE time] [LT time] [OfNat time 0] [DecidableLE time] [DecidableLT time]

theorem done_kept {outcome : Except Fault Json} :
    Done (kept key) cache deeds outcome after ↔
      ∃ now, deeds = [.looked now] ∧ outcome = .ok (cache.get now key).1 ∧
        after = (cache.get now key).2 :=
  done_clock_done fun _ => rfl

theorem done_value {outcome : Except Fault Json} :
    Done (value fetch) cache deeds outcome after ↔ ∃ now rest, deeds = .looked now :: rest ∧
      if (cache.get now fetch.key).1 = .null then
        ∃ sent reply later, rest = .asked sent fetch reply :: later ∧
          Done (settle fetch reply) (cache.get now fetch.key).2 later outcome after
      else rest = [] ∧ outcome = .ok (cache.get now fetch.key).1 ∧
        after = (cache.get now fetch.key).2 := by
  have asks {now : time} {rest : List (Deed time)} :
      Done (if (cache.get now fetch.key).1 = .null then errand (.fetch fetch) >>= settle fetch
        else pure (cache.get now fetch.key).1) (cache.get now fetch.key).2 rest outcome after ↔
      if (cache.get now fetch.key).1 = .null then
        ∃ sent reply later, rest = .asked sent fetch reply :: later ∧
          Done (settle fetch reply) (cache.get now fetch.key).2 later outcome after
      else rest = [] ∧ outcome = .ok (cache.get now fetch.key).1 ∧
        after = (cache.get now fetch.key).2 := by
    split
    · exact done_fetch_bind
    · exact Dialogue.ran_pure
  rw [value_eq]
  refine Dialogue.ran_bind.trans ?_
  constructor
  · rintro (⟨content, _, _, rest, found, done, rfl⟩ | ⟨_, failed, -⟩)
    · obtain ⟨now, rfl, ⟨⟩, rfl⟩ := done_kept.1 found
      exact ⟨now, rest, rfl, asks.1 done⟩
    · obtain ⟨_, -, ⟨⟩, -⟩ := done_kept.1 failed
  · rintro ⟨now, rest, rfl, done⟩
    exact .inl ⟨_, _, [.looked now], rest, done_kept.2 ⟨now, rfl, rfl, rfl⟩, asks.2 done, rfl⟩

end Served

/-! What is kept, and what has been asked for. -/

section Times

variable [AddCommGroup time] [LinearOrder time]

def Ordered (log : List (Deed time)) : Prop :=
  log.Pairwise fun earlier later => earlier.moment ≤ later.moment

/-- Whatever was settled is not asked for before its time is over. -/
def Spaced (ttl : time) (log : List (Deed time)) : Prop :=
  log.Pairwise fun earlier later => ∀ key, earlier.Settles key → later.Asks key →
    ttl < later.moment - earlier.moment

/-- The provider has found out that a settled request has become too old. -/
def Lapsed (ttl : time) (log : List (Deed time)) (deed : Deed time) : Prop :=
  ∃ now, .looked now ∈ log ∧ ttl < now - deed.moment

theorem Lapsed.mono {deed : Deed time} {longer : List (Deed time)} (lapsed : Lapsed ttl log deed)
    (included : log ⊆ longer) : Lapsed ttl longer deed := by
  obtain ⟨now, looked, late⟩ := lapsed
  exact ⟨now, included looked, late⟩

/-- What is kept was settled by a request and has been there since a look at the clock; and a
settled request is either kept, or one made later under its key is, or it has become too old. -/
structure Accounts (ttl : time) (log : List (Deed time)) (cache : Cache time) : Prop where
  ttl_eq : cache.ttl = ttl
  spaced : Spaced ttl log
  sourced : ∀ key content stored, cache.find? key = some (content, stored) → content ≠ .null →
    ∃ deed ∈ log, deed.Settles key ∧ deed.moment ≤ stored ∧ .looked stored ∈ log
  covered : ∀ deed ∈ log, ∀ key, deed.Settles key →
    (∃ content stored, cache.find? key = some (content, stored) ∧ content ≠ .null ∧
      deed.moment ≤ stored) ∨ Lapsed ttl log deed

theorem accounts_empty (ttl : time) : Accounts ttl [] (Cache.empty ttl) where
  ttl_eq := rfl
  spaced := .nil
  sourced _ _ _ found := by cases found
  covered := by simp

theorem Accounts.concat {deed : Deed time} (accounts : Accounts ttl log cache)
    (idle : ∀ key, ¬ deed.Settles key)
    (late : ∀ earlier ∈ log, ∀ key, earlier.Settles key → deed.Asks key →
      ttl < deed.moment - earlier.moment) : Accounts ttl (log ++ [deed]) cache where
  ttl_eq := accounts.ttl_eq
  spaced := by
    refine List.pairwise_append.2 ⟨accounts.spaced, List.pairwise_singleton _ _, ?_⟩
    simpa using late
  sourced key content stored found there := by
    obtain ⟨source, among, settles, before, looked⟩ :=
      accounts.sourced key content stored found there
    exact ⟨source, List.mem_append_left _ among, settles, before, List.mem_append_left _ looked⟩
  covered earlier among key settles := by
    rcases List.mem_append.1 among with known | new
    · exact (accounts.covered earlier known key settles).imp_right
        (·.mono (List.subset_append_left _ _))
    · cases List.mem_singleton.1 new
      exact absurd settles (idle key)

theorem Accounts.looked {now : time} (accounts : Accounts ttl log cache) :
    Accounts ttl (log ++ [.looked now]) cache :=
  accounts.concat (fun _ => id) fun _ _ _ _ => False.elim

/-! What lookups keep true. -/

def Accountable (ttl : time) (lookup : Served time α) : Prop :=
  ∀ ⦃log : List (Deed time)⦄ ⦃cache : Cache time⦄ ⦃deeds : List (Deed time)⦄
    ⦃outcome : Except Fault α⦄ ⦃after : Cache time⦄, Accounts ttl log cache →
    lookup.Done cache deeds outcome after → Ordered (log ++ deeds) →
    Accounts ttl (log ++ deeds) after

theorem accountable_pure (value : α) : Accountable ttl (pure value : Served time α) := by
  intro log cache deeds outcome after accounts done _
  obtain ⟨rfl, -, rfl⟩ := Dialogue.ran_pure.1 done
  simpa using accounts

theorem accountable_throw (fault : Fault) : Accountable ttl (throw fault : Served time α) := by
  intro log cache deeds outcome after accounts done _
  obtain ⟨rfl, -, rfl⟩ := Dialogue.ran_throw.1 done
  simpa using accounts

theorem accountable_ofExcept (result : Except Fault α) :
    Accountable ttl (Served.ofExcept result : Served time α) := by
  cases result with
  | ok value => exact accountable_pure value
  | error fault => exact accountable_throw fault

theorem Accountable.bind {lookup : Served time α} {next : α → Served time β}
    (head : Accountable ttl lookup) (tail : ∀ value, Accountable ttl (next value)) :
    Accountable ttl (lookup >>= next) := by
  intro log cache deeds outcome after accounts done ordered
  rcases Dialogue.ran_bind.1 done with
    ⟨value, middle, first, second, started, ended, rfl⟩ | ⟨fault, failed, -⟩
  · rw [← List.append_assoc] at ordered ⊢
    have between := head accounts started (List.pairwise_append.1 ordered).1
    exact tail value between ended ordered
  · exact head accounts failed ordered

theorem Accountable.tryCatch {lookup : Served time α} {rescue : Fault → Served time α}
    (head : Accountable ttl lookup) (tail : ∀ fault, Accountable ttl (rescue fault)) :
    Accountable ttl (tryCatch lookup rescue) := by
  intro log cache deeds outcome after accounts done ordered
  rcases Dialogue.ran_tryCatch.1 done with
    ⟨value, succeeded, -⟩ | ⟨fault, middle, first, second, started, ended, rfl⟩
  · exact head accounts succeeded ordered
  · rw [← List.append_assoc] at ordered ⊢
    have between := head accounts started (List.pairwise_append.1 ordered).1
    exact tail fault between ended ordered

theorem Accountable.map {lookup : Served time α} (head : Accountable ttl lookup)
    (change : α → β) : Accountable ttl (change <$> lookup) := by
  rw [← bind_pure_comp]
  exact head.bind fun value => accountable_pure (change value)

/-! One value, asked for or found. -/

variable [IsOrderedAddMonoid time] {now : time}

theorem Lapsed.late {deed : Deed time} {moment : time} (lapsed : Lapsed ttl log deed)
    (past : ∀ earlier ∈ log, earlier.moment ≤ moment) : ttl < moment - deed.moment := by
  obtain ⟨now, looked, late⟩ := lapsed
  have before : now ≤ moment := past _ looked
  exact late.trans_le (sub_le_sub_right before _)

theorem Accounts.missed (accounts : Accounts ttl log cache)
    (past : ∀ earlier ∈ log, earlier.moment ≤ now) (null : (cache.get now key).1 = .null) :
    ∀ deed ∈ log, deed.Settles key → ttl < now - deed.moment := by
  intro deed among settles
  rcases accounts.covered deed among key settles with
    ⟨content, stored, found, there, before⟩ | lapsed
  · have late := Cache.late_of_null found there null
    rw [accounts.ttl_eq] at late
    exact late.trans_le (sub_le_sub_left before _)
  · exact lapsed.late past

theorem Accounts.given_up (accounts : Accounts ttl log cache)
    (past : ∀ earlier ∈ log, earlier.moment ≤ now) (null : (cache.get now key).1 = .null) :
    Accounts ttl (log ++ [.looked now]) (cache.get now key).2 where
  ttl_eq := Cache.ttl_get.trans accounts.ttl_eq
  spaced := accounts.looked.spaced
  sourced other content stored found := accounts.looked.sourced other content stored
    (Cache.of_find?_get null found).1
  covered deed among other settles := by
    by_cases same : other = key
    · subst same
      rcases List.mem_append.1 among with known | new
      · exact .inr ⟨now, by simp, accounts.missed past null deed known settles⟩
      · cases List.mem_singleton.1 new
        exact settles.elim
    · rw [Cache.find?_get_of_ne same]
      exact accounts.looked.covered deed among other settles

theorem Accounts.replied {sent stored : time} {reply : Answered} {content : Json}
    (accounts : Accounts ttl log cache)
    (lapsed : ∀ deed ∈ log, deed.Settles fetch.key → Lapsed ttl log deed)
    (ordered : Ordered (log ++ [.asked sent fetch reply, .looked stored]))
    (read : reply.bind Reply.read = .ok content) :
    Accounts ttl (log ++ [.asked sent fetch reply, .looked stored])
      (cache.set stored fetch.key content) := by
  obtain ⟨-, together, past⟩ := List.pairwise_append.1 ordered
  have awaited : sent ≤ stored := List.rel_of_pairwise_cons together (List.mem_singleton_self _)
  have included := List.subset_append_left log [.asked sent fetch reply, .looked stored]
  refine ⟨accounts.ttl_eq, ?spaced, ?sourced, ?covered⟩
  case spaced =>
    refine List.pairwise_append.2 ⟨accounts.spaced, by simp [Deed.Asks], ?_⟩
    intro earlier among later new key settles asks
    rcases List.mem_pair.1 new with rfl | rfl
    · obtain rfl : fetch.key = key := asks
      exact (lapsed earlier among settles).late fun other known =>
        past other known _ List.mem_cons_self
    · exact asks.elim
  case sourced =>
    intro key kept since found there
    by_cases same : key = fetch.key
    · subst same
      rw [Cache.find?_set_self] at found
      cases found
      exact ⟨.asked sent fetch reply, by simp, ⟨rfl, content, read, there⟩, awaited, by simp⟩
    · rw [Cache.find?_set_of_ne same] at found
      obtain ⟨source, among, settles, before, looked⟩ := accounts.sourced key kept since found there
      exact ⟨source, included among, settles, before, included looked⟩
  case covered =>
    intro deed among key settles
    rcases List.mem_append.1 among with known | new
    · by_cases same : key = fetch.key
      · subst same
        exact .inr ((lapsed deed known settles).mono included)
      · rw [Cache.find?_set_of_ne same]
        exact (accounts.covered deed known key settles).imp_right (·.mono included)
    · rcases List.mem_pair.1 new with rfl | rfl
      · obtain ⟨rfl, said, again, there⟩ := settles
        cases read.symm.trans again
        exact .inl ⟨content, stored, Cache.find?_set_self, there, awaited⟩
      · exact settles.elim

theorem accountable_value (bounded : 0 ≤ ttl) (fetch : Fetch) :
    Accountable ttl (Served.value fetch : Served time Json) := by
  intro log cache deeds outcome after accounts done ordered
  obtain ⟨now, rest, rfl, found⟩ := Served.done_value.1 done
  rw [List.append_cons] at ordered ⊢
  have past : ∀ earlier ∈ log, earlier.moment ≤ now := fun earlier among =>
    (List.pairwise_append.1 (List.pairwise_append.1 ordered).1).2.2 earlier among _
      (List.mem_singleton_self _)
  split at found
  · next null =>
      obtain ⟨sent, reply, later, rfl, settled⟩ := found
      have looked := accounts.given_up past null
      have lapsed : ∀ deed ∈ log ++ [.looked now], deed.Settles fetch.key →
          Lapsed ttl (log ++ [.looked now]) deed := by
        intro deed among settles
        rcases List.mem_append.1 among with known | new
        · exact ⟨now, by simp, accounts.missed past null deed known settles⟩
        · cases List.mem_singleton.1 new
          exact settles.elim
      rcases (Served.done_settle.1 settled).2 with
        ⟨content, stored, read, rfl, rfl⟩ | ⟨fault, failed, rfl, rfl⟩
      · exact looked.replied lapsed ordered read
      · -- nothing is kept of a reply that cannot be read, but it must not come too early either
        refine looked.concat ?idle ?late
        case idle =>
          rintro _ ⟨-, content, read, -⟩
          cases failed.symm.trans read
        case late =>
          rintro earlier among _ settles rfl
          exact (lapsed earlier among settles).late fun other known =>
            (List.pairwise_append.1 ordered).2.2 other known _ (List.mem_singleton_self _)
  · next there =>
      obtain ⟨rfl, -, rfl⟩ := found
      obtain ⟨-, -, -, same⟩ := Cache.get_of_ne_null (accounts.ttl_eq ▸ bounded) there
      rw [same, List.append_nil]
      exact accounts.looked

theorem accountable_valueOrNull (bounded : 0 ≤ ttl) (fetch : Fetch) :
    Accountable ttl (Served.valueOrNull fetch : Served time (Option Json)) := by
  refine ((accountable_value bounded fetch).map some).tryCatch fun fault => ?_
  cases fault with
  | exchange _ => exact accountable_pure none
  | _ => exact accountable_throw _

theorem accountable_organisationRole (bounded : 0 ≤ ttl) (id : Json) :
    Accountable ttl (Served.organisationRole id : Served time Json) := by
  refine (accountable_valueOrNull bounded _).bind fun organisations => ?_
  cases organisations with
  | none => exact accountable_pure _
  | some organisations => exact accountable_ofExcept _

theorem accountable_user (bounded : 0 ≤ ttl) :
    Accountable ttl (Served.user : Served time Json) := by
  refine (accountable_valueOrNull bounded _).bind fun user => ?_
  match user with
  | some (.object fields) =>
      dsimp only
      split
      · exact accountable_pure _
      · exact (accountable_organisationRole bounded _).bind fun role => accountable_pure _
  | none | some .null | some (.bool _) | some (.int _) | some (.float _) | some (.text _)
  | some (.list _) => exact accountable_pure _

theorem accountable_lookup (bounded : 0 ≤ ttl) (asked : Lookup) :
    Accountable ttl (Served.lookup asked : Served time Json) := by
  cases asked with
  | user => exact accountable_user bounded
  | dataSources | plugins | dashboards | permissions | frontendSettings =>
      exact (accountable_value bounded _).bind fun _ => accountable_ofExcept _

/-! The whole life of a provider. -/

/-- What a provider has done and what it keeps, from the first lookup on; nothing is ever taken
back. -/
inductive Lived (ttl : time) : List (Deed time) → Cache time → Prop where
  | start : Lived ttl [] (Cache.empty ttl)
  | looked_up {log : List (Deed time)} {cache after : Cache time} {asked : Lookup}
      {deeds : List (Deed time)} {outcome : Except Fault Json} (before : Lived ttl log cache)
      (done : (Served.lookup asked).Done cache deeds outcome after) :
      Lived ttl (log ++ deeds) after

theorem Lived.accounts (bounded : 0 ≤ ttl) (lived : Lived ttl log cache) (ordered : Ordered log) :
    Accounts ttl log cache := by
  induction lived with
  | start => exact accounts_empty ttl
  | looked_up before done ih =>
      exact accountable_lookup bounded _ (ih (List.pairwise_append.1 ordered).1) done ordered

/-- Whatever is looked up and however much time passes: of two requests under one key, the later
one comes when the time of the earlier one is over, unless the earlier one failed or was told null.
And a value is looked up without a request only if the reply to an earlier one, which said something
other than null, is there since a moment that is not too long ago; so what was told null, or could
not be read, is asked for again each time. -/
theorem asked_again_late_or_after_null (bounded : 0 ≤ ttl) (lived : Lived ttl log cache)
    (ordered : Ordered log) :
    (∀ past first between second rest, log = past ++ first :: (between ++ second :: rest) →
      ∀ key, first.Asks key → second.Asks key →
        ttl < second.moment - first.moment ∨ ¬ first.Settles key) ∧
    ∀ fetch deeds outcome after, (Served.value fetch).Done cache deeds outcome after →
      Ordered (log ++ deeds) → (∀ deed ∈ deeds, ¬ deed.Asks fetch.key) →
      ∃ earlier ∈ log, earlier.Settles fetch.key ∧ ∃ stored now, earlier.moment ≤ stored ∧
        .looked stored ∈ log ∧ .looked now ∈ deeds ∧ ¬ ttl < now - stored := by
  have accounts := lived.accounts bounded ordered
  constructor
  · rintro past first between second rest rfl key _ asks
    by_cases settles : first.Settles key
    · have apart := List.rel_of_pairwise_cons (List.pairwise_append.1 accounts.spaced).2.1
        (List.mem_append_right between List.mem_cons_self) key settles asks
      exact .inl apart
    · exact .inr settles
  · intro fetch deeds outcome after done _ unasked
    obtain ⟨now, rest, rfl, found⟩ := Served.done_value.1 done
    split at found
    · obtain ⟨sent, reply, later, rfl, -⟩ := found
      exact absurd rfl (unasked (.asked sent fetch reply) (by simp))
    · next there =>
        obtain ⟨stored, found, young, -⟩ :=
          Cache.get_of_ne_null (accounts.ttl_eq ▸ bounded) there
        obtain ⟨earlier, among, settles, before, looked⟩ :=
          accounts.sourced _ _ stored found there
        rw [accounts.ttl_eq] at young
        exact ⟨earlier, among, settles, stored, now, before, looked, by simp, young⟩

end Times

/-! Data sources that are null, and plugins of which there are none. -/

abbrev sourcesFetch : Fetch := ⟨"/api/datasources", []⟩

abbrev pluginsFetch : Fetch := ⟨"/api/plugins", [("enabled", .int 1)]⟩

def nullReply : Reply := ⟨"http://localhost/api/datasources", 200, .text "null"⟩

def emptyReply : Reply := ⟨"http://localhost/api/plugins", 200, .value (.list [])⟩

theorem read_nullReply : nullReply.read = .ok .null := by
  have told : nullReply.read.toOption = some .null := by decide +kernel
  cases read : nullReply.read with
  | ok content =>
      rw [read] at told
      exact congrArg Except.ok (Option.some.inj told)
  | error fault =>
      rw [read] at told
      cases told

theorem Lived.listed {log : List (Deed Int)} {cache : Cache Int} {fetch : Fetch} {reply : Reply}
    {content : Json} (lived : Lived 30 log cache) (asked : Lookup)
    (opened : Served.lookup asked =
      (Served.value fetch >>= fun content => Served.ofExcept (asList content) : Served Int Json))
    (read : reply.read = .ok content) (null : (cache.get 0 fetch.key).1 = .null) :
    Lived 30 (log ++ [.looked 0, .asked 0 fetch (.ok reply), .looked 0])
      ((cache.get 0 fetch.key).2.set 0 fetch.key content) := by
  have told : Except.bind (.ok reply) Reply.read = .ok content := read
  have found : (Served.value fetch).Done cache
      [.looked 0, .asked 0 fetch (.ok reply), .looked 0] (.ok content)
      ((cache.get 0 fetch.key).2.set 0 fetch.key content) := by
    refine Served.done_value.2 ⟨0, _, rfl, ?_⟩
    rw [if_pos null]
    exact ⟨0, .ok reply, [.looked 0], rfl,
      Served.done_settle.2 ⟨told.symm, .inl ⟨content, 0, told, rfl, rfl⟩⟩⟩
  refine lived.looked_up (?_ : (Served.lookup asked).Done cache _ (asList content) _)
  rw [opened]
  refine Dialogue.ran_bind.2 (.inl ⟨content, _, _, [], found, ?_, (List.append_nil _).symm⟩)
  cases asList content with
  | ok list => exact Dialogue.ran_pure.2 ⟨rfl, rfl, rfl⟩
  | error fault => exact Dialogue.ran_throw.2 ⟨rfl, rfl, rfl⟩

/-- Null is asked for twice at the same time, while it is known for thirty seconds that there are no
plugins. -/
theorem null_asked_twice :
    let asked : List (Deed Int) := [.looked 0, .asked 0 sourcesFetch (.ok nullReply), .looked 0]
    let listed : List (Deed Int) := [.looked 0, .asked 0 pluginsFetch (.ok emptyReply), .looked 0]
    let log := asked ++ asked ++ listed
    ∃ cache, 0 ≤ (30 : Int) ∧ Lived 30 log cache ∧ Ordered log ∧
      ¬ Deed.Settles sourcesFetch.key (.asked (0 : Int) sourcesFetch (.ok nullReply)) ∧
      (Served.value pluginsFetch).Done cache [.looked 30] (.ok (.list [])) cache ∧
      ∃ earlier ∈ log, earlier.Settles pluginsFetch.key := by
  intro asked listed log
  have other : pluginsFetch.key ≠ sourcesFetch.key := by decide +kernel
  have first := Lived.start.listed .dataSources rfl read_nullReply
    (Cache.get_null fun _ _ => nofun)
  have second := first.listed .dataSources rfl read_nullReply (Cache.get_null <| by
    rintro content stored found
    rw [Cache.find?_set_self] at found
    cases found
    rfl)
  obtain ⟨cache, lived, found⟩ : ∃ cache, Lived 30 log cache ∧
      cache.find? pluginsFetch.key = some (.list [], 0) := by
    refine ⟨_, second.listed .plugins rfl (rfl : emptyReply.read = _) (Cache.get_null ?_),
      Cache.find?_set_self⟩
    rintro content stored found
    rw [Cache.find?_set_of_ne other, Cache.find?_get_of_ne other, Cache.find?_set_of_ne other,
      Cache.find?_get_of_ne other] at found
    cases found
  have ordered : Ordered log := by
    simp [Ordered, log, asked, listed, Deed.moment]
  have kept : cache.get 30 pluginsFetch.key = (.list [], cache) := by
    refine Cache.get_young found ?_
    rw [(lived.accounts (by decide) ordered).ttl_eq]
    decide
  have again : (Served.value pluginsFetch).Done cache [.looked 30] (.ok (.list [])) cache := by
    refine Served.done_value.2 ⟨30, [], rfl, ?_⟩
    rw [kept, if_neg nofun]
    exact ⟨rfl, rfl, rfl⟩
  obtain ⟨apart, source⟩ := asked_again_late_or_after_null (by decide) lived ordered
  have repeated := apart [.looked 0] (.asked 0 sourcesFetch (.ok nullReply)) [.looked 0, .looked 0]
    (.asked 0 sourcesFetch (.ok nullReply)) (.looked 0 :: listed) rfl sourcesFetch.key rfl rfl
  obtain ⟨earlier, among, settles, -⟩ := source pluginsFetch _ _ _ again
    (by simp [Ordered, log, asked, listed, Deed.moment]) (by simp [Deed.Asks])
  exact ⟨cache, by decide, lived, ordered, repeated.resolve_left (by decide), again, earlier, among,
    settles⟩

end Walkthrough.Facts
