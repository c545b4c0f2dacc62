import Walkthrough.Proofs.Exchanges
import Walkthrough.Proofs.Quoting
import Walkthrough.Proofs.Storing
/-!
What a provider tells that keeps the replies of its server. Every answer is the one that would be
computed without keeping anything, from replies that the server gave to exactly these requests: in
this very lookup, or at most so long ago as replies are kept. A kept reply is the last one to its
request, and nothing has taken it back since; so what fails is not kept. Times are anything that
has differences and an order, be they exact or rounded. The clock moves between lookups; within one
it stands still.
Main statement: `Facts.told_afresh_or_kept`.
-/

namespace Walkthrough.Facts

open Text

/-! The requests, and the keys of their replies. -/

def plainPaths : List String :=
  ["/api/user", "/api/user/orgs", "/api/datasources", "/api/access-control/user/permissions",
    "/api/frontend/settings"]

/-- The requests that lookups make, dashboards being looked up by a text. -/
inductive Posed : Fetch → Prop where
  | plain {path : String} (listed : path ∈ plainPaths) : Posed ⟨path, []⟩
  | plugins : Posed ⟨"/api/plugins", [("enabled", .int 1)]⟩
  | search (title : String) :
      Posed ⟨"/api/search", [("type", .text "dash-db"), ("query", .text title)]⟩

theorem plain_ne : ∀ path ∈ plainPaths, path ≠ "/api/plugins" ∧ path ≠ "/api/search" := by
  decide +kernel

theorem key_plugins :
    Fetch.key ⟨"/api/plugins", [("enabled", .int 1)]⟩ = "/api/plugins?[('enabled', 1)]" := by
  decide +kernel

theorem key_search (title : String) :
    Fetch.key ⟨"/api/search", [("type", .text "dash-db"), ("query", .text title)]⟩ =
      "/api/search?" ++ ("[('query', " ++ (quoted title ++ "), ('type', 'dash-db')]")) := by
  have order : ¬ "type" ≤ "query" := by decide
  have ordered : Fetch.ordered ⟨"/api/search", [("type", .text "dash-db"), ("query", .text title)]⟩
      = [("query", .text title), ("type", .text "dash-db")] := by
    simp [Fetch.ordered, List.mergeSort, order]
  have query : "(" ++ quoted "query" ++ ", " = "('query', " := by decide +kernel
  have type : "(" ++ quoted "type" ++ ", " ++ quoted "dash-db" ++ ")" = "('type', 'dash-db')" := by
    decide +kernel
  have joined : ∀ first second : String,
      ", ".intercalate [first, second] = first ++ ", " ++ second := fun _ _ => rfl
  simp only [Fetch.key, ordered, List.isEmpty_cons, List.map_cons, List.map_nil, joined,
    Json.quotedForm, query, type, Bool.false_eq_true, if_false]
  simp [← String.toList_inj]

theorem Posed.path_eq {fetch : Fetch} (posed : Posed fetch) :
    fetch.path.toList = fetch.key.toList.takeWhile (· != '?') := by
  cases posed with
  | plain listed =>
      have unmarked : ∀ path ∈ plainPaths,
          path.toList = path.toList.takeWhile (· != '?') := by decide +kernel
      exact unmarked _ listed
  | plugins => rw [key_plugins]; decide +kernel
  | search title =>
      have marked : "/api/search?".toList = "/api/search".toList ++ ['?'] := by decide +kernel
      have unmarked : ∀ letter ∈ "/api/search".toList, letter != '?' :=
        List.all_eq_true.1 (by decide +kernel)
      rw [key_search, String.toList_append, marked, List.append_assoc,
        List.takeWhile_append_of_pos unmarked]
      simp

theorem Posed.key_injective {first second : Fetch} (posed : Posed first) (other : Posed second)
    (same : first.key = second.key) : first = second := by
  have path : first.path = second.path := by
    rw [← String.toList_inj, posed.path_eq, other.path_eq, same]
  -- requests of one path differ in their titles only, and the key quotes the title
  cases posed with
  | plain listed =>
      cases other with
      | plain => exact congrArg (Fetch.mk · []) path
      | plugins => exact absurd path (plain_ne _ listed).1
      | search => exact absurd path (plain_ne _ listed).2
  | plugins =>
      cases other with
      | plain listed => exact absurd path.symm (plain_ne _ listed).1
      | plugins => rfl
      | search => exact absurd path (by simp)
  | search title =>
      cases other with
      | plain listed => exact absurd path.symm (plain_ne _ listed).2
      | plugins => exact absurd path (by simp)
      | search =>
          simp only [key_search, String.append_left_inj, String.append_right_inj] at same
          rw [quoted_injective same]

/-! What is found after a value was told. -/

namespace Served

variable {time : Type} {now stored : time} {cache : Cache time} {fetch : Fetch} {reply : Answered}

theorem ttl_settled : (settled fetch reply now cache).ttl = cache.ttl := by
  unfold settled
  split <;> rfl

theorem of_find?_settled {key : String} {content : Json}
    (found : (settled fetch reply now cache).find? key = some (content, stored)) :
    (key = fetch.key ∧ stored = now ∧ reply.bind Reply.read = .ok content) ∨
      cache.find? key = some (content, stored) := by
  unfold settled at found
  split at found
  · next value read =>
      by_cases same : key = fetch.key
      · rw [same, Cache.find?_set_self] at found
        cases found
        exact .inl ⟨same, rfl, read⟩
      · rw [Cache.find?_set_of_ne same] at found
        exact .inr found
  · exact .inr found

end Served

/-! What has happened so far. -/

/-- Something that the server replied at a time, or that kept replies were taken back. -/
inductive Event (time : Type) where
  | replied (now : time) (fetch : Fetch) (reply : Answered)
  | invalidated (key : Option String)

variable {time α β : Type} {log : List (Event time)} {fetch : Fetch} {now stored : time}
  {reply : Reply} {cache after : Cache time} {exchanges consulted : List Exchange}

/-- Events after which an earlier reply no longer counts. -/
def Event.Concerns (fetch : Fetch) : Event time → Prop
  | .replied _ other _ => other = fetch
  | .invalidated none => True
  | .invalidated (some key) => key = fetch.key

/-- At that time the server gave this reply to the request, and nothing later concerns it. -/
def Stands (log : List (Event time)) (fetch : Fetch) (reply : Reply) (stored : time) : Prop :=
  ∃ past rest, log = past ++ .replied stored fetch (.ok reply) :: rest ∧
    ∀ event ∈ rest, ¬ event.Concerns fetch

def stamped (now : time) (exchanges : List Exchange) : List (Event time) :=
  exchanges.map fun exchange => .replied now exchange.1 exchange.2

theorem Stands.append {later : List (Event time)} (stands : Stands log fetch reply stored)
    (unconcerned : ∀ event ∈ later, ¬ event.Concerns fetch) :
    Stands (log ++ later) fetch reply stored := by
  obtain ⟨past, rest, rfl, quiet⟩ := stands
  refine ⟨past, rest ++ later, by simp, fun event among => ?_⟩
  exact (List.mem_append.1 among).elim (quiet event) (unconcerned event)

theorem stands_last : Stands (log ++ [.replied stored fetch (.ok reply)]) fetch reply stored :=
  ⟨log, [], rfl, by simp⟩

theorem mem_of_mem_stamped {reply : Answered} {event : Event time}
    (among : event ∈ stamped now exchanges) (said : event = .replied stored fetch reply) :
    (fetch, reply) ∈ exchanges := by
  obtain ⟨⟨_, _⟩, exchanged, same⟩ := List.mem_map.1 among
  cases same.trans said
  exact exchanged

theorem Stands.of_append (stands : Stands (log ++ stamped now exchanges) fetch reply stored) :
    (fetch, .ok reply) ∈ exchanges ∨ Stands log fetch reply stored := by
  obtain ⟨past, rest, split, quiet⟩ := stands
  rcases List.append_eq_append_iff.1 split with ⟨between, rfl, given⟩ | ⟨between, rfl, given⟩
  · exact .inl (mem_of_mem_stamped (given ▸ List.mem_append_right _ List.mem_cons_self) rfl)
  · cases between with
    | nil => exact .inl (mem_of_mem_stamped (given ▸ List.mem_cons_self) rfl)
    | cons event between =>
        obtain ⟨rfl, rfl⟩ := List.cons.inj given
        exact .inr ⟨past, between, rfl, fun event among => quiet event (by simp [among])⟩

theorem not_concerns_of_key_ne {other : Fetch} {answered : Answered}
    (different : fetch.key ≠ other.key) :
    ¬ (Event.replied now other answered).Concerns fetch :=
  fun same => different (congrArg Fetch.key same.symm)

def Failed (log : List (Event time)) (fetch : Fetch) : Prop :=
  ∃ past stored reply rest fault, log = past ++ .replied stored fetch reply :: rest ∧
    reply.bind Reply.read = .error fault ∧
    ∀ later answered, .replied later fetch answered ∉ rest

theorem Stands.not_failed {content : Json} (stands : Stands log fetch reply stored)
    (read : reply.read = .ok content) : ¬ Failed log fetch := by
  rintro ⟨past, _, answered, rest, fault, failed, error, last⟩
  obtain ⟨before, later, rfl, quiet⟩ := stands
  -- the two replies are the same one, or one of them comes after the other
  rcases List.append_eq_append_iff.1 failed with ⟨between, rfl, given⟩ | ⟨between, rfl, given⟩
  · cases between with
    | nil =>
        cases given
        cases read.symm.trans error
    | cons event between =>
        obtain ⟨rfl, rfl⟩ := List.cons.inj given
        exact quiet _ (List.mem_append_right _ List.mem_cons_self) rfl
  · cases between with
    | nil =>
        cases given
        cases read.symm.trans error
    | cons event between =>
        obtain ⟨rfl, rfl⟩ := List.cons.inj given
        exact last _ _ (List.mem_append_right _ List.mem_cons_self)

/-! What is kept, and where it comes from. -/

/-- Every entry is what a reply of the server said when it was stored; unless it is null, which
does not count as kept, the reply still stands. -/
def Sound (log : List (Event time)) (cache : Cache time) : Prop :=
  ∀ key content stored, cache.find? key = some (content, stored) →
    ∃ fetch reply, Posed fetch ∧ fetch.key = key ∧ reply.read = .ok content ∧
      .replied stored fetch (.ok reply) ∈ log ∧
      (content ≠ .null → Stands log fetch reply stored)

theorem sound_empty (ttl : time) : Sound [] (Cache.empty ttl) := by
  intro key content stored found
  cases found

theorem Sound.invalidate (sound : Sound log cache) (key : Option String) :
    Sound (log ++ [.invalidated key]) (cache.invalidate key) := by
  intro other content stored found
  obtain ⟨before, named, rfl, different⟩ := Cache.of_find?_invalidate found
  obtain ⟨fetch, reply, posed, rfl, read, given, stands⟩ := sound other content stored before
  refine ⟨fetch, reply, posed, rfl, read, List.mem_append_left _ given, fun there => ?_⟩
  refine (stands there).append fun event among => ?_
  cases List.mem_singleton.1 among
  exact fun same => different same.symm

theorem Sound.replied {answered : Answered} (sound : Sound log cache) (posed : Posed fetch)
    (left : ∀ key content stored, after.find? key = some (content, stored) →
      (key = fetch.key ∧ stored = now ∧ answered.bind Reply.read = .ok content) ∨
      (cache.find? key = some (content, stored) ∧ (key = fetch.key → content = .null))) :
    Sound (log ++ [.replied now fetch answered]) after := by
  intro key content stored found
  rcases left key content stored found with ⟨rfl, rfl, read⟩ | ⟨before, null⟩
  · cases answered with
    | error fault => cases read
    | ok reply => exact ⟨fetch, reply, posed, rfl, read, by simp, fun _ => stands_last⟩
  · obtain ⟨other, reply, posed, rfl, read, given, stands⟩ := sound key content stored before
    refine ⟨other, reply, posed, rfl, read, List.mem_append_left _ given, fun there => ?_⟩
    refine (stands there).append fun event among => ?_
    cases List.mem_singleton.1 among
    exact not_concerns_of_key_ne fun same => there (null same)

section Freshness

variable [Sub time] [LT time]

/-- A reply that is kept: it can be read, it still stands, and it is young enough. -/
def Kept (log : List (Event time)) (ttl now : time) (exchange : Exchange) : Prop :=
  ∃ reply stored content, exchange.2 = .ok reply ∧ reply.read = .ok content ∧
    Stands log exchange.1 reply stored ∧ ¬ ttl < now - stored

/-- How a lookup goes on from sound replies to sound replies, and what it consults. -/
structure Passage (log : List (Event time)) (now : time) (cache : Cache time)
    (exchanges : List Exchange) (after : Cache time) (consulted : List Exchange) : Prop where
  ttl : after.ttl = cache.ttl
  sound : Sound (log ++ stamped now exchanges) after
  consults : ∀ exchange ∈ consulted, exchange ∈ exchanges ∨ Kept log cache.ttl now exchange

theorem Passage.refl (sound : Sound log cache) : Passage log now cache [] cache [] where
  ttl := rfl
  sound := by simpa [stamped] using sound
  consults := by simp

theorem Passage.append {middle : Cache time} {first second consulted others : List Exchange}
    (started : Passage log now cache first middle consulted)
    (ended : Passage (log ++ stamped now first) now middle second after others) :
    Passage log now cache (first ++ second) after (consulted ++ others) where
  ttl := ended.ttl.trans started.ttl
  sound := by simpa [stamped] using ended.sound
  consults := by
    intro exchange among
    rcases List.mem_append.1 among with earlier | later
    · exact (started.consults exchange earlier).imp_left (List.mem_append_left _)
    rcases ended.consults exchange later with
      exchanged | ⟨reply, stored, _, told, read, stands, young⟩
    · exact .inl (List.mem_append_right _ exchanged)
    -- what the second part finds kept may have been exchanged in the first part
    obtain ⟨fetch, answered⟩ := exchange
    cases told
    rcases stands.of_append with exchanged | stood
    · exact .inl (List.mem_append_left _ exchanged)
    · exact .inr ⟨reply, stored, _, rfl, read, stood, started.ttl ▸ young⟩

variable [LE time] [OfNat time 0]

/-- Whatever the lookup tells, the direct one tells as well with the replies that are consulted. -/
def Mirrors (lookup : Served time α) (direct : Direct α) : Prop :=
  ∀ ⦃log : List (Event time)⦄ ⦃now : time⦄ ⦃cache : Cache time⦄ ⦃exchanges : List Exchange⦄
    ⦃outcome : Except Fault α⦄ ⦃after : Cache time⦄, 0 ≤ cache.ttl → Sound log cache →
    lookup.Told now cache exchanges outcome after →
    ∃ consulted, direct.Told consulted outcome ∧
      Passage log now cache exchanges after consulted

theorem mirrors_pure (value : α) : Mirrors (pure value : Served time α) (pure value) := by
  intro log now cache exchanges outcome after bounded sound told
  obtain ⟨rfl, rfl, rfl⟩ := Served.told_pure.1 told
  exact ⟨[], Direct.told_pure value, .refl sound⟩

theorem mirrors_throw (fault : Fault) :
    Mirrors (throw fault : Served time α) (throw fault) := by
  intro log now cache exchanges outcome after bounded sound told
  obtain ⟨rfl, rfl, rfl⟩ := Served.told_throw.1 told
  exact ⟨[], Direct.told_throw fault, .refl sound⟩

theorem mirrors_ofExcept (result : Except Fault α) :
    Mirrors (Served.ofExcept result : Served time α) (Direct.ofExcept result) := by
  cases result with
  | ok value => exact mirrors_pure value
  | error fault => exact mirrors_throw fault

theorem Mirrors.bind {lookup : Served time α} {direct : Direct α} {next : α → Served time β}
    {continuation : α → Direct β} (head : Mirrors lookup direct)
    (tail : ∀ value, Mirrors (next value) (continuation value)) :
    Mirrors (lookup >>= next) (direct >>= continuation) := by
  intro log now cache exchanges outcome after bounded sound told
  rcases Served.told_bind.1 told with
    ⟨value, middle, first, second, started, ended, rfl⟩ | ⟨fault, failed, rfl⟩
  · obtain ⟨consulted, direct, passage⟩ := head bounded sound started
    obtain ⟨others, further, rest⟩ := tail value (passage.ttl ▸ bounded) passage.sound ended
    exact ⟨consulted ++ others, Direct.told_bind direct further, passage.append rest⟩
  · obtain ⟨consulted, direct, passage⟩ := head bounded sound failed
    exact ⟨consulted, Direct.told_bind_error direct, passage⟩

theorem Mirrors.map {lookup : Served time α} {direct : Direct α} (head : Mirrors lookup direct)
    (change : α → β) : Mirrors (change <$> lookup) (change <$> direct) := by
  rw [← bind_pure_comp, ← bind_pure_comp]
  exact head.bind fun value => mirrors_pure (change value)

theorem Mirrors.tryCatch {lookup : Served time α} {direct : Direct α}
    {rescue : Fault → Served time α} {rescuing : Fault → Direct α} (head : Mirrors lookup direct)
    (tail : ∀ fault, Mirrors (rescue fault) (rescuing fault)) :
    Mirrors (tryCatch lookup rescue) (tryCatch direct rescuing) := by
  intro log now cache exchanges outcome after bounded sound told
  rcases Served.told_tryCatch.1 told with
    ⟨value, succeeded, rfl⟩ | ⟨fault, middle, first, second, started, ended, rfl⟩
  · obtain ⟨consulted, direct, passage⟩ := head bounded sound succeeded
    exact ⟨consulted, Direct.told_tryCatch direct, passage⟩
  · obtain ⟨consulted, direct, passage⟩ := head bounded sound started
    obtain ⟨others, further, rest⟩ := tail fault (passage.ttl ▸ bounded) passage.sound ended
    exact ⟨consulted ++ others, Direct.told_tryCatch_error direct further, passage.append rest⟩

variable [DecidableLE time] [DecidableLT time]

theorem mirrors_value (posed : Posed fetch) :
    Mirrors (Served.value fetch : Served time Json) (Direct.value fetch) := by
  intro log now cache exchanges outcome after bounded sound told
  have told := Served.told_value.1 told
  split at told
  · next null =>
      obtain ⟨reply, rfl, rfl, rfl⟩ := told
      refine ⟨[(fetch, reply)], Direct.told_value fetch reply, ?_, ?_, fun _ => .inl⟩
      · rw [Served.ttl_settled, Cache.ttl_get]
      · refine sound.replied posed fun key content stored found => ?_
        exact (Served.of_find?_settled found).imp_right (Cache.of_find?_get null)
  · next there =>
      obtain ⟨rfl, rfl, rfl⟩ := told
      obtain ⟨stored, found, young, same⟩ := Cache.get_of_ne_null bounded there
      obtain ⟨other, reply, others, key, read, -, stands⟩ := sound _ _ _ found
      -- the entry was stored for this very request, since no other one has its key
      obtain rfl := others.key_injective posed key
      rw [same]
      refine ⟨[(other, .ok reply)], read ▸ Direct.told_value other (.ok reply), rfl, ?_, ?_⟩
      · simpa [stamped] using sound
      · rintro exchange (_ | ⟨_, ⟨⟩⟩)
        exact .inr ⟨reply, stored, _, rfl, read, stands there, young⟩

theorem mirrors_valueOrNull (posed : Posed fetch) :
    Mirrors (Served.valueOrNull fetch : Served time (Option Json)) (Direct.valueOrNull fetch) := by
  refine ((mirrors_value posed).map some).tryCatch fun fault => ?_
  cases fault with
  | exchange _ => exact mirrors_pure none
  | _ => exact mirrors_throw _

theorem mirrors_organisationRole (id : Json) :
    Mirrors (Served.organisationRole id : Served time Json) (Direct.organisationRole id) := by
  refine (mirrors_valueOrNull (.plain (by decide))).bind fun organisations => ?_
  cases organisations with
  | none => exact mirrors_pure _
  | some organisations => exact mirrors_ofExcept _

theorem mirrors_user : Mirrors (Served.user : Served time Json) Direct.user := by
  refine (mirrors_valueOrNull (.plain (by decide))).bind fun user => ?_
  match user with
  | some (.object fields) =>
      dsimp only
      split
      · exact mirrors_pure _
      · exact (mirrors_organisationRole _).bind fun role => mirrors_pure _
  | none | some .null | some (.bool _) | some (.int _) | some (.float _) | some (.text _)
  | some (.list _) => exact mirrors_pure _

/-- Dashboards are looked up by a text. -/
inductive Worded : Lookup → Prop where
  | user : Worded .user
  | dataSources : Worded .dataSources
  | plugins : Worded .plugins
  | dashboards (title : String) : Worded (.dashboards (.text title))
  | permissions : Worded .permissions
  | frontendSettings : Worded .frontendSettings

theorem mirrors_lookup {asked : Lookup} (worded : Worded asked) :
    Mirrors (Served.lookup asked : Served time Json) (Direct.lookup asked) := by
  cases worded with
  | user => exact mirrors_user
  | plugins => exact (mirrors_value .plugins).bind fun _ => mirrors_ofExcept _
  | dashboards title => exact (mirrors_value (.search title)).bind fun _ => mirrors_ofExcept _
  | dataSources | permissions | frontendSettings =>
      exact (mirrors_value (.plain (by decide))).bind fun _ => mirrors_ofExcept _

/-! The whole life of a provider. -/

/-- What is kept after a history, from the first lookup on: lookups at any times, and replies taken
back. -/
inductive Reached (ttl : time) : List (Event time) → Cache time → Prop where
  | start : Reached ttl [] (Cache.empty ttl)
  | told {log : List (Event time)} {cache after : Cache time} {asked : Lookup} {now : time}
      {exchanges : List Exchange} {outcome : Except Fault Json} (before : Reached ttl log cache)
      (worded : Worded asked)
      (told : (Served.lookup asked).Told now cache exchanges outcome after) :
      Reached ttl (log ++ stamped now exchanges) after
  | invalidated {log : List (Event time)} {cache : Cache time} (before : Reached ttl log cache)
      (key : Option String) : Reached ttl (log ++ [.invalidated key]) (cache.invalidate key)

theorem Reached.sound {ttl : time} (bounded : 0 ≤ ttl) (reached : Reached ttl log cache) :
    cache.ttl = ttl ∧ Sound log cache := by
  -- on the history; a lookup hands soundness on since it mirrors the direct one
  induction reached with
  | start => exact ⟨rfl, sound_empty ttl⟩
  | told before worded told ih =>
      obtain ⟨_, -, passage⟩ := mirrors_lookup worded (ih.1.symm ▸ bounded) ih.2 told
      exact ⟨passage.ttl.trans ih.1, passage.sound⟩
  | invalidated before key ih =>
      refine ⟨?_, ih.2.invalidate key⟩
      rw [Cache.ttl_invalidate, ih.1]

/-- At any time of a provider's life, every lookup, which takes no time itself, tells what the direct
lookup tells with replies that the server gave to its own requests: in this lookup, or not too long
ago, in which case it is the last reply to the request, could be read, and was not taken back. What
failed last is asked for again, and everything that is kept was read from a reply. -/
theorem told_afresh_or_kept {ttl : time} (bounded : 0 ≤ ttl) (reached : Reached ttl log cache)
    {asked : Lookup} (worded : Worded asked) {outcome : Except Fault Json}
    (told : (Served.lookup asked).Told now cache exchanges outcome after) :
    ∃ consulted, (Direct.lookup asked).Told consulted outcome ∧
      (∀ exchange ∈ consulted, exchange ∈ exchanges ∨ Kept log ttl now exchange) ∧
      (∀ exchange ∈ consulted, Failed log exchange.1 → exchange ∈ exchanges) ∧
      ∀ key content stored, after.find? key = some (content, stored) →
        ∃ fetch reply, fetch.key = key ∧ reply.read = .ok content ∧
          .replied stored fetch (.ok reply) ∈ log ++ stamped now exchanges := by
  obtain ⟨rfl, sound⟩ := reached.sound bounded
  obtain ⟨consulted, direct, passage⟩ := mirrors_lookup worded bounded sound told
  refine ⟨consulted, direct, passage.consults, fun exchange among failed => ?_,
    fun key content stored found => ?_⟩
  -- a kept reply stands, so nothing that failed came after it
  · rcases passage.consults exchange among with exchanged | ⟨_, _, _, _, read, stands, _⟩
    · exact exchanged
    · exact absurd failed (stands.not_failed read)
  · obtain ⟨fetch, reply, -, named, read, given, -⟩ := passage.sound key content stored found
    exact ⟨fetch, reply, named, read, given⟩

end Freshness

/-! A title is looked for twice. -/

def board : Json := .list [.object [("title", .text "it's")]]

def boardReply : Reply := ⟨"http://localhost/api/search", 200, .value board⟩

abbrev boardFetch : Fetch := ⟨"/api/search", [("type", .text "dash-db"), ("query", .text "it's")]⟩

/-- The second lookup is told the reply to the first one. -/
theorem board_kept :
    let log : List (Event Int) := stamped 0 [(boardFetch, .ok boardReply)]
    let cache := (Cache.empty (30 : Int)).set 0 boardFetch.key board
    0 ≤ (30 : Int) ∧ Reached 30 log cache ∧ Worded (.dashboards (.text "it's")) ∧
      (Served.lookup (.dashboards (.text "it's"))).Told 20 cache [] (.ok board) cache ∧
      ∃ consulted, (Direct.lookup (.dashboards (.text "it's"))).Told consulted (.ok board) ∧
        ∀ exchange ∈ consulted, Kept log 30 20 exchange := by
  intro log cache
  have first : (Served.lookup (.dashboards (.text "it's"))).Told 0 (Cache.empty (30 : Int))
      [(boardFetch, .ok boardReply)] (.ok board) cache := by
    refine Served.told_bind.2 (.inl ⟨board, cache, [(boardFetch, .ok boardReply)], [],
      Served.told_value.2 ?_, Served.told_ofExcept.2 ⟨rfl, rfl, rfl⟩, rfl⟩)
    exact ⟨.ok boardReply, rfl, rfl, rfl⟩
  have found : cache.get 20 boardFetch.key = (board, cache) := by
    have young : cache.expired 20 0 = false := by decide
    have there : cache.find? boardFetch.key = some (board, 0) := Cache.find?_set_self
    simp [Cache.get, there, young]
  have second :
      (Served.lookup (.dashboards (.text "it's"))).Told 20 cache [] (.ok board) cache := by
    refine Served.told_bind.2 (.inl ⟨board, cache, [], [], Served.told_value.2 ?_,
      Served.told_ofExcept.2 ⟨rfl, rfl, rfl⟩, rfl⟩)
    rw [if_neg]
    · exact ⟨rfl, by rw [found], by rw [found]⟩
    · rw [found]
      decide
  have reached : Reached 30 log cache := .told .start (.dashboards "it's") first
  obtain ⟨consulted, direct, given, -⟩ :=
    told_afresh_or_kept (by decide) reached (.dashboards "it's") second
  refine ⟨by decide, reached, .dashboards "it's", second, consulted, direct,
    fun exchange among => ?_⟩
  exact (given exchange among).resolve_left List.not_mem_nil

end Walkthrough.Facts
