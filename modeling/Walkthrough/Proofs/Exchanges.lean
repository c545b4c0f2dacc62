import Walkthrough.Facts.Served
import Walkthrough.Proofs.Conduct
/-!
What lookups ask a server and what they tell, with what is kept of its replies and without. A
lookup is told from the replies that are kept before it to those that are kept after it, with the
exchanges in between and an outcome at the end; the clock stands still meanwhile.
-/

namespace Walkthrough

namespace Facts

/-! Lookups that keep nothing. -/

abbrev Exchange := Fetch × Answered

abbrev Direct (α : Type) := ExceptT Fault (Dialogue fun _ : Fetch => Answered) α

namespace Direct

variable {α β : Type}

def ofExcept (result : Except Fault α) : Direct α :=
  match result with
  | .ok value => pure value
  | .error fault => throw fault

def value (fetch : Fetch) : Direct Json := do
  match ← ExceptT.lift (Dialogue.question fetch) with
  | .error fault => throw fault
  | .ok reply => ofExcept reply.read

def valueOrNull (fetch : Fetch) : Direct (Option Json) :=
  tryCatch (some <$> value fetch) fun fault =>
    match fault with
    | .exchange _ => pure none
    | fault => throw fault

def organisationRole (id : Json) : Direct Json := do
  match ← valueOrNull ⟨"/api/user/orgs", []⟩ with
  | none => return .null
  | some organisations =>
      ofExcept do Served.roleIn id (← (organisations.orElse (.list [])).elements)

def user : Direct Json := do
  match ← valueOrNull ⟨"/api/user", []⟩ with
  | some (.object fields) =>
      if (Fields.lookup fields "orgRole").isSome then return .object fields
      else
        let role ← organisationRole ((Fields.lookup fields "orgId").getD .null)
        return .object (fields ++ [("orgRole", role)])
  | _ => return .null

def lookup : Lookup → Direct Json
  | .user => user
  | .dataSources => do ofExcept (asList (← value ⟨"/api/datasources", []⟩))
  | .plugins => do ofExcept (asList (← value ⟨"/api/plugins", [("enabled", .int 1)]⟩))
  | .dashboards title => do
      let parameters := [("type", .text "dash-db"), ("query", title)]
      ofExcept (asList (← value ⟨"/api/search", parameters⟩))
  | .permissions => do ofExcept (asMapping (← value ⟨"/api/access-control/user/permissions", []⟩))
  | .frontendSettings => do ofExcept (asMapping (← value ⟨"/api/frontend/settings", []⟩))

def Told (lookup : Direct α) (consulted : List Exchange) (outcome : Except Fault α) : Prop :=
  Dialogue.Conducted (fun fetch reply record => record = [(fetch, reply)]) lookup.run consulted
    outcome

variable {consulted first second : List Exchange}

theorem told_pure (value : α) : Told (pure value) [] (.ok value) :=
  .done _

theorem told_throw (fault : Fault) : Told (throw fault : Direct α) [] (.error fault) :=
  .done _

theorem told_ofExcept (result : Except Fault α) : Told (ofExcept result) [] result := by
  cases result with
  | ok value => exact told_pure value
  | error fault => exact told_throw fault

theorem told_bind {head : Direct α} {next : α → Direct β} {value : α} {outcome : Except Fault β}
    (started : Told head first (.ok value)) (ended : Told (next value) second outcome) :
    Told (head >>= next) (first ++ second) outcome :=
  Dialogue.conducted_bind_iff.2 ⟨.ok value, first, second, started, ended, rfl⟩

theorem told_bind_error {head : Direct α} {next : α → Direct β} {fault : Fault}
    (failed : Told head consulted (.error fault)) : Told (head >>= next) consulted (.error fault) :=
  Dialogue.conducted_bind_iff.2
    ⟨.error fault, consulted, [], failed, .done _, (List.append_nil _).symm⟩

theorem told_tryCatch {head : Direct α} {rescue : Fault → Direct α} {value : α}
    (succeeded : Told head consulted (.ok value)) :
    Told (tryCatch head rescue) consulted (.ok value) :=
  Dialogue.conducted_bind_iff.2
    ⟨.ok value, consulted, [], succeeded, .done _, (List.append_nil _).symm⟩

theorem told_tryCatch_error {head : Direct α} {rescue : Fault → Direct α} {fault : Fault}
    {outcome : Except Fault α} (failed : Told head first (.error fault))
    (rescued : Told (rescue fault) second outcome) :
    Told (tryCatch head rescue) (first ++ second) outcome :=
  Dialogue.conducted_bind_iff.2 ⟨.error fault, first, second, failed, rescued, rfl⟩

theorem told_value (fetch : Fetch) (reply : Answered) :
    Told (value fetch) [(fetch, reply)] (reply.bind Reply.read) := by
  have asked : Told (ExceptT.lift (Dialogue.question fetch)) [(fetch, reply)] (.ok reply) :=
    Dialogue.conducted_ask_iff.2 ⟨reply, [(fetch, reply)], [], rfl, .done _, rfl⟩
  cases reply with
  | error fault => exact told_bind asked (told_throw fault)
  | ok reply => exact told_bind asked (told_ofExcept reply.read)

end Direct

/-! Lookups that use the kept replies, at a time. -/

namespace Served

variable {time α β : Type} {now : time} {cache after : Cache time} {exchanges : List Exchange}

/-- What is put on record: the requests, but not the looks at the clock, which stands still. -/
def Recorded (now : time) : (errand : Errand) → errand.Answer time → List Exchange → Prop
  | .clock, reply, record => reply = now ∧ record = []
  | .fetch fetch, reply, record => record = [(fetch, reply)]

/-- With these kept replies and these exchanges, the lookup comes to this outcome and leaves these
replies behind. It takes no time: the clock moves between lookups, not within them. -/
def Told (lookup : Served time α) (now : time) (cache : Cache time) (exchanges : List Exchange)
    (outcome : Except Fault α) (after : Cache time) : Prop :=
  Dialogue.Conducted (Recorded now) (lookup.run.run cache) exchanges (outcome, after)

theorem told_pure {value : α} {outcome : Except Fault α} :
    Told (pure value) now cache exchanges outcome after ↔
      exchanges = [] ∧ outcome = .ok value ∧ after = cache :=
  Dialogue.ran_pure

theorem told_throw {fault : Fault} {outcome : Except Fault α} :
    Told (throw fault) now cache exchanges outcome after ↔
      exchanges = [] ∧ outcome = .error fault ∧ after = cache :=
  Dialogue.ran_throw

theorem told_bind {head : Served time α} {next : α → Served time β} {outcome : Except Fault β} :
    Told (head >>= next) now cache exchanges outcome after ↔
      (∃ value middle first second, Told head now cache first (.ok value) middle ∧
        Told (next value) now middle second outcome after ∧ exchanges = first ++ second) ∨
      ∃ fault, Told head now cache exchanges (.error fault) after ∧ outcome = .error fault :=
  Dialogue.ran_bind

theorem told_tryCatch {head : Served time α} {rescue : Fault → Served time α}
    {outcome : Except Fault α} :
    Told (tryCatch head rescue) now cache exchanges outcome after ↔
      (∃ value, Told head now cache exchanges (.ok value) after ∧ outcome = .ok value) ∨
      ∃ fault middle first second, Told head now cache first (.error fault) middle ∧
        Told (rescue fault) now middle second outcome after ∧ exchanges = first ++ second :=
  Dialogue.ran_tryCatch

theorem told_fetch {fetch : Fetch} {outcome : Except Fault Answered} :
    Told (errand (.fetch fetch)) now cache exchanges outcome after ↔
      ∃ reply, exchanges = [(fetch, reply)] ∧ outcome = .ok reply ∧ after = cache := by
  refine Dialogue.conducted_ask_iff.trans ?_
  constructor
  · rintro ⟨reply, _, _, rfl, ended, rfl⟩
    obtain ⟨rfl, same⟩ := Dialogue.conducted_done_iff.1 ended
    cases same
    exact ⟨reply, rfl, rfl, rfl⟩
  · rintro ⟨reply, rfl, rfl, rfl⟩
    exact ⟨reply, [(fetch, reply)], [], rfl, .done _, rfl⟩

theorem told_clock_bind {next : time → Served time α} {outcome : Except Fault α} :
    Told (errand .clock >>= next) now cache exchanges outcome after ↔
      Told (next now) now cache exchanges outcome after := by
  refine Dialogue.ran_question_bind.trans ?_
  constructor
  · rintro ⟨_, _, rest, ⟨rfl, rfl⟩, told, rfl⟩
    exact told
  · exact fun told => ⟨now, [], exchanges, ⟨rfl, rfl⟩, told, rfl⟩

theorem told_keep {key : String} {value : Json} {outcome : Except Fault Unit} :
    Told (keep key value) now cache exchanges outcome after ↔
      exchanges = [] ∧ outcome = .ok () ∧ after = cache.set now key value :=
  told_clock_bind.trans Dialogue.ran_modify

theorem told_map {lookup : Served time α} {change : α → β} {outcome : Except Fault β} :
    Told (change <$> lookup) now cache exchanges outcome after ↔
      ∃ inner, Told lookup now cache exchanges inner after ∧ outcome = inner.map change :=
  Dialogue.ran_map

theorem told_ofExcept {result outcome : Except Fault α} :
    Told (ofExcept result) now cache exchanges outcome after ↔
      exchanges = [] ∧ outcome = result ∧ after = cache := by
  cases result with
  | ok value => exact told_pure
  | error fault => exact told_throw

/-! One value. -/

def settle (fetch : Fetch) (reply : Answered) : Served time Json :=
  match reply with
  | .error fault => throw fault
  | .ok reply =>
      match reply.read with
      | .ok content => do
          keep fetch.key content
          return content
      | .error fault => throw fault

def settled (fetch : Fetch) (reply : Answered) (now : time) (cache : Cache time) : Cache time :=
  match reply.bind Reply.read with
  | .ok content => cache.set now fetch.key content
  | .error _ => cache

theorem told_settle {fetch : Fetch} {reply : Answered} {outcome : Except Fault Json} :
    Told (settle fetch reply) now cache exchanges outcome after ↔
      exchanges = [] ∧ outcome = reply.bind Reply.read ∧ after = settled fetch reply now cache := by
  cases reply with
  | error fault => exact told_throw
  | ok reply =>
      cases read : reply.read with
      | error fault => simp [settle, settled, Except.bind, read, told_throw]
      | ok content =>
          simp only [settle, settled, Except.bind, read, bind_pure_comp, told_map, told_keep]
          constructor
          · rintro ⟨_, ⟨rfl, rfl, rfl⟩, rfl⟩
            exact ⟨rfl, rfl, rfl⟩
          · rintro ⟨rfl, rfl, rfl⟩
            exact ⟨_, ⟨rfl, rfl, rfl⟩, rfl⟩

theorem told_fetch_bind {fetch : Fetch} {next : Answered → Served time α}
    {outcome : Except Fault α} :
    Told (errand (.fetch fetch) >>= next) now cache exchanges outcome after ↔
      ∃ reply second, exchanges = (fetch, reply) :: second ∧
        Told (next reply) now cache second outcome after := by
  rw [told_bind]
  constructor
  · rintro (⟨_, _, _, second, asked, told, rfl⟩ | ⟨_, failed, -⟩)
    · obtain ⟨_, rfl, ⟨⟩, rfl⟩ := told_fetch.1 asked
      exact ⟨_, second, rfl, told⟩
    · obtain ⟨_, -, ⟨⟩, -⟩ := told_fetch.1 failed
  · rintro ⟨reply, second, rfl, told⟩
    exact .inl ⟨reply, cache, [(fetch, reply)], second,
      told_fetch.2 ⟨reply, rfl, rfl, rfl⟩, told, rfl⟩

variable [Sub time] [LE time] [LT time] [OfNat time 0] [DecidableLE time] [DecidableLT time]

theorem told_kept {key : String} {outcome : Except Fault Json} :
    Told (kept key) now cache exchanges outcome after ↔
      exchanges = [] ∧ outcome = .ok (cache.get now key).1 ∧ after = (cache.get now key).2 :=
  told_clock_bind.trans
    (Dialogue.conducted_done_iff.trans (and_congr_right fun _ => Prod.ext_iff))

theorem value_eq (fetch : Fetch) : (value fetch : Served time Json) =
    kept fetch.key >>= fun content =>
      if content = .null then errand (.fetch fetch) >>= settle fetch else pure content := by
  refine congrArg (kept fetch.key >>= ·) (funext fun content => ?_)
  by_cases null : content = .null
  · rw [null, if_pos rfl]
    refine congrArg (errand (.fetch fetch) >>= ·) (funext fun reply => ?_)
    cases reply <;> rfl
  · rw [if_neg null]
    cases content <;> first | rfl | exact absurd rfl null

theorem told_value {fetch : Fetch} {outcome : Except Fault Json} :
    Told (value fetch) now cache exchanges outcome after ↔
      if (cache.get now fetch.key).1 = .null then
        ∃ reply, exchanges = [(fetch, reply)] ∧ outcome = reply.bind Reply.read ∧
          after = settled fetch reply now (cache.get now fetch.key).2
      else exchanges = [] ∧ outcome = .ok (cache.get now fetch.key).1 ∧
        after = (cache.get now fetch.key).2 := by
  rw [value_eq, told_bind]
  constructor
  · rintro (⟨content, _, _, second, asked, told, rfl⟩ | ⟨_, failed, -⟩)
    · obtain ⟨rfl, ⟨⟩, rfl⟩ := told_kept.1 asked
      split at told
      · next null =>
          -- nothing is kept, or null, so the server is asked
          obtain ⟨reply, _, rfl, settled⟩ := told_fetch_bind.1 told
          obtain ⟨rfl, rfl, rfl⟩ := told_settle.1 settled
          rw [if_pos null]
          exact ⟨reply, rfl, rfl, rfl⟩
      · next there =>
          rw [if_neg there]
          exact told_pure.1 told
    · obtain ⟨_, ⟨⟩, -⟩ := told_kept.1 failed
  · intro told
    refine .inl ⟨_, _, [], exchanges, told_kept.2 ⟨rfl, rfl, rfl⟩, ?_, rfl⟩
    split at told
    · next null =>
        obtain ⟨reply, rfl, same⟩ := told
        rw [if_pos null]
        exact told_fetch_bind.2 ⟨reply, [], rfl, told_settle.2 ⟨rfl, same⟩⟩
    · next there =>
        rw [if_neg there]
        exact told_pure.2 told

end Served

end Facts

end Walkthrough
