import Walkthrough.Dialogue
/-!
Dialogues whose answers are put on record. What a dialogue is conducted to is settled by its parts,
which share the records in their order. A dialogue may keep a state and may fail: then it runs from
one state to another and ends in an outcome.
-/

namespace Walkthrough.Dialogue

variable {query record α β : Type} {answer : query → Type}
  {recorded : (asked : query) → answer asked → List record → Prop} {records : List record}

inductive Conducted (recorded : (asked : query) → answer asked → List record → Prop) :
    Dialogue answer α → List record → α → Prop where
  | done (result : α) : Conducted recorded (.done result) [] result
  | ask {asked : query} {next : answer asked → Dialogue answer α} {reply : answer asked}
      {first second : List record} {result : α} (told : recorded asked reply first)
      (rest : Conducted recorded (next reply) second result) :
      Conducted recorded (.ask asked next) (first ++ second) result

theorem conducted_done_iff {value result : α} :
    Conducted recorded (.done value) records result ↔ records = [] ∧ result = value := by
  constructor
  · intro conducted
    cases conducted
    exact ⟨rfl, rfl⟩
  · rintro ⟨rfl, rfl⟩
    exact .done _

theorem conducted_ask_iff {asked : query} {next : answer asked → Dialogue answer α} {result : α} :
    Conducted recorded (.ask asked next) records result ↔
      ∃ reply first second, recorded asked reply first ∧
        Conducted recorded (next reply) second result ∧ records = first ++ second := by
  constructor
  · intro conducted
    cases conducted with
    | ask told rest => exact ⟨_, _, _, told, rest, rfl⟩
  · rintro ⟨reply, first, second, told, rest, rfl⟩
    exact .ask told rest

theorem conducted_bind_iff {dialogue : Dialogue answer α} {continuation : α → Dialogue answer β}
    {result : β} :
    Conducted recorded (dialogue.bind continuation) records result ↔
      ∃ value first second, Conducted recorded dialogue first value ∧
        Conducted recorded (continuation value) second result ∧ records = first ++ second := by
  -- on the first part; what it asks goes before both records, so they are only regrouped
  induction dialogue generalizing records with
  | done value =>
      constructor
      · exact fun conducted => ⟨value, [], records, .done _, conducted, rfl⟩
      · rintro ⟨_, _, second, head, last, rfl⟩
        obtain ⟨rfl, rfl⟩ := conducted_done_iff.1 head
        exact last
  | ask asked next ih =>
      simp only [bind_ask, conducted_ask_iff, ih]
      constructor
      · rintro ⟨reply, first, _, told, ⟨value, second, third, head, last, rfl⟩, rfl⟩
        exact ⟨value, first ++ second, third, ⟨reply, first, second, told, head, rfl⟩, last,
          (List.append_assoc ..).symm⟩
      · rintro ⟨value, _, third, ⟨reply, first, second, told, head, rfl⟩, last, rfl⟩
        exact ⟨reply, first, second ++ third, told, ⟨value, second, third, head, last, rfl⟩,
          List.append_assoc ..⟩

/-! Dialogues that keep a state and may fail. -/

section Running

variable {ε σ : Type} {before after : σ}

/-- With these records, the computation comes from one state to another, and to this outcome. -/
def Ran (recorded : (asked : query) → answer asked → List record → Prop)
    (act : ExceptT ε (StateT σ (Dialogue answer)) α) (before : σ) (records : List record)
    (outcome : Except ε α) (after : σ) : Prop :=
  Conducted recorded (act.run.run before) records (outcome, after)

theorem ran_pure {value : α} {outcome : Except ε α} :
    Ran recorded (pure value) before records outcome after ↔
      records = [] ∧ outcome = .ok value ∧ after = before :=
  conducted_done_iff.trans (and_congr_right fun _ => Prod.ext_iff)

theorem ran_throw {error : ε} {outcome : Except ε α} :
    Ran recorded (throw error) before records outcome after ↔
      records = [] ∧ outcome = .error error ∧ after = before :=
  conducted_done_iff.trans (and_congr_right fun _ => Prod.ext_iff)

/-- Either both parts run, one after the other, or the first one fails. -/
theorem ran_bind {head : ExceptT ε (StateT σ (Dialogue answer)) α}
    {next : α → ExceptT ε (StateT σ (Dialogue answer)) β} {outcome : Except ε β} :
    Ran recorded (head >>= next) before records outcome after ↔
      (∃ value middle first second, Ran recorded head before first (.ok value) middle ∧
        Ran recorded (next value) middle second outcome after ∧ records = first ++ second) ∨
      ∃ error, Ran recorded head before records (.error error) after ∧
        outcome = .error error := by
  refine conducted_bind_iff.trans ?_
  constructor
  · rintro ⟨⟨result, middle⟩, first, second, started, ended, rfl⟩
    cases result with
    | ok value => exact .inl ⟨value, middle, first, second, started, ended, rfl⟩
    | error error =>
        obtain ⟨rfl, same⟩ := conducted_done_iff.1 ended
        cases same
        exact .inr ⟨error, by rwa [List.append_nil], rfl⟩
  · rintro (⟨value, middle, first, second, started, ended, rfl⟩ | ⟨error, failed, rfl⟩)
    · exact ⟨(.ok value, middle), first, second, started, ended, rfl⟩
    · exact ⟨(.error error, after), records, [], failed, .done _, (List.append_nil _).symm⟩

theorem ran_tryCatch {head : ExceptT ε (StateT σ (Dialogue answer)) α}
    {rescue : ε → ExceptT ε (StateT σ (Dialogue answer)) α} {outcome : Except ε α} :
    Ran recorded (tryCatch head rescue) before records outcome after ↔
      (∃ value, Ran recorded head before records (.ok value) after ∧ outcome = .ok value) ∨
      ∃ error middle first second, Ran recorded head before first (.error error) middle ∧
        Ran recorded (rescue error) middle second outcome after ∧ records = first ++ second := by
  refine conducted_bind_iff.trans ?_
  constructor
  · rintro ⟨⟨result, middle⟩, first, second, started, ended, rfl⟩
    cases result with
    | ok value =>
        obtain ⟨rfl, same⟩ := conducted_done_iff.1 ended
        cases same
        exact .inl ⟨value, by rwa [List.append_nil], rfl⟩
    | error error => exact .inr ⟨error, middle, first, second, started, ended, rfl⟩
  · rintro (⟨value, succeeded, rfl⟩ | ⟨error, middle, first, second, started, ended, rfl⟩)
    · exact ⟨(.ok value, after), records, [], succeeded, .done _, (List.append_nil _).symm⟩
    · exact ⟨(.error error, middle), first, second, started, ended, rfl⟩

theorem ran_map {act : ExceptT ε (StateT σ (Dialogue answer)) α} {change : α → β}
    {outcome : Except ε β} :
    Ran recorded (change <$> act) before records outcome after ↔
      ∃ inner, Ran recorded act before records inner after ∧ outcome = inner.map change := by
  rw [← bind_pure_comp, ran_bind]
  constructor
  · rintro (⟨value, middle, first, second, ran, ended, rfl⟩ | ⟨error, failed, rfl⟩)
    · obtain ⟨rfl, rfl, rfl⟩ := ran_pure.1 ended
      exact ⟨.ok value, by rwa [List.append_nil], rfl⟩
    · exact ⟨.error error, failed, rfl⟩
  · rintro ⟨inner, ran, rfl⟩
    cases inner with
    | ok value =>
        exact .inl ⟨value, after, records, [], ran, ran_pure.2 ⟨rfl, rfl, rfl⟩, by simp⟩
    | error error => exact .inr ⟨error, ran, rfl⟩

theorem ran_modify {change : σ → σ} {outcome : Except ε PUnit} :
    Ran recorded (modify change) before records outcome after ↔
      records = [] ∧ outcome = .ok ⟨⟩ ∧ after = change before :=
  conducted_done_iff.trans (and_congr_right fun _ => Prod.ext_iff)

theorem ran_question_bind {asked : query}
    {next : answer asked → ExceptT ε (StateT σ (Dialogue answer)) α} {outcome : Except ε α} :
    Ran recorded (ExceptT.lift (StateT.lift (question asked)) >>= next) before records outcome
        after ↔
      ∃ reply first second, recorded asked reply first ∧
        Ran recorded (next reply) before second outcome after ∧ records = first ++ second :=
  conducted_ask_iff

end Running

end Walkthrough.Dialogue
