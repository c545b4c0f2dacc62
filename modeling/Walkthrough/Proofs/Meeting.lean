import Walkthrough.Proofs.Asking
/-!
Talks that go on side by side. Every speaker holds a talk of his own, and all of them share the
records. A talk may be interrupted wherever it has to wait; what is answered at once follows without
an interruption, so the speaker has the floor until he waits again. The minutes of a meeting list
all turns with their speakers.
-/

namespace Walkthrough

/-- Requests that take time. The settings are read by checks too, which take place side by side. -/
def Request.waits : Request → Bool
  | page _ | lookup _ | collect _ | pause _ | settings => true
  | _ => false

namespace Dialogue

variable {α : Type}

/-- The next answer is there at once. -/
def urgent : Dialogue Request.Answer α → Bool
  | .done _ => false
  | .ask asked _ => !asked.waits

def isDone : Dialogue Request.Answer α → Bool
  | .done _ => true
  | .ask .. => false

end Dialogue

/-- The speakers with what is left of their talks, and the one who has the floor, if anybody. -/
structure Meeting (ι α : Type) where
  records : Records
  talks : ι → Dialogue Request.Answer (Except Fault α)
  floor : Option ι

/-- A turn in a meeting. -/
structure Minute (ι : Type) where
  speaker : ι
  turn : Turn

variable {ι α : Type}

def Meeting.opening (records : Records) (runs : ι → Run α) : Meeting ι α :=
  ⟨records, fun speaker => (runs speaker).run, none⟩

variable [DecidableEq ι]

namespace Meeting

def heard (before : Meeting ι α) (speaker : ι) (asked : Request) (records : Records)
    (rest : Dialogue Request.Answer (Except Fault α)) : Meeting ι α where
  records := records
  talks := fun other => if other = speaker then rest else before.talks other
  floor := if !asked.waits && rest.urgent then some speaker else none

/-- A speaker has a turn, unless somebody else has the floor. -/
inductive Speaks (before : Meeting ι α) : Minute ι → Meeting ι α → Prop where
  | turn {speaker asked next} (free : ∀ other, before.floor = some other → other = speaker)
      (asks : before.talks speaker = .ask asked next) (reply : asked.Answer) {records : Records}
      (answered : before.records.Answers asked reply records) :
      Speaks before ⟨speaker, asked, reply⟩ (before.heard speaker asked records (next reply))

/-- The minutes lead from one meeting to another. -/
inductive Reached (start : Meeting ι α) : List (Minute ι) → Meeting ι α → Prop where
  | start : Reached start [] start
  | turn {minutes middle minute now} (reached : Reached start minutes middle)
      (speaks : middle.Speaks minute now) : Reached start (minutes ++ [minute]) now

end Meeting

def turnsOf (speaker : ι) (minutes : List (Minute ι)) : List Turn :=
  (minutes.filter fun minute => minute.speaker = speaker).map Minute.turn

section

variable {speaker other : ι} {minutes later : List (Minute ι)} {turn : Turn}

theorem turnsOf_append (speaker : ι) (minutes later : List (Minute ι)) :
    turnsOf speaker (minutes ++ later) = turnsOf speaker minutes ++ turnsOf speaker later := by
  simp [turnsOf]

theorem mem_turnsOf : turn ∈ turnsOf speaker minutes ↔ ⟨speaker, turn⟩ ∈ minutes := by
  unfold turnsOf
  rw [List.mem_map]
  constructor
  · rintro ⟨minute, member, rfl⟩
    obtain ⟨present, same⟩ := List.mem_filter.1 member
    obtain rfl := of_decide_eq_true same
    exact present
  · intro member
    exact ⟨⟨speaker, turn⟩, List.mem_filter.2 ⟨member, decide_eq_true rfl⟩, rfl⟩

theorem turnsOf_own (minutes : List (Minute ι)) (speaker : ι) (turn : Turn) :
    turnsOf speaker (minutes ++ [⟨speaker, turn⟩]) = turnsOf speaker minutes ++ [turn] := by
  simp [turnsOf]

theorem turnsOf_other (minutes : List (Minute ι)) (distinct : other ≠ speaker) (turn : Turn) :
    turnsOf speaker (minutes ++ [⟨other, turn⟩]) = turnsOf speaker minutes := by
  simp [turnsOf, distinct]

end

namespace Meeting

variable {start middle now : Meeting ι α} {minutes : List (Minute ι)} {speaker : ι}

@[simp] theorem heard_records (before : Meeting ι α) (speaker : ι) (asked : Request)
    (records : Records) (rest : Dialogue Request.Answer (Except Fault α)) :
    (before.heard speaker asked records rest).records = records := rfl

theorem heard_talk_own (before : Meeting ι α) (speaker : ι) (asked : Request)
    (records : Records) (rest : Dialogue Request.Answer (Except Fault α)) :
    (before.heard speaker asked records rest).talks speaker = rest :=
  if_pos rfl

theorem heard_talk_other (before : Meeting ι α) {speaker other : ι} (distinct : other ≠ speaker)
    (asked : Request) (records : Records) (rest : Dialogue Request.Answer (Except Fault α)) :
    (before.heard speaker asked records rest).talks other = before.talks other :=
  if_neg distinct

theorem Reached.split {first second : List (Minute ι)}
    (reached : Reached start (first ++ second) now) :
    ∃ middle, Reached start first middle ∧ Reached middle second now := by
  -- by induction on the turns of the second part, from its end
  generalize whole : first ++ second = minutes at reached
  induction reached generalizing second with
  | start =>
      obtain ⟨rfl, rfl⟩ := List.append_eq_nil_iff.1 whole
      exact ⟨start, .start, .start⟩
  | @turn minutes middle last now before speaks ih =>
      rcases List.eq_nil_or_concat second with rfl | ⟨rest, final, rfl⟩
      · rw [List.append_nil] at whole
        subst whole
        exact ⟨now, before.turn speaks, .start⟩
      · rw [List.concat_eq_append] at whole ⊢
        rw [← List.append_assoc] at whole
        obtain ⟨same, final⟩ := List.append_inj' whole rfl
        cases final
        obtain ⟨between, opening, later⟩ := ih same
        exact ⟨between, opening, later.turn speaks⟩

theorem Reached.last {minute : Minute ι} (reached : Reached start (minutes ++ [minute]) now) :
    ∃ before, Reached start minutes before ∧ before.Speaks minute now := by
  generalize whole : minutes ++ [minute] = all at reached
  cases reached with
  | start => simp at whole
  | turn before speaks =>
      obtain ⟨rfl, same⟩ := List.append_inj' whole rfl
      cases same
      exact ⟨_, before, speaks⟩

theorem Reached.cut {minute : Minute ι} {earlier later : List (Minute ι)}
    (reached : Reached start (earlier ++ minute :: later) now) :
    ∃ before after, Reached start earlier before ∧ before.Speaks minute after ∧
      Reached after later now := by
  rw [List.append_cons] at reached
  obtain ⟨after, opening, rest⟩ := reached.split
  obtain ⟨before, first, speaks⟩ := opening.last
  exact ⟨before, after, first, speaks, rest⟩

theorem Reached.floor_of_urgent {asked : Request} {reply : asked.Answer} {turns : List Turn}
    (reached : Reached start minutes now)
    (last : turnsOf speaker minutes = turns ++ [⟨asked, reply⟩]) (swift : asked.waits = false)
    (urgent : (now.talks speaker).urgent = true) : now.floor = some speaker := by
  induction reached with
  | start => simp [turnsOf] at last
  | @turn minutes middle minute now _ speaks ih =>
      cases speaks with
      | @turn other request next free asks answer records answered =>
          by_cases same : speaker = other
          · subst same
            rw [turnsOf_own] at last
            obtain ⟨-, same⟩ := List.append_inj' last rfl
            cases same
            rw [heard_talk_own] at urgent
            simp [Meeting.heard, swift, urgent]
          · -- nobody else can have had a turn since
            rw [turnsOf_other minutes (Ne.symm same)] at last
            rw [heard_talk_other _ same] at urgent
            exact absurd (free speaker (ih last urgent)) same

theorem Reached.store_of_look {store : Store} {turns : List Turn}
    (reached : Reached start minutes now)
    (last : turnsOf speaker minutes = turns ++ [⟨.states, store⟩])
    (urgent : (now.talks speaker).urgent = true) : now.records.store = store := by
  cases reached with
  | start => simp [turnsOf] at last
  | @turn minutes middle minute now reached speaks =>
      cases speaks with
      | @turn other request next free asks answer records answered =>
          by_cases same : speaker = other
          · subst same
            rw [turnsOf_own] at last
            obtain ⟨-, same⟩ := List.append_inj' last rfl
            cases same
            obtain ⟨told, kept⟩ := answered
            rw [heard_records, kept]
            exact told.symm
          · rw [turnsOf_other minutes (Ne.symm same)] at last
            rw [heard_talk_other _ same] at urgent
            exact absurd (free speaker (reached.floor_of_urgent last rfl urgent)) same

theorem Reached.trans {last : Meeting ι α} {more : List (Minute ι)}
    (first : Reached start minutes middle) (second : Reached middle more last) :
    Reached start (minutes ++ more) last := by
  induction second with
  | start => simpa using first
  | turn _ speaks ih =>
      rw [← List.append_assoc]
      exact ih.turn speaks

/-! Meetings in a scene. -/

def turnIn (scene : Scene) (meeting : Meeting ι α) (speaker : ι) :
    Option (Minute ι × Meeting ι α) :=
  match meeting.talks speaker with
  | .done _ => none
  | .ask asked next =>
      if ∀ other ∈ meeting.floor, other = speaker then
        let told := (scene.answer asked).run meeting.records
        some (⟨speaker, asked, told.1⟩, meeting.heard speaker asked told.2 (next told.1))
      else none

theorem speaks_of_turnIn {scene : Scene} {minute : Minute ι}
    (turn : middle.turnIn scene speaker = some (minute, now)) : middle.Speaks minute now := by
  unfold turnIn at turn
  split at turn
  · cases turn
  · next asked next talk =>
      split at turn
      · next free =>
          cases turn
          exact .turn free talk _ (scene.faithful asked middle.records)
      · cases turn

/-- The minutes of a meeting in which the speakers have their turns in the given order; whoever has
no turn is passed over. -/
def attend (scene : Scene) : List ι → Meeting ι α → List (Minute ι) × Meeting ι α
  | [], meeting => ([], meeting)
  | speaker :: rest, meeting =>
      match meeting.turnIn scene speaker with
      | none => attend scene rest meeting
      | some (minute, later) => (minute :: (attend scene rest later).1, (attend scene rest later).2)

theorem attend_reached (scene : Scene) (order : List ι) (meeting : Meeting ι α) :
    Reached meeting (attend scene order meeting).1 (attend scene order meeting).2 := by
  induction order generalizing meeting with
  | nil => exact .start
  | cons speaker rest ih =>
      unfold attend
      split
      · exact ih meeting
      · next minute later turn =>
          have first : Reached meeting ([] ++ [minute]) later :=
            Reached.start.turn (speaks_of_turnIn turn)
          exact first.trans (ih later)

end Meeting

end Walkthrough
