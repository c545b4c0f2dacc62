import Walkthrough.Proofs.Logbook
import Walkthrough.Proofs.Precedence
/-!
The order in which a listener hears of the changes. A change that is made in the midst of a telling
is told to everyone before that telling goes on, so it overtakes the change that was being told with
all listeners whose turn had not come. Nothing else overtakes: a listener hears of every change once,
and of two changes in the order in which they were made unless the later one was made before it was
told of the earlier one. If nobody who subscribed before it moves a step, it hears of all changes in
their order.
Main statement: `told_in_order_unless_overtaken`.
-/

namespace Walkthrough

def Happening.heard? (serial : Nat) : Happening → Option Nat
  | told number notice => if notice.serial = serial then some number else none
  | _ => none

def heard (serial : Nat) (past : List Happening) : List Nat :=
  past.filterMap (Happening.heard? serial)

@[simp] theorem heard_append (serial : Nat) (first second : List Happening) :
    heard serial (first ++ second) = heard serial first ++ heard serial second :=
  List.filterMap_append

theorem heard_told (serial number : Nat) (change : StateChange) (rest : List Happening) :
    heard serial (.told number ⟨serial, change⟩ :: rest) = number :: heard serial rest := by
  simp [heard, Happening.heard?]

theorem count_heard (serial number : Nat) (past : List Happening) :
    (heard serial past).count number = (recipients number past).count serial := by
  unfold heard recipients
  rw [List.count_filterMap, List.count_filterMap]
  apply List.countP_congr
  intro happening _
  cases happening with
  | told other notice =>
      by_cases same : other = number <;> by_cases own : notice.serial = serial <;>
        simp [Happening.heard?, Happening.recipient?, same, own]
  | _ => simp [Happening.heard?, Happening.recipient?]

theorem exists_told_of_mem_heard {serial number : Nat} {past : List Happening}
    (member : number ∈ heard serial past) :
    ∃ front change rest, past = front ++ .told number ⟨serial, change⟩ :: rest := by
  obtain ⟨happening, inside, found⟩ := List.mem_filterMap.1 member
  obtain ⟨front, rest, split⟩ := List.mem_iff_append.1 inside
  cases happening with
  | told other notice =>
      obtain ⟨other_serial, change⟩ := notice
      by_cases own : other_serial = serial
      · subst own
        have same : other = number := by simpa [Happening.heard?] using found
        subst same
        exact ⟨front, change, rest, split⟩
      · simp [Happening.heard?, own] at found
  | _ => simp [Happening.heard?] at found

/-! Tellings within tellings. -/

theorem eq_append_cons_cases {first second front rest : List Happening} {item : Happening}
    (same : first ++ second = front ++ item :: rest) :
    (∃ middle, first = front ++ item :: middle) ∨
      ∃ middle, front = first ++ middle ∧ second = middle ++ item :: rest := by
  rcases List.append_eq_append_iff.1 same with ⟨middle, before, after⟩ | ⟨middle, before, after⟩
  · exact .inr ⟨middle, before, after⟩
  · rcases List.cons_eq_append_iff.1 after with ⟨rfl, starts⟩ | ⟨inner, rfl, -⟩
    · refine .inr ⟨[], ?_, starts⟩
      rw [before, List.append_nil, List.append_nil]
    · exact .inl ⟨inner, before⟩

/-- Whenever somebody is told of a publication, all later ones made so far have been told to their
whole audience; and if nobody was told of it so far but those who are quiet, it is the latest. -/
structure Nested (quiet : Nat → Prop) (count : Nat) (segment : List Happening) : Prop
    extends Delivers (fun _ => False) count segment where
  settled : ∀ {front rest number notice}, segment = front ++ .told number notice :: rest →
    ∀ offset publication, (publications front)[offset]? = some publication →
      number < count + offset → recipients (count + offset) front = publication.audience
  latest : ∀ {front rest number notice}, segment = front ++ .told number notice :: rest →
    (∀ serial ∈ recipients number front, quiet serial) →
      number + 1 = count + (publications front).length

section Nesting

variable {quiet : Nat → Prop} {count : Nat}

/-- By induction on the telling: when it goes on, all that was published in the midst of it has been
told. -/
theorem Tells.settled {first : Nat} {audience : List Nat} {segment : List Happening}
    (fresh : first < count) (tells : Tells quiet (Nested quiet) first count audience segment)
    {front rest : List Happening} {number : Nat} {notice : Notice}
    (split : segment = front ++ .told number notice :: rest) (offset : Nat)
    {publication : Publication} (found : (publications front)[offset]? = some publication)
    (later : number < count + offset) :
    recipients (count + offset) front = publication.audience := by
  induction tells generalizing front offset with
  | done => simp at split
  | @next count serial change audience inner others_segment reacts calm others ih =>
      rcases List.cons_eq_append_iff.1 split with ⟨rfl, -⟩ | ⟨front, rfl, within⟩
      · simp [publications] at found
      have elsewhere : recipients (count + offset) (.told first ⟨serial, change⟩ :: front) =
          recipients (count + offset) front := by
        have distinct : first ≠ count + offset := by omega
        simp [recipients, Happening.recipient?, distinct]
      have published : publications (.told first ⟨serial, change⟩ :: front) =
          publications front := rfl
      rw [published] at found
      rw [elsewhere]
      rcases eq_append_cons_cases within with ⟨middle, inside⟩ | ⟨middle, rfl, behind⟩
      · exact reacts.settled inside offset publication found later
      rw [publications_append] at found
      rw [recipients_append]
      by_cases early : offset < (publications inner).length
      · -- Published by this listener: told by now, and never again.
        rw [List.getElem?_append_left early] at found
        obtain ⟨-, delivers⟩ := others.delivers Nested.toDelivers (by omega)
        have nobody : recipients (count + offset) others_segment = [] :=
          delivers.nobody (by omega) (.inl (by omega))
        rw [behind, recipients_append] at nobody
        rw [reacts.each offset publication found, (List.append_eq_nil_iff.1 nobody).1,
          List.append_nil]
      · rw [List.getElem?_append_right (by omega)] at found
        have same : count + (publications inner).length +
            (offset - (publications inner).length) = count + offset := by omega
        have nobody : recipients (count + offset) inner = [] := reacts.nobody id (.inr (by omega))
        have told := ih (by omega) behind _ found (by omega)
        rw [same] at told
        rw [nobody, List.nil_append, told]

theorem Tells.latest {first : Nat} {audience told : List Nat} {segment : List Happening}
    (fresh : first < count) (alone : (∀ serial ∈ told, quiet serial) → count = first + 1)
    (tells : Tells quiet (Nested quiet) first count audience segment)
    {front rest : List Happening} {number : Nat} {notice : Notice}
    (split : segment = front ++ .told number notice :: rest)
    (before : number = first → ∀ serial ∈ told, quiet serial)
    (hushed : ∀ serial ∈ recipients number front, quiet serial) :
    number + 1 = count + (publications front).length := by
  induction tells generalizing front told with
  | done => simp at split
  | @next count serial change audience inner others_segment reacts calm others ih =>
      rcases List.cons_eq_append_iff.1 split with ⟨rfl, same⟩ | ⟨front, rfl, within⟩
      · obtain ⟨rfl, -⟩ := Happening.told.inj (List.cons.inj same).1
        exact (alone (before rfl)).symm
      have published : publications (.told first ⟨serial, change⟩ :: front) =
          publications front := rfl
      have more : ∀ other ∈ recipients number front, quiet other := by
        intro other member
        apply hushed
        rw [← List.singleton_append, recipients_append]
        exact List.mem_append_right _ member
      rw [published]
      rcases eq_append_cons_cases within with ⟨middle, inside⟩ | ⟨middle, rfl, behind⟩
      · exact reacts.latest inside more
      have own : number = first → quiet serial := by
        rintro rfl
        apply hushed
        simp [recipients, Happening.recipient?]
      have alone_still : (∀ other ∈ told ++ [serial], quiet other) →
          count + (publications inner).length = first + 1 := by
        intro all
        rw [calm (all serial (by simp)), alone fun other member => all other (by simp [member])]
        rfl
      rw [ih (by omega) alone_still behind ?before ?later, publications_append, List.length_append]
      · omega
      case before =>
        intro same other member
        rcases List.mem_append.1 member with earlier | last
        · exact before same other earlier
        · rw [List.mem_singleton.1 last]
          exact own same
      case later =>
        intro other member
        apply more
        rw [recipients_append]
        exact List.mem_append_right _ member

theorem Nested.append {first second : List Happening} (before : Nested quiet count first)
    (after : Nested quiet (count + (publications first).length) second) :
    Nested quiet count (first ++ second) where
  toDelivers := before.toDelivers.append (by simp) after.toDelivers
  settled := by
    intro front rest number notice split offset publication found later
    rcases eq_append_cons_cases split with ⟨middle, inside⟩ | ⟨middle, rfl, behind⟩
    · exact before.settled inside offset publication found later
    rw [publications_append] at found
    rw [recipients_append]
    by_cases early : offset < (publications first).length
    · -- What is told in the second part was published there.
      rcases after.own number notice (by rw [behind]; simp) with none | own
      · exact none.elim
      · omega
    · rw [List.getElem?_append_right (by omega)] at found
      have same : count + (publications first).length + (offset - (publications first).length) =
          count + offset := by omega
      have nobody : recipients (count + offset) first = [] := before.nobody id (.inr (by omega))
      have told := after.settled behind _ publication found (by omega)
      rw [same] at told
      rw [nobody, List.nil_append, told]
  latest := by
    intro front rest number notice split hushed
    rcases eq_append_cons_cases split with ⟨middle, inside⟩ | ⟨middle, rfl, behind⟩
    · exact before.latest inside hushed
    rw [recipients_append] at hushed
    rw [after.latest behind fun serial member => hushed serial (List.mem_append_right _ member),
      publications_append, List.length_append]
    omega

theorem nested_of_mute {segment : List Happening} (delivers : Delivers (fun _ => False) count segment)
    (mute : ∀ number notice, .told number notice ∉ segment) : Nested quiet count segment where
  toDelivers := delivers
  settled := by
    rintro front rest number notice rfl
    exact absurd (by simp) (mute number notice)
  latest := by
    rintro front rest number notice rfl
    exact absurd (by simp) (mute number notice)

theorem nested_composes (quiet : Nat → Prop) : Composes quiet (Nested quiet) where
  nil count := nested_of_mute .nil (by simp)
  append := .append
  note silent mute := by
    apply nested_of_mute ((delivers_composes quiet).note silent mute)
    intro number notice member
    exact mute number notice (List.mem_singleton.1 member).symm
  published := by
    intro count publication segment tells
    refine ⟨tells.published Nested.toDelivers, ?settled, ?latest⟩
    case settled =>
      intro front rest number notice split offset other found later
      rcases List.cons_eq_append_iff.1 split with ⟨rfl, -⟩ | ⟨front, rfl, within⟩
      · simp [publications] at found
      have published : publications (.published publication :: front) =
          publication :: publications front := rfl
      have own := tells.delivers Nested.toDelivers (Nat.lt_succ_self count)
      rw [published] at found
      cases offset with
      | zero =>
          have least : number = count ∨ count + 1 ≤ number := by
            rcases own.2.own number notice (by rw [within]; simp) with same | range <;> omega
          omega
      | succ offset =>
          rw [List.getElem?_cons_succ] at found
          have same : count + (offset + 1) = count + 1 + offset := by omega
          rw [same] at later ⊢
          exact tells.settled (Nat.lt_succ_self count) within offset found later
    case latest =>
      intro front rest number notice split hushed
      rcases List.cons_eq_append_iff.1 split with ⟨rfl, same⟩ | ⟨front, rfl, within⟩
      · cases (List.cons.inj same).1
      have published : publications (.published publication :: front) =
          publication :: publications front := rfl
      have latest := tells.latest (Nat.lt_succ_self count)
        (fun _ : ∀ serial ∈ [], quiet serial => rfl) within (by simp) hushed
      rw [latest, published, List.length_cons]
      omega

end Nesting

/-! Who is told. -/

def Happening.listed (listed : List Nat) : Happening → List Nat
  | subscribed serial => listed ++ [serial]
  | unsubscribed serial => listed.erase serial
  | _ => listed

def subscribers (past : List Happening) : List Nat :=
  past.foldl Happening.listed []

theorem subscribers_concat (past : List Happening) (happening : Happening) :
    subscribers (past ++ [happening]) = happening.listed (subscribers past) := by
  simp [subscribers]

namespace History

variable {past : List Happening} {board : Board}

theorem subscribers (history : History past board) :
    board.listeners.map Listener.serial = subscribers past := by
  induction history with
  | empty => rfl
  | subscribed earlier listener ih =>
      rw [subscribers_concat, ← ih]
      simp [Board.subscribe, Happening.listed]
  | unsubscribed earlier serial ih =>
      rw [subscribers_concat, ← ih]
      simp [Board.unsubscribe, Happening.listed, List.erase_eq_eraseP, List.eraseP_map,
        Function.comp_def, Bool.beq_comm]
  | published _ _ ih | told _ _ ih | indexed _ _ _ ih =>
      rw [subscribers_concat]
      exact ih

theorem audience (history : History past board) {front rest : List Happening}
    {publication : Publication} (split : past = front ++ .published publication :: rest) :
    publication.audience = Walkthrough.subscribers front := by
  subst split
  rw [← List.singleton_append, ← List.append_assoc] at history
  obtain ⟨after, until_then⟩ := history.of_append
  generalize whole : front ++ [.published publication] = found at until_then
  cases until_then with
  | empty => simp at whole
  | published earlier accepted =>
      obtain ⟨rfl, last⟩ := List.append_inj' whole rfl
      cases List.singleton_inj.1 last
      exact earlier.subscribers
  | told | subscribed | unsubscribed | indexed =>
      obtain ⟨-, last⟩ := List.append_inj' whole rfl
      cases List.singleton_inj.1 last

end History

/-- While a subscription lasts, those ahead of it can only become fewer. -/
theorem listed_attending {serial : Nat} {since : List Happening}
    (once : .subscribed serial ∉ since) (stays : .unsubscribed serial ∉ since)
    {ahead behind : List Nat} (alone : serial ∉ ahead ++ behind) :
    ∃ still others, since.foldl Happening.listed (ahead ++ serial :: behind) =
      still ++ serial :: others ∧ still ⊆ ahead ∧ serial ∉ still ++ others := by
  induction since generalizing ahead behind with
  | nil => exact ⟨ahead, behind, rfl, List.Subset.refl _, alone⟩
  | cons happening rest ih =>
      rw [List.mem_cons, not_or] at once stays
      rw [List.mem_append, not_or] at alone
      rw [List.foldl_cons]
      cases happening with
      | subscribed other =>
          have distinct : serial ≠ other := by
            rintro rfl
            exact once.1 rfl
          have alone_still : serial ∉ ahead ++ (behind ++ [other]) := by simp [alone, distinct]
          simpa [Happening.listed] using ih once.2 stays.2 alone_still
      | unsubscribed other =>
          have distinct : serial ≠ other := by
            rintro rfl
            exact stays.1 rfl
          by_cases before : other ∈ ahead
          · have erased : (ahead ++ serial :: behind).erase other =
                ahead.erase other ++ serial :: behind := by
              rw [List.erase_append, if_pos before]
            have alone_still : serial ∉ ahead.erase other ++ behind := by
              simp [alone, mt List.mem_of_mem_erase]
            obtain ⟨still, others, same, fewer, alone⟩ := ih once.2 stays.2 alone_still
            rw [Happening.listed, erased]
            exact ⟨still, others, same, List.Subset.trans fewer List.erase_subset, alone⟩
          · have erased : (ahead ++ serial :: behind).erase other =
                ahead ++ serial :: behind.erase other := by
              rw [List.erase_append, if_neg before, List.erase_cons_tail (by simpa using distinct)]
            rw [Happening.listed, erased]
            exact ih once.2 stays.2 (by simp [alone, mt List.mem_of_mem_erase])
      | published | told | indexed => exact ih once.2 stays.2 (by simp [alone])

theorem not_mem_subscribers {serial : Nat} {past : List Happening}
    (never : .subscribed serial ∉ past) : serial ∉ subscribers past := by
  induction past using List.reverseRecOn with
  | nil => simp [subscribers]
  | append_singleton past happening ih =>
      rw [List.mem_append, not_or] at never
      rw [subscribers_concat]
      cases happening with
      | subscribed other =>
          have distinct : serial ≠ other := by
            rintro rfl
            exact never.2 (List.mem_singleton.2 rfl)
          simp [Happening.listed, ih never.1, distinct]
      | unsubscribed other => exact mt List.mem_of_mem_erase (ih never.1)
      | published | told | indexed => exact ih never.1

theorem exists_published_of_mem {publication : Publication} {past : List Happening}
    (member : publication ∈ publications past) :
    ∃ front rest, past = front ++ .published publication :: rest := by
  obtain ⟨happening, inside, found⟩ := List.mem_filterMap.1 member
  cases happening with
  | published other =>
      cases found
      exact List.mem_iff_append.1 inside
  | _ => cases found

/-- A subscription that begins after some happenings, and lasts. -/
structure Attends (serial : Nat) (before since past : List Happening) : Prop where
  past_eq : past = before ++ .subscribed serial :: since
  once : .subscribed serial ∉ before ++ since
  stays : .unsubscribed serial ∉ before ++ since

section Listening

variable {serial : Nat} {quiet : Nat → Prop} {before since past : List Happening} {board : Board}

theorem Attends.publications_eq (attends : Attends serial before since past) :
    publications past = publications before ++ publications since := by
  rw [attends.past_eq, publications_append]
  rfl

theorem Attends.audience (attends : Attends serial before since past)
    (history : History past board) {number : Nat} {publication : Publication}
    (found : (publications past)[number]? = some publication) :
    (number < (publications before).length ∧ serial ∉ publication.audience) ∨
      ((publications before).length ≤ number ∧ ∃ ahead behind,
        publication.audience = ahead ++ serial :: behind ∧ ahead ⊆ subscribers before ∧
          serial ∉ ahead ++ behind) := by
  have split := attends.past_eq
  have once := attends.once
  have stays := attends.stays
  rw [List.mem_append, not_or] at once stays
  rw [attends.publications_eq] at found
  by_cases early : number < (publications before).length
  · rw [List.getElem?_append_left early] at found
    obtain ⟨front, rest, inside⟩ := exists_published_of_mem (List.mem_of_getElem? found)
    rw [inside, List.append_assoc] at split
    refine .inl ⟨early, ?_⟩
    rw [history.audience split]
    apply not_mem_subscribers
    intro member
    exact once.1 (by rw [inside]; exact List.mem_append_left _ member)
  · rw [List.getElem?_append_right (by omega)] at found
    obtain ⟨front, rest, inside⟩ := exists_published_of_mem (List.mem_of_getElem? found)
    rw [inside, ← List.cons_append, ← List.append_assoc] at split
    refine .inr ⟨by omega, ?_⟩
    have since_once : .subscribed serial ∉ front := by
      intro member
      exact once.2 (by rw [inside]; exact List.mem_append_left _ member)
    have since_stays : .unsubscribed serial ∉ front := by
      intro member
      exact stays.2 (by rw [inside]; exact List.mem_append_left _ member)
    have alone : serial ∉ subscribers before ++ [] := by
      simpa using not_mem_subscribers once.1
    obtain ⟨ahead, behind, listed, fewer, apart⟩ := listed_attending since_once since_stays alone
    refine ⟨ahead, behind, ?_, fewer, apart⟩
    rw [history.audience split, ← listed, subscribers, List.foldl_append]
    rfl

theorem Attends.count_heard (attends : Attends serial before since past)
    (history : History past board) (nested : Nested quiet 0 past) (number : Nat) :
    (heard serial past).count number =
      (List.range' (publications before).length (publications since).length).count number := by
  have total := congrArg List.length attends.publications_eq
  rw [List.length_append] at total
  rw [Walkthrough.count_heard, List.count_range_1']
  cases found : (publications past)[number]? with
  | none =>
      have beyond := List.getElem?_eq_none_iff.1 found
      rw [nested.nobody id (.inr (by omega)), List.count_nil, if_neg (by omega)]
  | some publication =>
      have inside := (List.getElem?_eq_some_iff.1 found).1
      have told := nested.each number publication found
      rw [Nat.zero_add] at told
      rw [told]
      rcases attends.audience history found with
        ⟨early, absent⟩ | ⟨late, ahead, behind, audience, -, apart⟩
      · rw [List.count_eq_zero.2 absent, if_neg (by omega)]
      · rw [List.mem_append, not_or] at apart
        rw [audience, List.count_append, List.count_cons_self, List.count_eq_zero.2 apart.1,
          List.count_eq_zero.2 apart.2, if_pos (by omega)]

theorem Attends.heard_perm (attends : Attends serial before since past)
    (history : History past board) (nested : Nested quiet 0 past) :
    (heard serial past).Perm
      (List.range' (publications before).length (publications since).length) :=
  List.perm_iff_count.2 (attends.count_heard history nested)

theorem Attends.heard_nodup (attends : Attends serial before since past)
    (history : History past board) (nested : Nested quiet 0 past) :
    (heard serial past).Nodup :=
  (attends.heard_perm history nested).nodup_iff.2 List.nodup_range'

theorem Attends.mem_heard (attends : Attends serial before since past)
    (history : History past board) (nested : Nested quiet 0 past) {number : Nat} :
    number ∈ heard serial past ↔
      (publications before).length ≤ number ∧ number < (publications past).length := by
  rw [(attends.heard_perm history nested).mem_iff, List.mem_range'_1, attends.publications_eq,
    List.length_append]

/-- A later publication is heard of first exactly if it was made before the subscriber was told of
the earlier one. -/
theorem Attends.overtaken_iff (attends : Attends serial before since past)
    (history : History past board) (nested : Nested quiet 0 past) {front rest : List Happening}
    {number : Nat} {change : StateChange}
    (split : past = front ++ .told number ⟨serial, change⟩ :: rest) {next : Nat}
    (later : number < next) :
    Before (heard serial past) next number ↔ next < (publications front).length := by
  have hearing : heard serial past = heard serial front ++ number :: heard serial rest := by
    rw [split, heard_append, heard_told]
  have member : number ∈ heard serial past := by
    rw [hearing]
    simp
  have distinct := attends.heard_nodup history nested
  -- As it is heard of once, this is about what was heard of in the front part.
  rw [hearing] at distinct ⊢
  rw [before_iff_mem_front distinct]
  constructor
  · intro first
    obtain ⟨start, other, tail, inside⟩ := exists_told_of_mem_heard first
    rw [split] at history
    obtain ⟨until_then, earlier⟩ := history.of_append
    have told : .told next ⟨serial, other⟩ ∈ front := by
      rw [inside]
      simp
    obtain ⟨publication, found, -⟩ := earlier.told_published told
    exact (List.getElem?_eq_some_iff.1 found).1
  · intro made
    obtain ⟨publication, found⟩ : ∃ publication, (publications front)[next]? = some publication :=
      ⟨_, List.getElem?_eq_getElem made⟩
    have known : (publications past)[next]? = some publication := by
      rw [split, publications_append, List.getElem?_append_left made, found]
    have began := ((attends.mem_heard history nested).1 member).1
    -- Whoever goes on telling has told the later one to everybody.
    have told := nested.settled split next publication found (by omega)
    rw [Nat.zero_add] at told
    rw [← List.count_pos_iff, Walkthrough.count_heard, List.count_pos_iff, told]
    rcases attends.audience history known with ⟨early, -⟩ | ⟨-, ahead, behind, audience, -⟩
    · omega
    · rw [audience]
      simp

theorem Attends.filter_heard (attends : Attends serial before since past)
    (history : History past board) (nested : Nested quiet 0 past) (among : Nat → Bool)
    (orderly : ∀ number next, among number = true → among next = true → number < next →
      ¬Before (heard serial past) next number) :
    (heard serial past).filter among =
      (List.range' (publications before).length (publications since).length).filter among := by
  have perm := (attends.heard_perm history nested).filter among
  have distinct := attends.heard_nodup history nested
  have ascending : ((heard serial past).filter among).Pairwise (· < ·) := by
    rw [List.pairwise_iff_forall_sublist]
    intro first second order
    have whole := order.trans List.filter_sublist
    have first_among := (List.mem_filter.1 (Before.mem_left order)).2
    have second_among := (List.mem_filter.1 (Before.mem_right order)).2
    have apart : first ≠ second := distinct.forall_sublist whole
    by_cases backwards : second < first
    · exact absurd whole (orderly second first second_among first_among backwards)
    · omega
  exact perm.eq_of_pairwise (by omega) ascending ((List.pairwise_lt_range' 1).filter among)

theorem Attends.not_overtaken (attends : Attends serial before since past)
    (history : History past board) (nested : Nested (· ∈ subscribers before) 0 past)
    (number next : Nat) (later : number < next) :
    ¬Before (heard serial past) next number := by
  intro order
  obtain ⟨front, change, rest, split⟩ :=
    exists_told_of_mem_heard order.mem_right
  have made := (attends.overtaken_iff history nested split later).1 order
  have hushed : ∀ other ∈ recipients number front, other ∈ subscribers before := by
    intro other member
    have known : .told number ⟨serial, change⟩ ∈ past := by
      rw [split]
      simp
    obtain ⟨publication, found, -⟩ := history.told_published known
    have told := nested.each number publication found
    rw [Nat.zero_add, split, recipients_append] at told
    have own : recipients number (.told number ⟨serial, change⟩ :: rest) =
        serial :: recipients number rest := by
      simp [recipients, Happening.recipient?]
    rw [own] at told
    rcases attends.audience history found with ⟨-, absent⟩ | ⟨-, ahead, behind, audience, fewer, apart⟩
    · rw [← told] at absent
      simp at absent
    · rw [audience] at told
      rw [List.mem_append, not_or] at apart
      obtain ⟨same, -⟩ := (List.append_cons_inj_of_notMem apart.1 apart.2).1 told.symm
      exact fewer (by rw [same]; exact member)
  have latest := nested.latest split hushed
  omega

end Listening

/-! What is told, as changes. -/

theorem told_of_known {serial : Nat} {all : List StateChange} {past : List Happening}
    (known : ∀ number notice, .told number notice ∈ past → all[number]? = some notice.change) :
    ((past.filterMap Happening.notice?).filter fun notice => notice.serial == serial).map
      Notice.change = (heard serial past).filterMap fun number => all[number]? := by
  induction past with
  | nil => rfl
  | cons happening rest ih =>
      have others := ih fun number notice member =>
        known number notice (List.mem_cons_of_mem _ member)
      cases happening with
      | told number notice =>
          have own := known number notice List.mem_cons_self
          by_cases same : notice.serial = serial <;>
            simpa [heard, Happening.heard?, Happening.notice?, same, own] using others
      | _ => exact others

theorem told_eq_heard {serial : Nat} {past : List Happening} {board : Board}
    (history : History past board) :
    (board.told serial).reverse = (heard serial past).filterMap fun number =>
      (changes past)[number]? := by
  rw [Board.told_reverse, history.notices_eq]
  apply told_of_known
  intro number notice member
  obtain ⟨publication, found, same⟩ := history.told_published member
  rw [changes, List.getElem?_map, found, same]
  rfl

theorem filter_filterMap_getElem? {α : Type} (test : α → Bool) (items : List α)
    (numbers : List Nat) :
    (numbers.filterMap fun number => items[number]?).filter test =
      (numbers.filter fun number => items[number]?.any test).filterMap fun number =>
        items[number]? := by
  rw [List.filter_filterMap, List.filterMap_filter]
  congr 1
  funext number
  cases items[number]? with
  | none => simp
  | some item => by_cases holds : test item <;> simp [holds]

theorem Follows.split {first last : Status} {path rest : List StateChange}
    (follows : Follows first (path ++ rest) last) :
    ∃ middle, Follows first path middle ∧ Follows middle rest last := by
  induction path generalizing first with
  | nil => exact ⟨first, .done, follows⟩
  | cons change others ih =>
      cases follows with
      | next previous may others_follow =>
          obtain ⟨middle, before, after⟩ := ih others_follow
          exact ⟨middle, .next previous may before, after⟩

section Listening

variable {serial : Nat} {quiet : Nat → Prop} {before since past : List Happening} {board : Board}

theorem Attends.changes_eq (attends : Attends serial before since past) :
    changes past = changes before ++ changes since := by
  rw [changes, attends.publications_eq, List.map_append]
  rfl

theorem Attends.filter_told (attends : Attends serial before since past)
    (history : History past board) (nested : Nested quiet 0 past) (kind : StateChange → Bool)
    (orderly : ∀ number next, (changes past)[number]?.any kind = true →
      (changes past)[next]?.any kind = true → number < next →
        ¬Before (heard serial past) next number) :
    (board.told serial).reverse.filter kind = (changes since).filter kind := by
  have all : (List.range' (publications before).length (publications since).length).filterMap
      (fun number => (changes past)[number]?) = changes since := by
    have range := filterMap_getElem?_range' (changes before) (changes since)
    rw [← attends.changes_eq] at range
    simpa [changes] using range
  rw [told_eq_heard history, filter_filterMap_getElem?,
    attends.filter_heard history nested _ orderly, ← filter_filterMap_getElem?, all]

/-- No change of the step is made between the publication of an earlier one and the moment when the
subscriber is told of that one. -/
def Uncrossed (serial : Nat) (key : String) (past : List Happening) : Prop :=
  ∀ front number change rest, past = front ++ .told number ⟨serial, change⟩ :: rest →
    change.step = key → ∀ later ∈ (changes front).drop (number + 1), later.step ≠ key

theorem Attends.changesOf_told (attends : Attends serial before since past)
    (history : History past board) (nested : Nested quiet 0 past) {key : String}
    (uncrossed : Uncrossed serial key past) :
    changesOf key (board.told serial).reverse = changesOf key (changes since) := by
  apply attends.filter_told history nested
  intro number next own next_own later order
  obtain ⟨front, change, rest, split⟩ :=
    exists_told_of_mem_heard order.mem_right
  have made := (attends.overtaken_iff history nested split later).1 order
  have told : .told number ⟨serial, change⟩ ∈ past := by
    rw [split]
    simp
  obtain ⟨publication, found, same⟩ := history.told_published told
  have known : (changes past)[number]? = some change := by
    rw [changes, List.getElem?_map, found]
    exact congrArg some same.symm
  have published : (changes past)[next]? = (changes front)[next]? := by
    rw [split, changes_append, List.getElem?_append_left (by simpa [changes] using made)]
  rw [known] at own
  rw [published] at next_own
  cases there : (changes front)[next]? with
  | none => simp [there] at next_own
  | some other =>
      rw [there] at next_own
      have member : other ∈ (changes front).drop (number + 1) := by
        apply List.mem_of_getElem? (i := next - (number + 1))
        rw [List.getElem?_drop, ← there]
        congr 1
        omega
      exact uncrossed front number change rest split (by simpa using own) other member
        (by simpa using next_own)

theorem Attends.follows (attends : Attends serial before since past)
    (history : History past board) {key : String} {told : List StateChange}
    (same : changesOf key told = changesOf key (changes since)) :
    ∃ first, Follows .idle (changesOf key (changes before)) first ∧
      Follows first (changesOf key told) (board.store.status key) := by
  have whole := history.follows key
  rw [attends.changes_eq, changesOf_append, ← same] at whole
  exact whole.split

end Listening

theorem nested_performAll (quiet : Nat → Prop) (depth : Nat) {operations : List Board.Operation}
    (own : ∀ listener, .subscribe listener ∈ operations → listener.Calm quiet) :
    History (Chronicle.performAll depth operations).past (Board.performAll depth operations) ∧
      Nested quiet 0 (Chronicle.performAll depth operations).past := by
  have empty_sound : Chronicle.empty.Sound := .empty
  have calm : Calm quiet Chronicle.empty.board.listeners := by
    intro listener member
    cases member
  obtain ⟨sound, -, segment, past, nested⟩ :=
    unfolds_foldl (nested_composes quiet) depth own empty_sound calm
  obtain rfl : (Chronicle.performAll depth operations).past = segment := past
  exact ⟨Chronicle.board_performAll depth operations ▸ sound, nested⟩

/-- Whatever is done to a fresh board, and whatever the listeners do when they are told: a listener
that stays subscribed is told once of everything from its subscription on, and of one change before
an earlier one exactly if it was made before the listener was told of the earlier one. So it is told
of the changes of a step in order, from where the step stood then to where it stands now, unless one
of them was made while an earlier one was still on its way to it. If no listener that was there
before it moves a step, it is told of all changes in order; so a log that subscribes first writes
down all changes that can be written, each with its number among all, and if that is all of them its
lines add up to the store. -/
theorem told_in_order_unless_overtaken (depth : Nat) (operations : List Board.Operation)
    {serial : Nat} {before since : List Happening}
    (attends : Attends serial before since (Chronicle.performAll depth operations).past) :
    let past := (Chronicle.performAll depth operations).past
    let board := Board.performAll depth operations
    let told := (board.told serial).reverse
    told = (heard serial past).filterMap (fun number => (changes past)[number]?) ∧
    (heard serial past).Perm
      (List.range' (publications before).length (publications since).length) ∧
    (∀ front number change rest, past = front ++ .told number ⟨serial, change⟩ :: rest →
      ∀ next, number < next →
        (Before (heard serial past) next number ↔ next < (publications front).length)) ∧
    (∀ key, Uncrossed serial key past →
      changesOf key told = changesOf key (changes since) ∧
      ∃ first, Follows .idle (changesOf key (changes before)) first ∧
        Follows first (changesOf key told) (board.store.status key)) ∧
    ((∀ listener, .subscribe listener ∈ operations → listener.Calm (· ∈ subscribers before)) →
      told = changes since ∧
      (∀ key, ∃ first, Follows .idle (changesOf key (changes before)) first ∧
        Follows first (changesOf key told) (board.store.status key)) ∧
      (before = [] → ∀ run,
        let log := (EventLog.start run).recordAll told
        log.lines = EventLog.numbered run 1 (changes past) ∧
        ((∀ change ∈ changes past, change.isWritable = true) → log.Accounts board.store))) := by
  intro past board told
  obtain ⟨history, nested⟩ := nested_performAll (fun _ => False) depth
    fun listener (_ : .subscribe listener ∈ operations) => listener.calm_of_none
  refine ⟨told_eq_heard history, attends.heard_perm history nested, ?overtaken, ?uncrossed,
    ?behind⟩
  case overtaken =>
    intro front number change rest split next later
    exact attends.overtaken_iff history nested split later
  case uncrossed =>
    intro key uncrossed
    have same := attends.changesOf_told history nested uncrossed
    exact ⟨same, attends.follows history same⟩
  case behind =>
    intro still
    obtain ⟨-, hushed⟩ := nested_performAll (· ∈ subscribers before) depth still
    have in_order : told = changes since := by
      have filtered := attends.filter_told history hushed (fun _ => true)
        fun number next _ _ later => attends.not_overtaken history hushed number next later
      simpa using filtered
    have follows (key : String) := attends.follows history (congrArg (changesOf key) in_order)
    refine ⟨in_order, follows, ?_⟩
    rintro rfl run
    have everything : told = changes past := in_order.trans attends.changes_eq.symm
    rw [← everything]
    refine ⟨EventLog.recordAll_start run told, fun writable => ?_⟩
    apply EventLog.accounts_of_follows _ writable run
    intro key
    obtain ⟨first, start, path⟩ := follows key
    cases start
    exact path

/-- Completes a step as soon as it is told that the step is running. -/
def impatient (serial : Nat) : Listener where
  serial := serial
  react
    | change :: _ =>
        if change.status = .running then [.move ⟨change.step, .completed, none, none⟩] else []
    | [] => []

def hasty : List Board.Operation :=
  [.subscribe (impatient 0), .subscribe ⟨1, fun _ => []⟩, .transition ⟨"a", .running, none, none⟩]

/-- A log ahead of a listener that subscribes an impatient one when it is first told something. -/
def punctual : List Board.Operation :=
  [.subscribe ⟨1, fun _ => []⟩,
   .subscribe ⟨0, fun told => if told.length = 1 then [.subscribe (impatient 2)] else []⟩,
   .transition ⟨"a", .running, none, none⟩, .transition ⟨"b", .running, none, none⟩]

theorem hasty_attended :
    let past := (Chronicle.performAll 1 hasty).past
    Attends 1 [.subscribed 0] (past.drop 2) past where
  past_eq := rfl
  once := by decide
  stays := by decide

theorem punctual_attended :
    let past := (Chronicle.performAll 1 punctual).past
    Attends 1 [] (past.drop 1) past where
  past_eq := rfl
  once := by decide
  stays := by decide

theorem hasty_and_punctual_told :
    let past := (Chronicle.performAll 1 hasty).past
    let told := ((Board.performAll 1 punctual).told 1).reverse
    (heard 1 past).Perm [0, 1] ∧ Before (heard 1 past) 1 0 ∧
      told = [⟨"a", .idle, .running, none, none⟩, ⟨"b", .idle, .running, none, none⟩,
        ⟨"b", .running, .completed, none, none⟩] ∧
      ((EventLog.start "run").recordAll told).Accounts
        [("a", ⟨.running, none, none⟩), ("b", ⟨.completed, none, none⟩)] := by
  intro past told
  obtain ⟨-, once, overtaken, -, -⟩ := told_in_order_unless_overtaken 1 hasty hasty_attended
  obtain ⟨-, -, -, -, behind⟩ := told_in_order_unless_overtaken 1 punctual punctual_attended
  obtain ⟨in_order, -, log⟩ := behind fun listener _ other _ quiet => by simp [subscribers] at quiet
  have split : past = past.take 7 ++ .told 0 ⟨1, ⟨"a", .idle, .running, none, none⟩⟩ :: [] := rfl
  refine ⟨once, (overtaken _ 0 _ [] split 1 (by decide)).2 (by decide), in_order, ?_⟩
  exact (log rfl "run").2 (by decide)

/-- The log behind the impatient listener is told of the completion before the start; and a log that
nobody is ahead of misses the change that it cannot write. -/
theorem hasty_told_backwards :
    let past := (Chronicle.performAll 1 hasty).past
    let board := Board.performAll 1 hasty
    let told := (board.told 1).reverse
    let alone := (Chronicle.performAll 0 stranded).past
    (Attends 1 [.subscribed 0] (past.drop 2) past ∧
      changesOf "a" (changes past) =
        [⟨"a", .idle, .running, none, none⟩, ⟨"a", .running, .completed, none, none⟩] ∧
      changesOf "a" told =
        [⟨"a", .running, .completed, none, none⟩, ⟨"a", .idle, .running, none, none⟩] ∧
      board.store.status "a" = .completed ∧
      (∀ first, ¬Follows first (changesOf "a" told) .completed) ∧
      ∀ run, ¬((EventLog.start run).recordAll told).Accounts board.store) ∧
    Attends 0 [] (alone.drop 1) alone ∧
      ∀ run, ¬((EventLog.start run).recordAll ((Board.performAll 0 stranded).told 0).reverse).Accounts
        (Board.performAll 0 stranded).store := by
  intro past board told alone
  have backwards : changesOf "a" told =
      [⟨"a", .running, .completed, none, none⟩, ⟨"a", .idle, .running, none, none⟩] := by decide
  have stands : board.store.status "a" = .completed := by decide
  have broken (first last : Status) : ¬Follows first (changesOf "a" told) last := by
    rw [backwards]
    intro follows
    cases follows with
    | next _ _ others =>
        cases others with
        | next previous => cases previous
  have attended : Attends 0 [] (alone.drop 1) alone := ⟨rfl, by decide, by decide⟩
  refine ⟨⟨hasty_attended, by decide, backwards, stands, fun first => broken first _, ?_⟩, attended,
    fun run => (stranded_unaccounted run).2⟩
  intro run accounts
  have writable : ∀ change ∈ told, change.isWritable = true := by decide
  have follows := accounts.follows "a"
  rw [EventLog.recordAll_start, (EventLog.numbered_of_writable writable run 1).1] at follows
  exact broken _ _ follows

end Walkthrough
