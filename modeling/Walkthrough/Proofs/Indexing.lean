import Walkthrough.Proofs.Spelling
/-!
An indexed match behind a base. The selector is cut at the index, whatever follows it; the base is
resolved by whichever means, and the match is taken from what it resolves to. An index with a sign
is no index of an indexed match, and it is refused like zero.
Main statement: `nth_match_indexes_base`.
-/

namespace Walkthrough

namespace Selector

open Run Resolution Text

def indexedText (base numeral after : String) : String :=
  base ++ ":nth-match(" ++ numeral ++ ")" ++ after

/-- A row of digits, of any script and not too long to be read, that writes a number. -/
structure Numeral (numeral : String) (number : Nat) : Prop where
  filled : numeral ≠ ""
  digits : ∀ letter ∈ numeral.toList, isDigit letter = true
  short : numeral.length ≤ Decimal.digitLimit
  value : ofDigits (numeral.toList.filterMap digit?) = number

section Reading

variable {base numeral after : String} {rest : List Char}

theorem colon_not_mem (digits : ∀ letter ∈ numeral.toList, isDigit letter = true) :
    ':' ∉ numeral.toList := by
  intro member
  exact absurd (digits _ member) (by decide)

theorem length_digits (digits : ∀ letter ∈ numeral.toList, isDigit letter = true) :
    (numeral.toList.filterMap digit?).length = numeral.length := by
  rw [List.filterMap_length_eq_length.2 digits, String.length_toList]

theorem readDigits_numeral (filled : numeral ≠ "")
    (digits : ∀ letter ∈ numeral.toList, isDigit letter = true) :
    readDigits (numeral.toList ++ ')' :: rest) = some (numeral.toList.filterMap digit?, rest) := by
  unfold readDigits
  rw [takeWhile_append_stop digits (by decide)]
  dsimp only
  rw [List.drop_left]
  simp [filled]

theorem indexedText_toList (base numeral after : String) :
    (indexedText base numeral after).toList =
      base.toList ++ (nthMark ++ (numeral.toList ++ ')' :: after.toList)) := by
  have marked : ":nth-match(".toList = nthMark := rfl
  have closing : ")".toList = [')'] := rfl
  rw [indexedText, String.toList_append, String.toList_append, String.toList_append,
    String.toList_append, closing, marked, List.append_assoc, List.append_assoc, List.append_assoc,
    List.singleton_append]

theorem indexedText_ne_base : indexedText base numeral after ≠ base := by
  intro same
  have longer := congrArg String.toList same
  rw [indexedText_toList] at longer
  have empty := (List.append_eq_nil_iff.1 (List.append_right_eq_self.1 longer)).1
  exact absurd empty (by decide)

theorem nthMark_form : ∃ tail, nthMark = ':' :: tail ∧ ':' ∉ tail :=
  ⟨"nth-match(".toList, rfl, by decide⟩

theorem includes_indexedText (plain : includes ":nth-match(" base = false) :
    includes ":nth-match(" (indexedText base numeral after) = true := by
  have front : breakAt nthMark base.toList = none := breakAt_eq_none_iff.1 plain
  have whole : (breakAt nthMark (indexedText base numeral after).toList).isSome = true := by
    obtain ⟨tail, form, once⟩ := nthMark_form
    rw [indexedText_toList]
    rw [form] at front ⊢
    rw [breakAt_append once _ front]
    rfl
  exact whole

theorem splitNth_indexedText (filled : base ≠ "") (plain : includes ":nth-match(" base = false)
    (written : numeral ≠ "") (digits : ∀ letter ∈ numeral.toList, isDigit letter = true) :
    splitNth (indexedText base numeral after) =
      some ⟨base, numeral.toList.filterMap digit?, after⟩ := by
  have front : breakAt nthMark base.toList = none := breakAt_eq_none_iff.1 plain
  have filled : base.toList ≠ [] := by simpa using filled
  obtain ⟨tail, form, once⟩ := nthMark_form
  rw [splitNth, indexedText_toList]
  rw [form] at front ⊢
  rw [firstAfterStart_append once filled front, readDigits_numeral written digits]
  simp

/-! A sign in front of the digits. -/

theorem signed_toList (numeral : String) : ("-" ++ numeral).toList = '-' :: numeral.toList := by
  simp

theorem splitNth_signed (filled : base ≠ "") (plain : includes ":nth-match(" base = false)
    (digits : ∀ letter ∈ numeral.toList, isDigit letter = true)
    (after_plain : includes ":nth-match(" after = false) :
    splitNth (indexedText base ("-" ++ numeral) after) = none := by
  have front : breakAt nthMark base.toList = none := breakAt_eq_none_iff.1 plain
  have behind : breakAt nthMark after.toList = none := breakAt_eq_none_iff.1 after_plain
  have filled : base.toList ≠ [] := by simpa using filled
  obtain ⟨tail, form, once⟩ := nthMark_form
  rw [splitNth, indexedText_toList, signed_toList]
  rw [form] at front behind ⊢
  have rest : breakAt (':' :: tail) ('-' :: numeral.toList ++ ')' :: after.toList) = none := by
    apply breakAt_append_left_eq_none
    · simp [colon_not_mem digits]
    · exact breakAt_cons_eq_none (by decide) behind
  rw [firstAfterStart_once once filled front rest]
  rfl

theorem anyIndex_signed {front : List Char} (absent : breakAt nthMark front = none)
    (written : numeral ≠ "") (digits : ∀ letter ∈ numeral.toList, isDigit letter = true) :
    anyIndex (front ++ (nthMark ++ ('-' :: numeral.toList ++ ')' :: rest))) =
      some (true, numeral.toList.filterMap digit?) := by
  obtain ⟨tail, form, once⟩ := nthMark_form
  induction front with
  | nil =>
      generalize reads : '-' :: numeral.toList ++ ')' :: rest = text
      have split : nthMark ++ text = ':' :: (tail ++ text) := by rw [form, List.cons_append]
      have starts : nthMark.isPrefixOf (':' :: (tail ++ text)) := by simp [← split]
      have behind : (':' :: (tail ++ text)).drop nthMark.length = text := by
        rw [← split, List.drop_left]
      rw [List.nil_append, split]
      unfold anyIndex
      rw [if_pos starts, behind, ← reads]
      simp [readDigits_numeral written digits]
  | cons letter front ih =>
      have elsewhere :
          ¬nthMark.isPrefixOf
            (letter :: front ++ (nthMark ++ ('-' :: numeral.toList ++ ')' :: rest))) := by
        rw [form] at absent ⊢
        exact not_prefix_before once (by simp) absent
      have later : breakAt nthMark front = none := by
        rw [form] at absent ⊢
        exact breakAt_tail_eq_none absent
      rw [List.cons_append] at elsewhere ⊢
      unfold anyIndex
      rw [if_neg elsewhere]
      exact ih later

theorem nthRefusal_signed (plain : includes ":nth-match(" base = false)
    (written : numeral ≠ "") (digits : ∀ letter ∈ numeral.toList, isDigit letter = true) :
    nthRefusal (indexedText base ("-" ++ numeral) after) =
      if numeral.length > Decimal.digitLimit then .error else .invalidIndex := by
  have found : anyIndex (indexedText base ("-" ++ numeral) after).toList =
      some (true, numeral.toList.filterMap digit?) := by
    rw [indexedText_toList, signed_toList]
    exact anyIndex_signed (breakAt_eq_none_iff.1 plain) written digits
  rw [nthRefusal, found]
  dsimp only
  rw [indexOf, length_digits digits]
  by_cases long : numeral.length > Decimal.digitLimit <;> simp [long]

end Reading

section Falling

variable {base numeral after : String} {index number : Nat} {root : Option Element}

theorem Numeral.indexOf_eq (numeral_number : Numeral numeral number) :
    indexOf (numeral.toList.filterMap digit?) = some number := by
  rw [indexOf, length_digits numeral_number.digits,
    if_neg (Nat.not_lt.2 numeral_number.short), numeral_number.value]

theorem fallbackFor_indexedText (filled : base ≠ "")
    (plain : includes ":nth-match(" base = false) (written : Numeral numeral number) :
    resolve.fallbackFor (indexedText base numeral after) root =
      if number = 0 then pure (nothing (indexedText base numeral after) .invalidIndex)
      else guarded (indexedText base numeral after) .errorInNth
        (resolve base root >>= fun matched =>
          pickNth (indexedText base numeral after) base after number matched.elements) := by
  rw [fallbackFor_eq, fallbackWith, if_pos (includes_indexedText plain),
    splitNth_indexedText filled plain written.filled written.digits]
  dsimp only
  rw [written.indexOf_eq]
  cases number <;> rfl

theorem fallbackFor_signed (filled : base ≠ "") (plain : includes ":nth-match(" base = false)
    (written : numeral ≠ "") (digits : ∀ letter ∈ numeral.toList, isDigit letter = true)
    (after_plain : includes ":nth-match(" after = false) :
    resolve.fallbackFor (indexedText base ("-" ++ numeral) after) root =
      pure (nothing (indexedText base ("-" ++ numeral) after)
        (if numeral.length > Decimal.digitLimit then .error else .invalidIndex)) := by
  rw [fallbackFor_eq, fallbackWith, if_pos (includes_indexedText plain),
    splitNth_signed filled plain digits after_plain]
  dsimp only
  rw [nthRefusal_signed plain written digits]

theorem refused_of_held {selector : String} {mark : Mark}
    (refuses : resolve.fallbackFor selector root = pure (nothing selector mark))
    {start ending : Records} {reply : Except Fault (List Element)} {rest : List Turn}
    {result : Except Fault Resolution} (declines : Declines selector reply)
    (held : (resolve selector root).Held start (⟨.page (.query selector root), reply⟩ :: rest)
      ending result) :
    rest = [] ∧ result = .ok (nothing selector mark) := by
  obtain ⟨-, _, rfl, falls⟩ := falls_of_held declines held
  rw [refuses] at falls
  obtain ⟨rfl, -, same⟩ := held_pure.1 falls
  exact ⟨rfl, same⟩

end Falling

/-! What is chosen. -/

/-- The indexed one of the matches is chosen, if there are so many. A trailing part is looked for
inside it, and if the page refuses the trailing part, it is passed over. -/
structure Chosen (matched : List Element) (index : Nat) (trailing : String) (turns : List Turn)
    (elements : List Element) : Prop where
  beyond : matched.length < index → turns = [] ∧ elements = []
  itself : trailing = "" → turns = [] ∧ elements = matched[index - 1]?.toList
  within : ∀ target, matched[index - 1]? = some target → trailing ≠ "" →
    ∃ answer, turns = [⟨.page (.query trailing (some target)), answer⟩] ∧
      (∀ found, answer = .ok found → elements = found) ∧
      ∀ fault, answer = .error fault → elements = if fault.isSelectorSyntax then [target] else []

section Choosing

variable {selector tail base numeral after : String} {index : Nat} {matched : List Element}
  {turns : List Turn} {root : Option Element}

theorem not_beyond {target : Element} (chosen : matched[index - 1]? = some target)
    (positive : 0 < index) : ¬matched.length < index := by
  obtain ⟨inside, -⟩ := List.getElem?_eq_some_iff.1 chosen
  omega

theorem Picked.chosen {resolution : Resolution} (positive : 0 < index)
    (picks : Picked selector tail index matched turns (.ok resolution)) :
    Chosen matched index (trim tail) turns resolution.elements := by
  cases picks with
  | missed few =>
      refine ⟨fun _ => ⟨rfl, rfl⟩, fun _ => ⟨rfl, by rw [few]; rfl⟩, fun target chosen => ?_⟩
      rw [few] at chosen
      cases chosen
  | itself chosen blank =>
      exact ⟨fun few => absurd few (not_beyond chosen positive),
        fun _ => ⟨rfl, by rw [chosen]; rfl⟩, fun _ _ trailing => absurd blank trailing⟩
  | within chosen trailing =>
      refine ⟨fun few => absurd few (not_beyond chosen positive),
        fun blank => absurd blank trailing, fun target same _ => ?_⟩
      obtain rfl := Option.some.inj (chosen.symm.trans same)
      refine ⟨_, rfl, fun found answered => Except.ok.inj answered, fun _ failed => ?_⟩
      cases failed
  | instead chosen trailing refused =>
      refine ⟨fun few => absurd few (not_beyond chosen positive),
        fun blank => absurd blank trailing, fun target same _ => ?_⟩
      obtain rfl := Option.some.inj (chosen.symm.trans same)
      refine ⟨_, rfl, fun _ answered => ?_, fun _ failed => ?_⟩
      · cases answered
      · cases failed
        exact (if_pos refused).symm

theorem Picked.chosen_none {fault : Fault} (positive : 0 < index)
    (picks : Picked selector tail index matched turns (.error fault)) :
    Chosen matched index (trim tail) turns [] := by
  cases picks with
  | broken chosen trailing other =>
      refine ⟨fun few => absurd few (not_beyond chosen positive),
        fun blank => absurd blank trailing, fun target same _ => ?_⟩
      obtain rfl := Option.some.inj (chosen.symm.trans same)
      refine ⟨_, rfl, fun _ answered => ?_, fun _ failed => ?_⟩
      · cases answered
      · cases failed
        simp [other]

theorem chosen_of_held (filled : base ≠ "") (plain : includes ":nth-match(" base = false)
    (written : Numeral numeral index) (positive : 0 < index) {start ending : Records}
    {reply : Except Fault (List Element)} {rest : List Turn} {result : Except Fault Resolution}
    (declines : Declines (indexedText base numeral after) reply)
    (held : (resolve (indexedText base numeral after) root).Held start
      (⟨.page (.query (indexedText base numeral after) root), reply⟩ :: rest) ending result) :
    ∃ matched searching last resolution, rest = searching ++ last ∧
      (resolve base root).Held start searching start (.ok matched) ∧ result = .ok resolution ∧
      Chosen matched.elements index (trim after) last resolution.elements := by
  obtain ⟨-, resolution, rfl, falls⟩ := falls_of_held declines held
  rw [fallbackFor_indexedText filled plain written, if_neg (Nat.ne_of_gt positive)] at falls
  obtain ⟨matched, first, second, rfl, resolves, ⟨_, same, picks⟩ | ⟨_, same, picks⟩⟩ :=
    @indexed_of_held _ _ _ _ _ ⟨base, [], after⟩ _ _ falls
  · cases same
    exact ⟨matched, first, second, resolution, rfl, resolves, rfl, picks.chosen positive⟩
  · cases same
    exact ⟨matched, first, second, _, rfl, resolves, rfl, picks.chosen_none positive⟩

end Choosing

end Selector

/-- What a selector is resolved to on a page that always answers alike. -/
def Scene.finds (scene : Scene) (selector : String) (root : Option Element) (records : Records) :
    List Element :=
  match (scene.outcome (Selector.resolve selector root) records).1 with
  | .ok resolution => resolution.elements
  | .error _ => []

namespace Selector

open Run Resolution Text

theorem finds_of_held {scene : Scene} {selector : String} {root : Option Element}
    {before after : Records} {trace : List Turn} {resolution : Resolution}
    (held : (resolve selector root).Held before trace after (.ok resolution))
    (given : ∀ turn ∈ trace, scene.Gave turn) :
    scene.finds selector root before = resolution.elements := by
  rw [Scene.finds, Scene.outcome_of_held held given]

theorem finds_indexedText {scene : Scene} {base numeral : String} {index : Nat}
    {root : Option Element} (filled : base ≠ "") (plain : includes ":nth-match(" base = false)
    (written : Numeral numeral index) (positive : 0 < index)
    (declines : Declines (indexedText base numeral "")
      (scene.page (.query (indexedText base numeral "") root))) (records : Records) :
    scene.finds (indexedText base numeral "") root records =
      (scene.finds base root records)[index - 1]?.toList := by
  obtain ⟨rest, held, known⟩ := held_of_scene scene (indexedText base numeral "") root records
  obtain ⟨matched, searching, last, resolution, rfl, resolves, same, chosen⟩ :=
    chosen_of_held filled plain written positive declines held
  rw [finds_of_held resolves (List.forall_mem_append.1 known).1, Scene.finds, same]
  exact (chosen.itself (by decide)).2

theorem flatMap_range'_getElem? {α : Type} (items : List α) :
    (List.range' 1 items.length).flatMap (fun index => items[index - 1]?.toList) = items := by
  rw [← List.map_add_range' (a := 1) 0, List.flatMap_map]
  simp only [Nat.add_sub_cancel_left]
  rw [← List.filterMap_eq_flatMap_toList]
  exact filterMap_getElem?_range' [] items

end Selector

open Selector in
/-- An indexed match behind a base without one, on a page that does not take it. For an index of one
or more the base is resolved first, by whichever means, and its indexed match is what is found, or
nothing if there are not so many; a trailing part is looked for inside the match, but passed over if
the page refuses it. So the matches of the base are found again, one by one. An index of zero, and
one with a sign unless another indexed match follows, is refused. All this is so for an index that
has at most as many digits as can be read. -/
theorem nth_match_indexes_base {base : String} (filled : base ≠ "")
    (plain : Text.includes ":nth-match(" base = false) (root : Option Element) :
    (∀ numeral index after, Numeral numeral index → 0 < index →
      ∀ start reply rest ending result, Declines (indexedText base numeral after) reply →
        (resolve (indexedText base numeral after) root).Held start
          (⟨.page (.query (indexedText base numeral after) root), reply⟩ :: rest) ending result →
        ∃ matched searching last resolution, rest = searching ++ last ∧
          (resolve base root).Held start searching start (.ok matched) ∧
          result = .ok resolution ∧
          Chosen matched.elements index (Text.trim after) last resolution.elements) ∧
    (∀ (scene : Scene) (records : Records) (numeral : Nat → String),
      (∀ index, 0 < index → index ≤ (scene.finds base root records).length →
        Numeral (numeral index) index ∧ Declines (indexedText base (numeral index) "")
          (scene.page (.query (indexedText base (numeral index) "") root))) →
      ((List.range' 1 (scene.finds base root records).length).flatMap fun index =>
        scene.finds (indexedText base (numeral index) "") root records) =
          scene.finds base root records) ∧
    ∀ sign numeral number after, Numeral numeral number →
      (sign = "" ∧ number = 0 ∨ sign = "-" ∧ Text.includes ":nth-match(" after = false) →
      ∀ start reply rest ending result,
        Declines (indexedText base (sign ++ numeral) after) reply →
        (resolve (indexedText base (sign ++ numeral) after) root).Held start
          (⟨.page (.query (indexedText base (sign ++ numeral) after) root), reply⟩ :: rest) ending
          result →
        rest = [] ∧ result = .ok (.nothing (indexedText base (sign ++ numeral) after)
          .invalidIndex) := by
  refine ⟨?chosen, ?concatenated, ?refused⟩
  case chosen =>
    intro numeral index after written positive start reply rest ending result declines held
    exact chosen_of_held filled plain written positive declines held
  case concatenated =>
    intro scene records numeral each
    have again := flatMap_range'_getElem? (scene.finds base root records)
    refine Eq.trans ?_ again
    apply List.flatMap_congr
    intro index member
    obtain ⟨positive, inside⟩ := List.mem_range'_1.1 member
    obtain ⟨written, declines⟩ := each index positive (by omega)
    exact finds_indexedText filled plain written positive declines records
  case refused =>
    rintro sign numeral number after written (⟨rfl, rfl⟩ | ⟨rfl, after_plain⟩) start reply rest
      ending result declines held
    · rw [String.empty_append] at declines held ⊢
      refine refused_of_held ?_ declines held
      rw [fallbackFor_indexedText filled plain written, if_pos rfl]
    · refine refused_of_held ?_ declines held
      rw [fallbackFor_signed filled plain written.filled written.digits after_plain,
        if_neg (Nat.not_lt.2 written.short)]

theorem numeral_two : Selector.Numeral "2" 2 where
  filled := by decide
  digits := List.all_iff_forall_prop.1 (by decide)
  short := by decide
  value := by decide

theorem numeral_one : Selector.Numeral "1" 1 where
  filled := by decide
  digits := List.all_iff_forall_prop.1 (by decide)
  short := by decide
  value := by decide

open Selector in
/-- The paragraph in the second container; the containers one by one; and an index below one. -/
theorem nest_indexed :
    (∃ rest resolution, (resolve (indexedText "div" "2" " p") none).Held ⟨[], []⟩ rest ⟨[], []⟩
        (.ok resolution) ∧
      resolution.elements = [4]) ∧
    ((List.range' 1 (nest.scene.finds "div" none ⟨[], []⟩).length).flatMap fun index =>
      nest.scene.finds (indexedText "div" (toString index) "") none ⟨[], []⟩) = [1, 3] ∧
    ∃ trace, (resolve (indexedText "div" ("-" ++ "1") "") none).Held ⟨[], []⟩ trace ⟨[], []⟩
      (.ok (.nothing (indexedText "div" ("-" ++ "1") "") .invalidIndex)) := by
  obtain ⟨chosen, concatenated, refused⟩ :=
    @nth_match_indexes_base "div" (by decide) (by decide) none
  have found : nest.scene.finds "div" none ⟨[], []⟩ = [1, 3] := by
    rw [Scene.finds, resolve]
    rfl
  refine ⟨?_, ?_, ?_⟩
  · obtain ⟨rest, held, known⟩ :=
      held_of_scene nest.scene (indexedText "div" "2" " p") none ⟨[], []⟩
    obtain ⟨matched, searching, last, resolution, rfl, resolves, same, picks⟩ :=
      chosen _ 2 _ numeral_two (by decide) _ _ _ _ _ (by rfl) held
    obtain ⟨known_first, known_last⟩ := List.forall_mem_append.1 known
    rw [finds_of_held resolves known_first] at found
    rw [found] at picks
    obtain ⟨answer, rfl, answered, -⟩ := picks.within 3 rfl (by decide)
    rw [same] at held
    refine ⟨_, resolution, held, ?_⟩
    have told := Landscape.reply_of_gave (known_last _ List.mem_cons_self)
    exact answered _ told
  · have each : ∀ index, 0 < index → index ≤ (nest.scene.finds "div" none ⟨[], []⟩).length →
        Numeral (toString index) index ∧ Declines (indexedText "div" (toString index) "")
          (nest.scene.page (.query (indexedText "div" (toString index) "") none)) := by
      rw [found]
      intro index positive inside
      obtain rfl | rfl : index = 1 ∨ index = 2 := by
        have below : index ≤ 2 := inside
        omega
      · exact ⟨numeral_one, rfl⟩
      · exact ⟨numeral_two, rfl⟩
    rw [concatenated nest.scene ⟨[], []⟩ toString each, found]
  · obtain ⟨rest, held, -⟩ :=
      held_of_scene nest.scene (indexedText "div" ("-" ++ "1") "") none ⟨[], []⟩
    obtain ⟨rfl, same⟩ := refused "-" "1" 1 "" numeral_one (.inr ⟨rfl, by decide⟩) _ _ _ _ _
      (by rfl) held
    rw [same] at held
    exact ⟨_, held⟩

def manyOnes : String :=
  String.ofList (List.replicate (Decimal.digitLimit + 1) '1')

theorem length_manyOnes : manyOnes.length = Decimal.digitLimit + 1 := by
  rw [manyOnes, String.length_ofList, List.length_replicate]

theorem digits_manyOnes : ∀ letter ∈ manyOnes.toList, Text.isDigit letter = true := by
  rw [manyOnes, String.toList_ofList]
  intro letter member
  rw [List.eq_of_mem_replicate member]
  decide

theorem manyOnes_ne_empty : manyOnes ≠ "" := by
  intro same
  have length := length_manyOnes
  rw [same] at length
  cases length

theorem monolith_refuses {selector : String} (other : selector ≠ "a") {root : Option Element} :
    Selector.monolith.page (.query selector root) =
      .error (.guide (.selectorSyntax selector "unknown")) := by
  simp [Selector.monolith]

open Selector in
/-- An index far below zero is not refused for being below one, because it is never read. -/
theorem monolith_index_unread :
    ∃ reply rest, Declines (indexedText "a" ("-" ++ manyOnes) "") reply ∧
      (resolve (indexedText "a" ("-" ++ manyOnes) "") none).Held ⟨[], []⟩
        (⟨.page (.query (indexedText "a" ("-" ++ manyOnes) "") none), reply⟩ :: rest) ⟨[], []⟩
        (.ok (.nothing (indexedText "a" ("-" ++ manyOnes) "") .error)) ∧
      Resolution.Mark.error.name ≠ Resolution.Mark.invalidIndex.name := by
  have refused : Declines (indexedText "a" ("-" ++ manyOnes) "")
      (monolith.page (.query (indexedText "a" ("-" ++ manyOnes) "") none)) := by
    rw [monolith_refuses indexedText_ne_base]
    rfl
  obtain ⟨rest, held, -⟩ :=
    held_of_scene monolith (indexedText "a" ("-" ++ manyOnes) "") none ⟨[], []⟩
  have unread : resolve.fallbackFor (indexedText "a" ("-" ++ manyOnes) "") none =
      pure (.nothing (indexedText "a" ("-" ++ manyOnes) "") .error) := by
    rw [fallbackFor_signed (by decide) (by decide) manyOnes_ne_empty digits_manyOnes (by decide),
      length_manyOnes, if_pos (Nat.lt_succ_self _)]
  obtain ⟨rfl, same⟩ := refused_of_held unread refused held
  rw [same] at held
  exact ⟨_, _, refused, held, by decide⟩

end Walkthrough
