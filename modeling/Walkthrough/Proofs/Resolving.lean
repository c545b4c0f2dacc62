import Walkthrough.Proofs.Inspection
/-!
How a selector is resolved. The page is asked for the whole selector first, and its answer is final
unless it refuses the selector, or finds nothing for one with a custom pseudo-class. Only then the
selector is taken apart, in one of a few ways, and whatever fails on the way ends in a mark without
elements. An indexed match resolves its base by the same means, but the base is the text in front of
the first indexed match, so it has none of its own.
Main statement: `resolve_authoritative`.
-/

namespace Walkthrough

namespace Selector

open Run Resolution Text

variable {before after : Records} {trace : List Turn} {selector : String} {root : Option Element}

/-! The first indexed match. -/

def Reads {α : Type} (read : List Char → Option α) : Prop :=
  ∀ ⦃text found⦄, read text = some found → ∀ more, (read (text ++ more)).isSome = true

theorem firstAfterStart_before_prefix {α : Type} {mark : List Char} {read : List Char → Option α}
    {text front : List Char} {found : α}
    (split : firstAfterStart mark read text = some (front, found)) : front <+: text := by
  induction text generalizing front found with
  | nil => simp [firstAfterStart] at split
  | cons letter rest ih =>
      unfold firstAfterStart at split
      split at split
      · simp only [Option.some.injEq, Prod.mk.injEq] at split
        rw [← split.1]
        exact ⟨rest, rfl⟩
      · obtain ⟨⟨inner, value⟩, later, same⟩ := Option.map_eq_some_iff.1 split
        obtain ⟨rfl, rfl⟩ := Prod.mk.inj same
        exact (List.cons_prefix_cons).2 ⟨rfl, ih later⟩

theorem match_append {α : Type} {mark : List Char} {read : List Char → Option α} (reads : Reads read)
    {text : List Char} {found : α}
    (here : (if mark.isPrefixOf text then read (text.drop mark.length) else none) = some found)
    (more : List Char) :
    (if mark.isPrefixOf (text ++ more) then read ((text ++ more).drop mark.length)
      else none).isSome = true := by
  split at here
  · next starts =>
      obtain ⟨tail, rfl⟩ := List.isPrefixOf_iff_prefix.1 starts
      rw [List.drop_left] at here
      have longer := reads here more
      simpa using longer
  · cases here

theorem firstAfterStart_before {α : Type} {mark : List Char} {read : List Char → Option α}
    (marked : mark ≠ []) (reads : Reads read) {text front : List Char} {found : α}
    (split : firstAfterStart mark read text = some (front, found)) :
    firstAfterStart mark read front = none := by
  induction text generalizing front found with
  | nil => simp [firstAfterStart] at split
  | cons letter rest ih =>
      unfold firstAfterStart at split
      split at split
      · obtain ⟨rfl, -⟩ : [letter] = front ∧ _ := by simpa using split
        simp [firstAfterStart, marked]
      · next absent =>
          obtain ⟨⟨inner, value⟩, later, same⟩ := Option.map_eq_some_iff.1 split
          obtain ⟨rfl, rfl⟩ := Prod.mk.inj same
          obtain ⟨more, rfl⟩ := firstAfterStart_before_prefix later
          unfold firstAfterStart
          split
          · next here =>
              have whole := match_append reads here more
              rw [absent] at whole
              cases whole
          · rw [ih later]
            rfl

theorem takeWhile_append_stop {α : Type} {wanted : α → Bool} {front rest : List α} {stop : α}
    (all : ∀ item ∈ front, wanted item = true) (stops : wanted stop = false) :
    (front ++ stop :: rest).takeWhile wanted = front := by
  rw [List.takeWhile_append_of_pos all, List.takeWhile_cons_of_neg (by simp [stops]),
    List.append_nil]

theorem reads_readDigits : Reads readDigits := by
  intro text found read more
  have parts := List.prefix_iff_eq_append.1 (List.takeWhile_prefix isDigit (l := text))
  have digits : ∀ letter ∈ text.takeWhile isDigit, isDigit letter = true :=
    List.all_eq_true.1 List.all_takeWhile
  unfold readDigits at read
  dsimp only at read
  generalize text.takeWhile isDigit = letters at parts digits read
  split at read
  · next tail closes =>
      rw [closes] at parts
      have same : (text ++ more).takeWhile isDigit = letters := by
        rw [← parts, List.append_assoc, List.cons_append]
        exact takeWhile_append_stop digits (by decide)
      have rest : (text ++ more).drop letters.length = ')' :: (tail ++ more) := by
        rw [← parts, List.append_assoc, List.drop_left, List.cons_append]
      unfold readDigits
      rw [same]
      dsimp only
      rw [rest]
      split at read
      · cases read
      · next some_digit => simp [some_digit]
  · cases read

theorem splitNth_base {parts : NthParts} (split : splitNth selector = some parts) :
    splitNth parts.base = none := by
  obtain ⟨⟨front, found⟩, inner, rfl⟩ := Option.map_eq_some_iff.1 split
  have none_before := firstAfterStart_before (by decide) reads_readDigits inner
  simp [splitNth, none_before]

/-! Nested resolutions. -/

def fallbackWith (nested : String → Option Element → Run Resolution) (selector : String)
    (root : Option Element) : Run Resolution :=
  if includes ":nth-match(" selector then
    match splitNth selector with
    | none => pure (nothing selector (nthRefusal selector))
    | some parts =>
        match indexOf parts.digits with
        | none => pure (nothing selector .error)
        | some 0 => pure (nothing selector .invalidIndex)
        | some (index + 1) =>
            guarded selector .errorInNth do
              let matched ← nested parts.base root
              pickNth selector parts.base parts.after (index + 1) matched.elements
  else if usesMark ":has(" selector then resolveHas selector root
  else if usesMark ":contains(" selector && !includes ":has(" selector then
    resolveContains selector root
  else if includes ":text(" selector then resolveText selector root
  else pure (nothing selector .unsupported)

def resolveWith (nested : String → Option Element → Run Resolution) (selector : String)
    (root : Option Element) : Run Resolution :=
  tryCatch
    (do
      let found ← unlessRefused (some <$> query selector root) (pure none)
      match found with
      | some (first :: rest) => return native selector (first :: rest)
      | some [] => if hasCustomMark selector then fallbackWith nested selector root
                   else return native selector []
      | none => fallbackWith nested selector root)
    fun _ => pure (nothing selector .error)

theorem fallbackFor_eq (selector : String) (root : Option Element) :
    resolve.fallbackFor selector root = fallbackWith resolve selector root := by
  rw [resolve.fallbackFor, fallbackWith]
  split
  · split
    · next split =>
        rewrite [split]
        rfl
    · next parts split =>
        rewrite [split]
        rfl
  · rfl

theorem resolve_eq (selector : String) (root : Option Element) :
    resolve selector root = resolveWith resolve selector root := by
  rewrite [resolve, resolveWith, fallbackFor_eq]
  rfl

/-- The nested resolution matters at the base of the first indexed match only. -/
theorem resolveWith_congr {nested other : String → Option Element → Run Resolution}
    (same : ∀ parts, splitNth selector = some parts →
      nested parts.base root = other parts.base root) :
    resolveWith nested selector root = resolveWith other selector root := by
  have fallbacks : fallbackWith nested selector root = fallbackWith other selector root := by
    unfold fallbackWith
    cases split : splitNth selector with
    | none => rfl
    | some parts =>
        dsimp only
        rw [same parts split]
  unfold resolveWith
  rw [fallbacks]

/-- One resolution inside another one is all there ever is. -/
theorem resolve_nests_once (unresolved : String → Option Element → Run Resolution) :
    resolve selector root = resolveWith (resolveWith unresolved) selector root := by
  rw [resolve_eq]
  apply resolveWith_congr
  intro parts split
  rw [resolve_eq]
  apply resolveWith_congr
  -- the base would have to be split at an indexed match again
  intro inner_parts inner_split
  rw [splitNth_base split] at inner_split
  cases inner_split

/-! What a resolution comes from. -/

theorem held_guarded {mark : Mark} {attempt : Run Resolution}
    {result : Except Fault Resolution} :
    (guarded selector mark attempt).Held before trace after result ↔
      (∃ resolution, attempt.Held before trace after (.ok resolution) ∧ result = .ok resolution) ∨
      ∃ fault, attempt.Held before trace after (.error fault) ∧
        result = .ok (nothing selector mark) := by
  unfold guarded
  rw [held_tryCatch]
  constructor
  · rintro (succeeds | ⟨fault, first, middle, second, failed, rescued, rfl⟩)
    · exact .inl succeeds
    · obtain ⟨rfl, rfl, rfl⟩ := held_pure.1 rescued
      exact .inr ⟨fault, by rwa [List.append_nil], rfl⟩
  · rintro (succeeds | ⟨fault, failed, rfl⟩)
    · exact .inl succeeds
    · exact .inr ⟨fault, trace, after, [], failed, held_pure.2 ⟨rfl, rfl, rfl⟩, by simp⟩

theorem held_unlessRefused {α : Type} {attempt otherwise : Run α} {result : Except Fault α} :
    (unlessRefused attempt otherwise).Held before trace after result ↔
      (∃ value, attempt.Held before trace after (.ok value) ∧ result = .ok value) ∨
      (∃ fault first middle second, fault.isSelectorSyntax = true ∧
        attempt.Held before first middle (.error fault) ∧
        otherwise.Held middle second after result ∧ trace = first ++ second) ∨
      ∃ fault, fault.isSelectorSyntax = false ∧ attempt.Held before trace after (.error fault) ∧
        result = .error fault := by
  unfold unlessRefused
  rw [held_tryCatch]
  constructor
  · rintro (succeeds | ⟨fault, first, middle, second, failed, rescued, rfl⟩)
    · exact .inl succeeds
    · split at rescued
      · next refused => exact .inr (.inl ⟨fault, first, middle, second, refused, failed, rescued, rfl⟩)
      · next other =>
          obtain ⟨rfl, rfl, rfl⟩ := held_throw.1 rescued
          exact .inr (.inr ⟨fault, by simpa using other, by rwa [List.append_nil], rfl⟩)
  · rintro (succeeds | ⟨fault, first, middle, second, refused, failed, rescued, rfl⟩ |
      ⟨fault, other, failed, rfl⟩)
    · exact .inl succeeds
    · exact .inr ⟨fault, first, middle, second, failed, by rwa [if_pos refused], rfl⟩
    · refine .inr ⟨fault, trace, after, [], failed, ?_, by simp⟩
      rw [if_neg (by simp [other])]
      exact held_throw.2 ⟨rfl, rfl, rfl⟩

theorem held_query_bind {α : Type} {next : List Element → Run α} {result : Except Fault α} :
    (query selector root >>= next).Held before trace after result ↔
      (∃ found rest, (next found).Held before rest after result ∧
        trace = ⟨.page (.query selector root), .ok found⟩ :: rest) ∨
      ∃ fault, trace = [⟨.page (.query selector root), .error fault⟩] ∧ after = before ∧
        result = .error fault := by
  rw [held_bind]
  constructor
  · rintro (⟨found, _, _, rest, asked, tail, rfl⟩ | ⟨fault, failed, rfl⟩)
    · obtain ⟨rfl, rfl⟩ := held_page.1 asked
      exact .inl ⟨found, rest, tail, rfl⟩
    · obtain ⟨rfl, rfl⟩ := held_page.1 failed
      exact .inr ⟨fault, rfl, rfl, rfl⟩
  · rintro (⟨found, rest, tail, rfl⟩ | ⟨fault, rfl, rfl, rfl⟩)
    · exact .inl ⟨found, [_], before, rest, held_page.2 ⟨rfl, rfl⟩, tail, rfl⟩
    · exact .inr ⟨fault, held_page.2 ⟨rfl, rfl⟩, rfl⟩

/-- The matches of the base were found. The indexed one of them is taken, or what matches the
trailing part inside it; only a query for the trailing part can fail. -/
inductive Picked (selector tail : String) (index : Nat) (matched : List Element) :
    List Turn → Except Fault Resolution → Prop where
  | missed {effective} (few : matched[index - 1]? = none) (noted : ' ' ∈ effective.toList) :
      Picked selector tail index matched [] (.ok (fallback selector [] effective))
  | itself {target effective} (chosen : matched[index - 1]? = some target)
      (blank : trim tail = "") (noted : ' ' ∈ effective.toList) :
      Picked selector tail index matched [] (.ok (fallback selector [target] effective))
  | within {target found effective} (chosen : matched[index - 1]? = some target)
      (trailing : trim tail ≠ "") (noted : ' ' ∈ effective.toList) :
      Picked selector tail index matched
        [⟨.page (.query (trim tail) (some target)), .ok found⟩]
        (.ok (fallback selector found effective))
  | instead {target fault effective} (chosen : matched[index - 1]? = some target)
      (trailing : trim tail ≠ "") (refused : fault.isSelectorSyntax = true)
      (noted : ' ' ∈ effective.toList) :
      Picked selector tail index matched
        [⟨.page (.query (trim tail) (some target)), .error fault⟩]
        (.ok (fallback selector [target] effective))
  | broken {target fault} (chosen : matched[index - 1]? = some target)
      (trailing : trim tail ≠ "") (other : fault.isSelectorSyntax = false) :
      Picked selector tail index matched
        [⟨.page (.query (trim tail) (some target)), .error fault⟩] (.error fault)

/-- How a selector that is taken apart comes to its elements: by none at all, by going through the
matches of its base, by looking into them, or by taking one of them. -/
inductive Piecewise (records : Records) (root : Option Element) (selector : String) :
    List Turn → Resolution → Prop where
  | marked {turns} (mark : Mark) : Piecewise records root selector turns (nothing selector mark)
  | sifted {base check candidates turns elements effective}
      (sifts : (filterRun check candidates).Held records turns records (.ok elements))
      (noted : ' ' ∈ effective.toList) :
      Piecewise records root selector (⟨.page (.query base root), .ok candidates⟩ :: turns)
        (fallback selector elements effective)
  | having {parts containers turns elements} (split : splitHas selector = some parts)
      (collects : (collectRun (qualified parts) containers).Held records turns records
        (.ok elements)) :
      Piecewise records root selector (⟨.page (.query parts.base root), .ok containers⟩ :: turns)
        (fallback selector elements (parts.base ++ " (has descendant: " ++ parts.inner ++ ")"))
  | indexed {parts index matched first second resolution} (split : splitNth selector = some parts)
      (resolves : (resolve parts.base root).Held records first records (.ok matched))
      (picks : Picked selector parts.after index matched.elements second (.ok resolution)) :
      Piecewise records root selector (first ++ second) resolution

/-- The page leaves a selector to the fallback if it refuses it, or finds nothing for one with a
custom pseudo-class. -/
def Declines (selector : String) : Except Fault (List Element) → Prop
  | .ok found => found = [] ∧ hasCustomMark selector = true
  | .error fault => fault.isSelectorSyntax = true

/-- How any selector comes to its elements. -/
inductive Resolved (records : Records) (root : Option Element) (selector : String) :
    List Turn → Resolution → Prop where
  | native {found} (accepted : found ≠ [] ∨ hasCustomMark selector = false) :
      Resolved records root selector [⟨.page (.query selector root), .ok found⟩]
        (native selector found)
  | broken {fault} (other : fault.isSelectorSyntax = false) :
      Resolved records root selector [⟨.page (.query selector root), .error fault⟩]
        (nothing selector .error)
  | piecewise {reply turns resolution} (declines : Declines selector reply)
      (falls : (resolve.fallbackFor selector root).Held records turns records (.ok resolution)) :
      Resolved records root selector (⟨.page (.query selector root), reply⟩ :: turns) resolution

theorem picked_of_held {base tail : String} {index : Nat} {matched : List Element}
    {result : Except Fault Resolution}
    (held : (pickNth selector base tail index matched).Held before trace after result) :
    Picked selector tail index matched trace result := by
  unfold pickNth at held
  split at held
  · next few =>
      obtain ⟨rfl, -, rfl⟩ := held_pure.1 held
      exact .missed few (by simp [toString])
  · next target chosen =>
      dsimp only at held
      split at held
      · next blank =>
          obtain ⟨rfl, -, rfl⟩ := held_pure.1 held
          exact .itself chosen blank (by simp)
      next trailing =>
      have failed {middle : Records} {fault : Fault} {turns : List Turn}
          (asked : (query (trim tail) (some target) >>= fun found => pure (fallback selector found
            (base ++ " (" ++ toString index ++ "th match)" ++ " " ++ trim tail))).Held before
              turns middle (.error fault)) :
          turns = [⟨.page (.query (trim tail) (some target)), .error fault⟩] :=
        (held_page.1 (held_bind_pure_error.1 asked)).1
      -- found, refused, or failed otherwise
      rcases held_unlessRefused.1 held with
        ⟨_, asked, rfl⟩ | ⟨fault, _, _, _, refused, asked, passed, rfl⟩ | ⟨fault, other, asked, rfl⟩
      · obtain ⟨found, answered, rfl⟩ := held_bind_pure_ok.1 asked
        obtain ⟨rfl, -⟩ := held_page.1 answered
        exact .within chosen trailing (by simp)
      · obtain rfl := failed asked
        obtain ⟨rfl, -, rfl⟩ := held_pure.1 passed
        exact .instead chosen trailing refused (by simp)
      · obtain rfl := failed asked
        exact .broken chosen trailing other

theorem indexed_of_held {parts : NthParts} {index : Nat} {result : Except Fault Resolution}
    (held : (guarded selector .errorInNth (resolve parts.base root >>= fun matched =>
      pickNth selector parts.base parts.after index matched.elements)).Held before trace after
        result) :
    ∃ matched first second, trace = first ++ second ∧
      (resolve parts.base root).Held before first before (.ok matched) ∧
      ((∃ resolution, result = .ok resolution ∧
          Picked selector parts.after index matched.elements second (.ok resolution)) ∨
        ∃ fault, result = .ok (nothing selector .errorInNth) ∧
          Picked selector parts.after index matched.elements second (.error fault)) := by
  have resolved {inner : Except Fault Resolution}
      (held : (resolve parts.base root >>= fun matched =>
        pickNth selector parts.base parts.after index matched.elements).Held before trace after
          inner) :
      ∃ matched first second, trace = first ++ second ∧
        (resolve parts.base root).Held before first before (.ok matched) ∧
        Picked selector parts.after index matched.elements second inner := by
    obtain ⟨matched, first, second, resolves, pick, rfl⟩ :=
      (Guide.held_looking_bind (resolve_looks _ _) (Guide.resolve_returns _ _)).1 held
    exact ⟨matched, first, second, rfl, resolves, picked_of_held pick⟩
  rcases held_guarded.1 held with ⟨resolution, succeeds, rfl⟩ | ⟨fault, failed, rfl⟩
  · obtain ⟨matched, first, second, rfl, resolves, picks⟩ := resolved succeeds
    exact ⟨matched, first, second, rfl, resolves, .inl ⟨resolution, rfl, picks⟩⟩
  · obtain ⟨matched, first, second, rfl, resolves, picks⟩ := resolved failed
    exact ⟨matched, first, second, rfl, resolves, .inr ⟨fault, rfl, picks⟩⟩

theorem piecewise_of_sift {mark : Mark} {base effective : String} {check : Element → Run Bool}
    {result : Except Fault Resolution} (noted : ' ' ∈ effective.toList)
    (held : (guarded selector mark (query base root >>= fun candidates =>
      filterRun check candidates >>= fun found =>
        pure (fallback selector found effective))).Held before trace before result) :
    ∃ resolution, result = .ok resolution ∧
      Piecewise before root selector trace resolution := by
  rcases held_guarded.1 held with ⟨resolution, sifts, rfl⟩ | ⟨_, -, rfl⟩
  · rcases held_query_bind.1 sifts with ⟨candidates, _, tail, rfl⟩ | ⟨_, -, -, same⟩
    · obtain ⟨elements, goes, rfl⟩ := held_bind_pure_ok.1 tail
      exact ⟨_, rfl, .sifted goes noted⟩
    · cases same
  · exact ⟨_, rfl, .marked mark⟩

theorem piecewise_of_has {result : Except Fault Resolution}
    (held : (resolveHas selector root).Held before trace before result) :
    ∃ resolution, result = .ok resolution ∧
      Piecewise before root selector trace resolution := by
  unfold resolveHas at held
  split at held
  · obtain ⟨rfl, -, rfl⟩ := held_pure.1 held
    exact ⟨_, rfl, .marked _⟩
  · next parts split =>
      rcases held_guarded.1 held with ⟨resolution, collects, rfl⟩ | ⟨_, -, rfl⟩
      · rcases held_query_bind.1 collects with ⟨containers, _, tail, rfl⟩ | ⟨_, -, -, same⟩
        · obtain ⟨elements, looks, rfl⟩ := held_bind_pure_ok.1 tail
          exact ⟨_, rfl, .having split looks⟩
        · cases same
      · exact ⟨_, rfl, .marked _⟩

theorem fallbackFor_looks_always (selector : String) (root : Option Element) :
    (resolve.fallbackFor selector root).Asks (·.looks) :=
  looks_of_inspects (fallbackFor_inspects selector root fun base _ => resolve_inspects base root)

theorem piecewise_of_held {result : Except Fault Resolution}
    (held : (resolve.fallbackFor selector root).Held before trace after result) :
    after = before ∧ ∃ resolution, result = .ok resolution ∧
      Piecewise before root selector trace resolution := by
  obtain rfl := held.looked (fallbackFor_looks_always selector root)
  refine ⟨rfl, ?_⟩
  have marked {mark : Mark}
      (held : (pure (nothing selector mark) : Run Resolution).Held after trace after result) :
      ∃ resolution, result = .ok resolution ∧ Piecewise after root selector trace resolution := by
    obtain ⟨rfl, -, rfl⟩ := held_pure.1 held
    exact ⟨_, rfl, .marked _⟩
  rw [fallbackFor_eq, fallbackWith] at held
  -- an indexed match goes before `:has(...)`, and that before the filters by text
  split at held
  · cases split : splitNth selector with
    | none =>
        rw [split] at held
        exact marked held
    | some parts =>
        rw [split] at held
        dsimp only at held
        split at held
        · exact marked held
        · exact marked held
        · obtain ⟨matched, first, second, rfl, resolves, ⟨resolution, rfl, picks⟩ | ⟨_, rfl, -⟩⟩ :=
            indexed_of_held held
          · exact ⟨_, rfl, .indexed split resolves picks⟩
          · exact ⟨_, rfl, .marked _⟩
  split at held
  · exact piecewise_of_has held
  split at held
  · unfold resolveContains at held
    split at held
    · exact marked held
    · exact piecewise_of_sift (by simp) held
  split at held
  · unfold resolveText at held
    split at held
    · exact marked held
    · exact piecewise_of_sift (by simp) held
  · exact marked held

theorem first_query_of_held {result : Except Fault (Option (List Element))}
    (held : (unlessRefused (some <$> query selector root) (pure none)).Held before trace after
      result) :
    after = before ∧ ∃ reply : Except Fault (List Element),
      trace = [⟨.page (.query selector root), reply⟩] ∧
      ((∃ found, reply = .ok found ∧ result = .ok (some found)) ∨
        (∃ fault, reply = .error fault ∧ fault.isSelectorSyntax = true ∧ result = .ok none) ∨
        ∃ fault, reply = .error fault ∧ fault.isSelectorSyntax = false ∧
          result = .error fault) := by
  have failed {middle : Records} {fault : Fault} {turns : List Turn}
      (held : (some <$> query selector root).Held before turns middle (.error fault)) :
      middle = before ∧ turns = [⟨.page (.query selector root), .error fault⟩] := by
    obtain ⟨reply, answered, same⟩ := held_map.1 held
    obtain ⟨rfl, rfl⟩ := held_page.1 answered
    cases reply with
    | ok found => cases same
    | error cause =>
        cases same
        exact ⟨rfl, rfl⟩
  -- answered, refused, or failed otherwise
  rcases held_unlessRefused.1 held with
    ⟨value, asked, rfl⟩ | ⟨fault, _, _, _, refused, asked, passed, rfl⟩ | ⟨fault, other, asked, rfl⟩
  · obtain ⟨reply, answered, same⟩ := held_map.1 asked
    obtain ⟨rfl, rfl⟩ := held_page.1 answered
    cases reply with
    | ok found =>
        cases same
        exact ⟨rfl, _, rfl, .inl ⟨found, rfl, rfl⟩⟩
    | error fault => cases same
  · obtain ⟨rfl, rfl⟩ := failed asked
    obtain ⟨rfl, rfl, rfl⟩ := held_pure.1 passed
    exact ⟨rfl, .error fault, by simp, .inr (.inl ⟨fault, rfl, refused, rfl⟩)⟩
  · obtain ⟨rfl, rfl⟩ := failed asked
    exact ⟨rfl, _, rfl, .inr (.inr ⟨fault, rfl, other, rfl⟩)⟩

def attempt (selector : String) (root : Option Element) : Run Resolution :=
  unlessRefused (some <$> query selector root) (pure none) >>= fun found =>
    match found with
    | some (first :: rest) => pure (native selector (first :: rest))
    | some [] => if hasCustomMark selector then resolve.fallbackFor selector root
                 else pure (native selector [])
    | none => resolve.fallbackFor selector root

theorem resolve_eq_guarded (selector : String) (root : Option Element) :
    resolve selector root = guarded selector .error (attempt selector root) := by
  rewrite [resolve]
  rfl

theorem attempted_of_held {result : Except Fault Resolution}
    (held : (attempt selector root).Held before trace before result) :
    (∃ resolution, result = .ok resolution ∧ Resolved before root selector trace resolution) ∨
      ∃ fault, result = .error fault ∧ fault.isSelectorSyntax = false ∧
        trace = [⟨.page (.query selector root), .error fault⟩] := by
  have falls {reply : Except Fault (List Element)} {rest : List Turn}
      (declines : Declines selector reply)
      (held : (resolve.fallbackFor selector root).Held before rest before result) :
      ∃ resolution, result = .ok resolution ∧
        Resolved before root selector (⟨.page (.query selector root), reply⟩ :: rest) resolution := by
    obtain ⟨-, resolution, rfl, -⟩ := piecewise_of_held held
    exact ⟨resolution, rfl, .piecewise declines held⟩
  rcases held_bind.1 held with ⟨value, _, _, rest, asked, tail, rfl⟩ | ⟨fault, asked, rfl⟩
  · left
    obtain ⟨rfl, _, rfl, ⟨found, rfl, same⟩ | ⟨fault, rfl, refused, same⟩ | ⟨_, -, -, same⟩⟩ :=
      first_query_of_held asked
    · cases same
      cases found with
      | cons first others =>
          obtain ⟨rfl, -, rfl⟩ := held_pure.1 tail
          exact ⟨_, rfl, .native (.inl (by simp))⟩
      | nil =>
          dsimp only at tail
          split at tail
          · next custom => exact falls ⟨rfl, custom⟩ tail
          · next plain =>
              obtain ⟨rfl, -, rfl⟩ := held_pure.1 tail
              exact ⟨_, rfl, .native (.inr (by simpa using plain))⟩
    · cases same
      exact falls refused tail
    · cases same
  · right
    obtain ⟨-, _, rfl, ⟨_, -, same⟩ | ⟨_, -, -, same⟩ | ⟨_, rfl, other, same⟩⟩ :=
      first_query_of_held asked
    · cases same
    · cases same
    · cases same
      exact ⟨fault, rfl, other, rfl⟩

theorem resolved_of_held {result : Except Fault Resolution}
    (held : (resolve selector root).Held before trace after result) :
    after = before ∧ ∃ resolution, result = .ok resolution ∧
      Resolved before root selector trace resolution := by
  obtain rfl := held.looked (resolve_looks selector root)
  refine ⟨rfl, ?_⟩
  rw [resolve_eq_guarded, held_guarded] at held
  rcases held with ⟨resolution, succeeds, rfl⟩ | ⟨fault, failed, rfl⟩
  · rcases attempted_of_held succeeds with ⟨_, same, resolved⟩ | ⟨_, same, -, -⟩
    · cases same
      exact ⟨resolution, rfl, resolved⟩
    · cases same
  · rcases attempted_of_held failed with ⟨_, same, -⟩ | ⟨_, same, other, rfl⟩
    · cases same
    · cases same
      exact ⟨_, rfl, .broken other⟩

theorem falls_of_held {reply : Except Fault (List Element)} {result : Except Fault Resolution}
    (declines : Declines selector reply)
    (held : (resolve selector root).Held before (⟨.page (.query selector root), reply⟩ :: trace)
      after result) :
    after = before ∧ ∃ resolution, result = .ok resolution ∧
      (resolve.fallbackFor selector root).Held before trace before (.ok resolution) := by
  obtain ⟨rfl, resolution, rfl, resolved⟩ := resolved_of_held held
  refine ⟨rfl, resolution, rfl, ?_⟩
  cases resolved with
  | native accepted =>
      obtain ⟨rfl, custom⟩ := declines
      rcases accepted with filled | plain
      · exact absurd rfl filled
      · rw [custom] at plain
        cases plain
  | broken other =>
      rw [show _ = true from declines] at other
      cases other
  | piecewise _ falls => exact falls

/-! What every resolution says of itself. -/

/-- A resolution that is not the page's own answer. It says so, and if it bears a mark it has no
elements. -/
structure Makeshift (selector : String) (resolution : Resolution) : Prop where
  selector_eq : resolution.selector = selector
  used : resolution.usedFallback = true
  noted : resolution.effective ≠ none
  bare : ∀ mark : Mark, resolution.effective = some mark.name → resolution.elements = []

theorem blank_not_mem_name (mark : Mark) : ' ' ∉ mark.name.toList := by
  cases mark <;> decide

theorem makeshift_nothing (selector : String) (mark : Mark) :
    Makeshift selector (nothing selector mark) :=
  ⟨rfl, rfl, Option.some_ne_none _, fun _ _ => rfl⟩

theorem makeshift_fallback {elements : List Element} {effective : String}
    (noted : ' ' ∈ effective.toList) : Makeshift selector (fallback selector elements effective) where
  selector_eq := rfl
  used := rfl
  noted := Option.some_ne_none _
  bare mark same := by
    obtain rfl : effective = mark.name := Option.some.inj same
    exact absurd noted (blank_not_mem_name mark)

theorem Picked.makeshift {tail : String} {index : Nat} {matched : List Element}
    {resolution : Resolution}
    (picks : Picked selector tail index matched trace (.ok resolution)) :
    Makeshift selector resolution := by
  cases picks with
  | missed _ noted => exact makeshift_fallback noted
  | itself _ _ noted => exact makeshift_fallback noted
  | within _ _ noted => exact makeshift_fallback noted
  | instead _ _ _ noted => exact makeshift_fallback noted

theorem Piecewise.makeshift {records : Records} {resolution : Resolution}
    (found : Piecewise records root selector trace resolution) : Makeshift selector resolution := by
  cases found with
  | marked mark => exact makeshift_nothing selector mark
  | sifted _ noted => exact makeshift_fallback noted
  | having => exact makeshift_fallback (by simp)
  | indexed _ _ picks => exact picks.makeshift

/-- The page takes the selector: it finds something, or it knows everything in it. -/
def Accepts (selector : String) (reply : Except Fault (List Element)) : Prop :=
  ∃ found, reply = .ok found ∧ (found ≠ [] ∨ hasCustomMark selector = false)

theorem not_accepts_of_declines {reply : Except Fault (List Element)}
    (declines : Declines selector reply) : ¬Accepts selector reply := by
  rintro ⟨found, rfl, some_found | plain⟩
  · exact some_found declines.1
  · rw [declines.2] at plain
    cases plain

/-- The resolution goes by the page's answer to the whole selector, and `rest` is what was asked
after it. -/
structure Authoritative (selector : String) (reply : Except Fault (List Element))
    (rest : List Turn) (resolution : Resolution) : Prop where
  selector_eq : resolution.selector = selector
  told : resolution.usedFallback = false ↔ resolution.effective = none
  accepted : resolution.usedFallback = false ↔ Accepts selector reply
  native : resolution.usedFallback = false → reply = .ok resolution.elements ∧ rest = []
  bare : ∀ mark : Mark, resolution.effective = some mark.name → resolution.elements = []

theorem Makeshift.authoritative {reply : Except Fault (List Element)} {rest : List Turn}
    {resolution : Resolution} (made : Makeshift selector resolution)
    (refused : ¬Accepts selector reply) : Authoritative selector reply rest resolution where
  selector_eq := made.selector_eq
  told := by simp [made.used, made.noted]
  accepted := by simp [made.used, refused]
  native := by simp [made.used]
  bare := made.bare

theorem authoritative_native {found : List Element}
    (accepted : found ≠ [] ∨ hasCustomMark selector = false) :
    Authoritative selector (.ok found) [] (native selector found) where
  selector_eq := rfl
  told := iff_of_true rfl rfl
  accepted := iff_of_true rfl ⟨found, rfl, accepted⟩
  native _ := ⟨rfl, rfl⟩
  bare mark same := by cases same

theorem Resolved.authoritative {records : Records} {resolution : Resolution}
    (resolved : Resolved records root selector trace resolution) :
    ∃ reply rest, trace = ⟨.page (.query selector root), reply⟩ :: rest ∧
      Authoritative selector reply rest resolution := by
  cases resolved with
  | native accepted => exact ⟨_, _, rfl, authoritative_native accepted⟩
  | @broken fault other =>
      have refused : ¬Accepts selector (.error fault) := by
        rintro ⟨_, same, -⟩
        cases same
      exact ⟨_, _, rfl, (makeshift_nothing selector .error).authoritative refused⟩
  | piecewise declines falls =>
      obtain ⟨-, _, same, found⟩ := piecewise_of_held falls
      cases same
      exact ⟨_, _, rfl, found.makeshift.authoritative (not_accepts_of_declines declines)⟩

theorem held_of_scene (scene : Scene) (selector : String) (root : Option Element)
    (records : Records) :
    ∃ rest, (resolve selector root).Held records
        (⟨.page (.query selector root), scene.page (.query selector root)⟩ :: rest) records
        (scene.outcome (resolve selector root) records).1 ∧
      ∀ turn ∈ rest, scene.Gave turn := by
  obtain ⟨trace, held, known⟩ := scene.held (resolve selector root) records
  obtain ⟨same, _, -, resolved⟩ := resolved_of_held held
  obtain ⟨reply, rest, rfl, -⟩ := resolved.authoritative
  obtain ⟨⟨_, replied⟩, later⟩ := List.forall_mem_cons.1 known
  obtain rfl : reply = scene.page (.query selector root) := replied
  rw [same] at held
  exact ⟨rest, held, later⟩

/-- Whatever the page answers, and wherever it fails, there is a resolution. It is the page's own
answer to the whole selector exactly if the page takes the selector, and then nothing else is asked;
otherwise it says what was matched instead, and a mark comes without elements. Inside a resolution
there is one other resolution at most, and none inside that one, whatever it would be. -/
theorem resolve_authoritative (selector : String) (root : Option Element) :
    (∀ unresolved, resolve selector root = resolveWith (resolveWith unresolved) selector root) ∧
    (∀ {σ : Type} (answer : (asked : Request) → StateM σ asked.Answer) (view : σ → Records),
      Faithful answer view → ∀ situation, ∃ resolution,
        ((Dialogue.holdWith answer (resolve selector root).run).run situation).1 =
          .ok resolution) ∧
    ∀ before trace after result, (resolve selector root).Held before trace after result →
      ∃ resolution reply rest, result = .ok resolution ∧ after = before ∧
        trace = ⟨.page (.query selector root), reply⟩ :: rest ∧
        Authoritative selector reply rest resolution := by
  refine ⟨fun unresolved => resolve_nests_once unresolved, ?returns, ?held⟩
  case returns =>
    intro σ answer view faithful situation
    obtain ⟨trace, held, -⟩ := held_of_faithful answer view faithful (resolve selector root) situation
    obtain ⟨-, resolution, same, -⟩ := resolved_of_held held
    exact ⟨resolution, same⟩
  case held =>
    intro before trace after result held
    obtain ⟨rfl, resolution, rfl, resolved⟩ := resolved_of_held held
    obtain ⟨reply, rest, rfl, authoritative⟩ := resolved.authoritative
    exact ⟨resolution, reply, rest, rfl, rfl, rfl, authoritative⟩

def monolith : Scene where
  page
    | .query "a" _ => .ok [0]
    | .query selector _ => .error (.guide (.selectorSyntax selector "unknown"))
    | _ => .error (.page "empty")
  tuning := Scene.unhurried 3

theorem monolith_resolves :
    (∃ resolution, ((Dialogue.holdWith monolith.answer
        (resolve "a:nth-match(1)" none).run).run ⟨[], []⟩).1 = .ok resolution) ∧
      ∃ trace resolution, (resolve "a:nth-match(1)" none).Held ⟨[], []⟩ trace ⟨[], []⟩
        (.ok resolution) ∧ resolution.usedFallback = true ∧ resolution.selector = "a:nth-match(1)" := by
  obtain ⟨-, returns, decided⟩ := resolve_authoritative "a:nth-match(1)" none
  refine ⟨returns monolith.answer id monolith.faithful ⟨[], []⟩, ?_⟩
  obtain ⟨trace, held, known⟩ := monolith.held (resolve "a:nth-match(1)" none) ⟨[], []⟩
  obtain ⟨resolution, reply, rest, same, unchanged, rfl, decides⟩ := decided _ _ _ _ held
  rw [same, unchanged] at held
  refine ⟨_, resolution, held, ?_, decides.selector_eq⟩
  -- the page has refused the whole selector
  obtain ⟨_, replied⟩ := known _ List.mem_cons_self
  cases replied
  apply eq_true_of_ne_false
  intro own
  obtain ⟨_, taken, -⟩ := decides.accepted.1 own
  cases taken

end Selector

end Walkthrough
