import Walkthrough.Proofs.Having
/-!
What a filter by text keeps, `:contains(...)` by all the text inside an element and `:text(...)` by
the text directly in it. The selector is cut at the first such filter that can be read, and of the
three parts only the base and the needle are used. What follows the filter, be it a further segment,
a suffix or another filter, plays no part in what is found.
Main statement: `filtered_by_text_alone`.
-/

namespace Walkthrough

def Turn.Failed (turn : Turn) : Prop :=
  ∃ call fault, turn = ⟨.page call, .error fault⟩ ∧
    ∀ selector root, call = .query selector root → fault.isSelectorSyntax = false

namespace Selector

open Run Resolution Text

/-! The two filters. -/

inductive TextFilter where
  | whole
  | direct
deriving DecidableEq, Repr

namespace TextFilter

def mark : TextFilter → String
  | whole => ":contains("
  | direct => ":text("

def split : TextFilter → String → Option Filter
  | whole => splitContains
  | direct => splitText

def check : TextFilter → String → Element → Run Bool
  | whole => textIncludes
  | direct => directTextIncludes

def effective : TextFilter → Filter → String
  | whole, parts => parts.base ++ " (text contains \"" ++ parts.needle ++ "\")"
  | direct, parts => parts.base ++ " (direct text contains \"" ++ parts.needle ++ "\")"

def resolve : TextFilter → String → Option Element → Run Resolution
  | whole => resolveContains
  | direct => resolveText

def broken : TextFilter → Mark
  | whole => .errorInContains
  | direct => .errorInText

def reading : TextFilter → Element × String → Turn
  | whole, (element, text) => ⟨.page (.text element), .ok text⟩
  | direct, (element, text) => ⟨.page (.directText element), .ok text⟩

def unread : TextFilter → Element → Fault → Turn
  | whole, element, fault => ⟨.page (.text element), .error fault⟩
  | direct, element, fault => ⟨.page (.directText element), .error fault⟩

def Spells (filter : TextFilter) (needle text : String) : Prop :=
  ∃ quote ∈ ["", "\"", "'"], text = filter.mark ++ quote ++ needle ++ quote ++ ")"

end TextFilter

theorem resolve_of_uncut {filter : TextFilter} {selector : String}
    (uncut : filter.split selector = none) (root : Option Element) :
    ∃ mark, filter.resolve selector root = pure (nothing selector mark) := by
  cases filter with
  | whole =>
      have uncut : splitContains selector = none := uncut
      exact ⟨.invalidContains, by rw [TextFilter.resolve, resolveContains, uncut]⟩
  | direct =>
      have uncut : splitText selector = none := uncut
      exact ⟨.invalidText, by rw [TextFilter.resolve, resolveText, uncut]⟩

theorem resolve_of_cut {filter : TextFilter} {selector : String} {parts : Filter}
    (cut : filter.split selector = some parts) (root : Option Element) :
    filter.resolve selector root =
      guarded selector filter.broken (query parts.base root >>= fun candidates =>
        filterRun (filter.check parts.needle) candidates >>= fun found =>
          pure (fallback selector found (filter.effective parts))) := by
  cases filter with
  | whole =>
      have cut : splitContains selector = some parts := cut
      rw [TextFilter.resolve, resolveContains, cut]
      rfl
  | direct =>
      have cut : splitText selector = some parts := cut
      rw [TextFilter.resolve, resolveText, cut]
      rfl

/-- The filter that a selector is resolved by, if it is resolved by one: an indexed match and
`:has(...)` go first, and `:contains(...)` goes before `:text(...)`. -/
def filterOf? (selector : String) : Option TextFilter :=
  if includes ":nth-match(" selector || usesMark ":has(" selector then none
  else if usesMark ":contains(" selector && !includes ":has(" selector then some .whole
  else if includes ":text(" selector then some .direct
  else none

theorem fallbackFor_of_filter {selector : String} {filter : TextFilter}
    (governed : filterOf? selector = some filter) (root : Option Element) :
    resolve.fallbackFor selector root = filter.resolve selector root := by
  rw [fallbackFor_eq, fallbackWith]
  unfold filterOf? at governed
  split at governed
  · cases governed
  next others =>
  simp only [Bool.or_eq_true, not_or, Bool.not_eq_true] at others
  rw [if_neg (by simp [others.1]), if_neg (by simp [others.2])]
  split at governed
  · next contains =>
      cases governed
      rw [if_pos contains]
      rfl
  next plain =>
  rw [if_neg plain]
  split at governed
  · next direct =>
      cases governed
      rw [if_pos direct]
      rfl
  · cases governed

/-! The parts are those of the selector. -/

section Cutting

variable {text needle after : List Char}

theorem firstAfterStart_sound {α : Type} {mark front : List Char} {read : List Char → Option α}
    {found : α} (split : firstAfterStart mark read text = some (front, found)) :
    front ≠ [] ∧ ∃ rest, text = front ++ mark ++ rest ∧ read rest = some found := by
  induction text generalizing front found with
  | nil => simp [firstAfterStart] at split
  | cons letter rest ih =>
      unfold firstAfterStart at split
      split at split
      · next here =>
          obtain ⟨rfl, rfl⟩ : [letter] = front ∧ _ := by simpa using split
          split at here
          · next starts =>
              obtain ⟨tail, rfl⟩ := List.isPrefixOf_iff_prefix.1 starts
              rw [List.drop_left] at here
              exact ⟨by simp, tail, by simp, here⟩
          · cases here
      · obtain ⟨⟨inner, value⟩, later, same⟩ := Option.map_eq_some_iff.1 split
        obtain ⟨rfl, rfl⟩ := Prod.mk.inj same
        obtain ⟨-, tail, rfl, read⟩ := ih later
        exact ⟨by simp, tail, by simp, read⟩

theorem readInQuotes_sound {allowed : Char → Bool} {quote : Char}
    (read : readInQuotes allowed quote text = some (needle, after)) :
    text = needle ++ quote :: ')' :: after := by
  unfold readInQuotes at read
  dsimp only at read
  have parts := List.prefix_iff_eq_append.1 (List.takeWhile_prefix allowed (l := text))
  split at read
  · next mark tail closes =>
      split at read
      · next same =>
          obtain ⟨rfl, rfl⟩ := Prod.mk.inj (Option.some.inj read)
          rw [← same, ← closes]
          exact parts.symm
      · cases read
  · cases read

/-- What stands between the mark and the trailing part: the needle with a quote on both sides, or
without any. -/
def Delimited (text needle after : List Char) : Prop :=
  ∃ quote ∈ [[], ['"'], ['\'']], text = quote ++ needle ++ quote ++ ')' :: after

theorem isQuote_cases {letter : Char} (quotes : isQuote letter = true) :
    letter = '"' ∨ letter = '\'' := by
  simpa [isQuote, ← Char.toNat_inj] using quotes

theorem delimited_of_quoted {allowed : Char → Bool} {quote : Char} (quotes : isQuote quote = true)
    (read : readInQuotes allowed quote text = some (needle, after)) :
    Delimited (quote :: text) needle after := by
  refine ⟨[quote], ?_, by simp [readInQuotes_sound read]⟩
  rcases isQuote_cases quotes with rfl | rfl <;> simp

theorem delimited_of_readShort (read : readShort text = some (needle, after)) :
    Delimited text needle after := by
  unfold readShort at read
  dsimp only at read
  split at read
  · cases read
  · split at read
    · next quotes => exact delimited_of_quoted quotes read
    · next first rest _ =>
        have parts := List.prefix_iff_eq_append.1
          (List.takeWhile_prefix (fun letter => !isQuote letter && letter != ')') (l := first :: rest))
        split at read
        · next closes =>
            obtain ⟨rfl, rfl⟩ := Prod.mk.inj (Option.some.inj read)
            refine ⟨[], by simp, ?_⟩
            rw [closes] at parts
            simpa using parts.symm
        · cases read

theorem breakAtLastClose_sound (broken : breakAtLastClose text = some (needle, after)) :
    text = needle ++ ')' :: after := by
  unfold breakAtLastClose at broken
  dsimp only at broken
  have parts := List.prefix_iff_eq_append.1 (List.takeWhile_prefix (· != ')') (l := text.reverse))
  have rest_eq : text.reverse.drop (text.reverse.takeWhile (· != ')')).length =
      text.reverse.dropWhile (· != ')') :=
    List.append_cancel_left (parts.trans List.takeWhile_append_dropWhile.symm)
  split at broken
  · next closing before rest =>
      obtain ⟨rfl, rfl⟩ := Prod.mk.inj (Option.some.inj broken)
      -- the text in front of the last parenthesis, read backwards, begins with it
      rw [rest] at rest_eq parts
      have closes := List.head?_dropWhile_not (· != ')') text.reverse
      rw [← rest_eq] at closes
      obtain rfl : closing = ')' := by simpa using closes
      generalize text.reverse.takeWhile (· != ')') = tail at parts
      rw [← List.reverse_reverse text, ← parts]
      simp
  · cases broken

theorem delimited_of_readLong (read : readLong text = some (needle, after)) :
    Delimited text needle after := by
  unfold readLong at read
  dsimp only at read
  split at read
  · cases read
  · split at read
    · next quotes => exact delimited_of_quoted quotes read
    · next first rest _ =>
        have parts := List.prefix_iff_eq_append.1
          (List.takeWhile_prefix (fun letter => !isQuote letter) (l := first :: rest))
        obtain ⟨⟨inner, tail⟩, broken, same⟩ := Option.map_eq_some_iff.1 read
        obtain ⟨rfl, rfl⟩ := Prod.mk.inj same
        refine ⟨[], by simp, ?_⟩
        dsimp only
        generalize (first :: rest).drop _ = others at parts ⊢
        rw [breakAtLastClose_sound broken] at parts
        simpa using parts.symm

theorem splitFilter_sound {mark selector : String} {parts : Filter}
    {read : List Char → Option (List Char × List Char)}
    (reads : ∀ {text needle after}, read text = some (needle, after) → Delimited text needle after)
    (split : splitFilter mark read selector = some parts) :
    parts.base ≠ "" ∧ ∃ quote ∈ ["", "\"", "'"],
      selector = parts.base ++ (mark ++ quote ++ parts.needle ++ quote ++ ")") ++ parts.after := by
  obtain ⟨⟨front, needle, after⟩, found, rfl⟩ := Option.map_eq_some_iff.1 split
  obtain ⟨filled, rest, whole, read⟩ := firstAfterStart_sound found
  obtain ⟨quote, known, rfl⟩ := reads read
  refine ⟨by simpa using filled, String.ofList quote, ?_, ?_⟩
  · rcases List.mem_cons.1 known with rfl | known
    · simp
    · rcases List.mem_cons.1 known with rfl | known
      · simp
      · obtain rfl := List.mem_singleton.1 known
        simp
  · apply String.toList_injective
    simp [whole]

end Cutting

theorem TextFilter.split_sound {filter : TextFilter} {selector : String} {parts : Filter}
    (split : filter.split selector = some parts) :
    parts.base ≠ "" ∧ ∃ text, filter.Spells parts.needle text ∧
      selector = parts.base ++ text ++ parts.after := by
  have cut : parts.base ≠ "" ∧ ∃ quote ∈ ["", "\"", "'"], selector =
      parts.base ++ (filter.mark ++ quote ++ parts.needle ++ quote ++ ")") ++ parts.after := by
    cases filter with
    | whole => exact splitFilter_sound delimited_of_readShort split
    | direct => exact splitFilter_sound delimited_of_readLong split
  obtain ⟨filled, quote, known, same⟩ := cut
  exact ⟨filled, _, ⟨quote, known, rfl⟩, same⟩

end Selector

/-! What is found. -/

/-- What is written on a page. -/
structure Lettering where
  whole : Element → String
  direct : Element → String

namespace Lettering

open Selector

def read (lettering : Lettering) : TextFilter → Element → String
  | .whole => lettering.whole
  | .direct => lettering.direct

def holds (lettering : Lettering) (filter : TextFilter) (needle : String) (element : Element) :
    Bool :=
  Text.includesFolded needle (lettering.read filter element)

/-- The turn is true to what is written. -/
structure Told (lettering : Lettering) (turn : Turn) : Prop where
  whole : ∀ element text, turn = ⟨.page (.text element), .ok text⟩ →
    text = lettering.whole element
  direct : ∀ element text, turn = ⟨.page (.directText element), .ok text⟩ →
    text = lettering.direct element

end Lettering

namespace Selector

open Run Resolution Text

section Finding

variable {before after : Records} {trace : List Turn} {selector : String} {root : Option Element}
  {filter : TextFilter} {lettering : Lettering} {element : Element} {candidates : List Element}

theorem held_judged {call : PageCall} {judge : call.Answer → Bool} {result : Except Fault Bool}
    (held : (page call >>= fun reply => pure (judge reply)).Held before trace after result) :
    (∃ reply, trace = [⟨.page call, .ok reply⟩] ∧ result = .ok (judge reply)) ∨
      ∃ fault, trace = [⟨.page call, .error fault⟩] ∧ result = .error fault := by
  rcases held_bind.1 held with ⟨reply, _, _, _, asked, tail, rfl⟩ | ⟨fault, failed, rfl⟩
  · obtain ⟨rfl, -⟩ := held_page.1 asked
    obtain ⟨rfl, -, rfl⟩ := held_pure.1 tail
    exact .inl ⟨reply, rfl, rfl⟩
  · obtain ⟨rfl, -⟩ := held_page.1 failed
    exact .inr ⟨fault, rfl, rfl⟩

theorem checked_of_held {needle : String} {result : Except Fault Bool}
    (held : (filter.check needle element).Held before trace after result) :
    (∃ text, trace = [filter.reading (element, text)] ∧
        result = .ok (includesFolded needle text)) ∨
      ∃ fault, trace = [filter.unread element fault] ∧ result = .error fault := by
  cases filter with
  | whole => exact held_judged held
  | direct => exact held_judged held

theorem held_filterRun {check : Element → Run Bool} {reading : Element × String → Turn}
    {unread : Element → Fault → Turn} {judge : String → Bool}
    {result : Except Fault (List Element)}
    (reads : ∀ {element before trace after outcome}, (check element).Held before trace after outcome →
      (∃ text, trace = [reading (element, text)] ∧ outcome = .ok (judge text)) ∨
        ∃ fault, trace = [unread element fault] ∧ outcome = .error fault)
    (held : (filterRun check candidates).Held before trace after result) :
    (∃ readings : List (Element × String), candidates = readings.map Prod.fst ∧
        trace = readings.map reading ∧
        result = .ok ((readings.filter (judge ·.2)).map Prod.fst)) ∨
      ∃ readings element fault, trace = List.map reading readings ++ [unread element fault] ∧
        result = .error fault := by
  induction candidates generalizing before trace after result with
  | nil =>
      obtain ⟨rfl, -, rfl⟩ := held_pure.1 held
      exact .inl ⟨[], rfl, rfl, rfl⟩
  | cons candidate rest ih =>
      rcases held_bind.1 held with ⟨kept, _, _, _, checks, tail, rfl⟩ | ⟨_, failed, rfl⟩
      · obtain ⟨text, rfl, same⟩ | ⟨_, -, same⟩ := reads checks
        · cases same
          rcases held_bind.1 tail with ⟨others, _, _, _, sifts, last, rfl⟩ | ⟨_, failed, rfl⟩
          · obtain ⟨rfl, -, rfl⟩ := held_pure.1 last
            obtain ⟨readings, rfl, rfl, same⟩ | ⟨_, _, _, -, same⟩ := ih sifts
            · cases same
              refine .inl ⟨(candidate, text) :: readings, rfl, by simp, ?_⟩
              rw [List.filter_cons]
              split <;> rfl
            · cases same
          · obtain ⟨_, _, _, same⟩ | ⟨readings, last, fault, rfl, same⟩ := ih failed
            · cases same
            · cases same
              exact .inr ⟨(candidate, text) :: readings, last, _, rfl, rfl⟩
        · cases same
      · obtain ⟨_, -, same⟩ | ⟨fault, rfl, same⟩ := reads failed
        · cases same
        · cases same
          exact .inr ⟨[], candidate, _, rfl, rfl⟩

theorem sifts_of_held {needle : String} {result : Except Fault (List Element)}
    (held : (filterRun (filter.check needle) candidates).Held before trace after result) :
    (∃ readings : List (Element × String), candidates = readings.map Prod.fst ∧
        trace = readings.map filter.reading ∧
        result = .ok ((readings.filter (includesFolded needle ·.2)).map Prod.fst)) ∨
      ∃ readings element fault, trace = List.map filter.reading readings ++
        [filter.unread element fault] ∧ result = .error fault :=
  held_filterRun checked_of_held held

theorem read_of_told {reading : Element × String} (told : lettering.Told (filter.reading reading)) :
    reading.2 = lettering.read filter reading.1 := by
  cases filter with
  | whole => exact told.whole _ _ rfl
  | direct => exact told.direct _ _ rfl

theorem failed_unread (filter : TextFilter) (element : Element) (fault : Fault) :
    (filter.unread element fault).Failed := by
  cases filter <;> exact ⟨_, _, rfl, by simp⟩

theorem holds_of_check {needle : String} {kept : Bool}
    (held : (filter.check needle element).Held before trace after (.ok kept))
    (told : ∀ turn ∈ trace, lettering.Told turn) : kept = lettering.holds filter needle element := by
  obtain ⟨text, rfl, same⟩ | ⟨_, -, same⟩ := checked_of_held held
  · cases same
    rw [Lettering.holds, ← read_of_told (told _ List.mem_cons_self)]
  · cases same

theorem failed_of_check {needle : String} {fault : Fault}
    (held : (filter.check needle element).Held before trace after (.error fault)) :
    ∃ turn ∈ trace, turn.Failed := by
  obtain ⟨_, -, same⟩ | ⟨fault, rfl, -⟩ := checked_of_held held
  · cases same
  · exact ⟨_, List.mem_cons_self, failed_unread filter element fault⟩

theorem filter_of_sift {needle : String} {elements : List Element}
    (held : (filterRun (filter.check needle) candidates).Held before trace after (.ok elements))
    (told : ∀ turn ∈ trace, lettering.Told turn) :
    elements = candidates.filter (lettering.holds filter needle) := by
  obtain ⟨readings, rfl, rfl, same⟩ | ⟨_, _, _, -, same⟩ := sifts_of_held held
  · cases same
    have alike : ∀ reading ∈ readings, includesFolded needle reading.2 =
        (lettering.holds filter needle ∘ Prod.fst) reading := by
      intro reading member
      rw [read_of_told (told _ (List.mem_map_of_mem member)), Function.comp_apply, Lettering.holds]
    rw [List.filter_map, List.filter_congr alike]
  · cases same

theorem failed_of_sift {needle : String} {fault : Fault}
    (held : (filterRun (filter.check needle) candidates).Held before trace after (.error fault)) :
    ∃ turn ∈ trace, turn.Failed := by
  obtain ⟨_, -, -, same⟩ | ⟨readings, element, fault, rfl, -⟩ := sifts_of_held held
  · cases same
  · exact ⟨_, List.mem_append_right _ List.mem_cons_self, failed_unread filter element fault⟩

theorem understood_or_failed {page : Landscape} {fault : Fault}
    (told : page.Told ⟨.page (.query selector root), .error fault⟩) :
    page.understands selector = false ∨
      ∃ turn ∈ [(⟨.page (.query selector root), .error fault⟩ : Turn)], turn.Failed := by
  cases refused : fault.isSelectorSyntax with
  | true => exact .inl (told.refuses _ _ _ rfl refused)
  | false => exact .inr ⟨_, List.mem_cons_self, _, _, rfl, fun _ _ _ => refused⟩

/-- What a filter by text comes to: a mark, if the selector cannot be cut, if its base is not
understood or if a call fails, or else the elements of the base whose text holds the needle. -/
inductive Sifted (page : Landscape) (lettering : Lettering) (filter : TextFilter) (selector : String)
    (root : Option Element) (trace : List Turn) : Resolution → Prop where
  | uncut (mark : Mark) (split : filter.split selector = none) :
      Sifted page lettering filter selector root trace (nothing selector mark)
  | unfounded {parts} (mark : Mark) (split : filter.split selector = some parts)
      (fails : page.understands parts.base = false ∨ ∃ turn ∈ trace, turn.Failed) :
      Sifted page lettering filter selector root trace (nothing selector mark)
  | kept {parts} (split : filter.split selector = some parts) :
      Sifted page lettering filter selector root trace
        (fallback selector
          ((page.found parts.base root).filter (lettering.holds filter parts.needle))
          (filter.effective parts))

theorem sifted_of_held {page : Landscape} {resolution : Resolution}
    (held : (filter.resolve selector root).Held before trace after (.ok resolution))
    (told : ∀ turn ∈ trace, page.Told turn ∧ lettering.Told turn) :
    Sifted page lettering filter selector root trace resolution := by
  cases split : filter.split selector with
  | none =>
      obtain ⟨mark, same⟩ := resolve_of_uncut split root
      rw [same] at held
      obtain ⟨-, -, rfl⟩ := held_pure_ok.1 held
      exact .uncut mark split
  | some parts =>
      rw [resolve_of_cut split root] at held
      rcases held_guarded.1 held with ⟨_, sifts, same⟩ | ⟨fault, failed, same⟩
      · cases same
        rcases held_query_bind.1 sifts with ⟨candidates, rest, tail, rfl⟩ | ⟨_, -, -, same⟩
        · obtain ⟨told_first, told_rest⟩ := List.forall_mem_cons.1 told
          obtain ⟨-, rfl⟩ := told_first.1.finds _ _ _ rfl
          obtain ⟨elements, keeps, rfl⟩ := held_bind_pure_ok.1 tail
          rw [filter_of_sift keeps fun turn member => (told_rest turn member).2]
          exact .kept split
        · cases same
      · cases same
        apply Sifted.unfounded filter.broken split
        rcases held_query_bind.1 failed with ⟨candidates, rest, tail, rfl⟩ | ⟨_, rfl, -, -⟩
        · obtain ⟨turn, member, fails⟩ := failed_of_sift (held_bind_pure_error.1 tail)
          exact .inr ⟨turn, List.mem_cons_of_mem _ member, fails⟩
        · exact understood_or_failed (told _ List.mem_cons_self).1

end Finding

/-! What follows a filter. -/

/-- A part of what may follow a filter: a suffix of the same segment, one more filter, or a further
segment, which is meant to be looked for inside. -/
inductive Link where
  | suffix (selector : String)
  | again (filter : TextFilter) (needle : String)
  | segment (selector : String)

def Solid (text : String) : Prop :=
  text ≠ "" ∧ trim text = text

namespace Link

def Spells : Link → String → Prop
  | suffix selector, text => Solid selector ∧ text = selector
  | again filter needle, text => filter.Spells needle text
  | segment selector, text =>
      Solid selector ∧ ∃ gap, gap ≠ "" ∧ allBlank gap = true ∧ text = gap ++ selector

def isSegment : Link → Bool
  | segment _ => true
  | _ => false

def meets (page : Landscape) (lettering : Lettering) : Link → Element → Bool
  | suffix selector | segment selector => page.suits selector
  | again filter needle => lettering.holds filter needle

def Leads (page : Landscape) (lettering : Lettering) (chosen : Element → Prop) (link : Link)
    (element : Element) : Prop :=
  (if link.isSegment then ∃ container, chosen container ∧ page.inside container element = true
    else chosen element) ∧ link.meets page lettering element = true

end Link

/-- The text is a row of links, and blanks at most behind it. -/
inductive Spelled : List Link → String → Prop where
  | none {text} (blank : allBlank text = true) : Spelled [] text
  | link {link links text rest} (first : link.Spells text) (others : Spelled links rest) :
      Spelled (link :: links) (text ++ rest)

/-- The elements that are meant by a row of links behind a selector that matches the chosen ones. -/
def Meant (page : Landscape) (lettering : Lettering) : List Link → (Element → Prop) → Element → Prop
  | [], chosen => chosen
  | link :: rest, chosen => Meant page lettering rest (link.Leads page lettering chosen)

section Meaning

variable {page : Landscape} {lettering : Lettering} {links : List Link} {chosen : Element → Prop}
  {element : Element}

theorem meant_iff_of_plain (plain : links.any Link.isSegment = false) :
    Meant page lettering links chosen element ↔
      chosen element ∧ ∀ link ∈ links, link.meets page lettering element = true := by
  induction links generalizing chosen with
  | nil => simp [Meant]
  | cons link rest ih =>
      rw [List.any_cons, Bool.or_eq_false_iff] at plain
      rw [Meant, ih plain.2, List.forall_mem_cons, ← and_assoc, Link.Leads, if_neg (by simp [plain.1])]

/-- The element is one of the chosen ones, or inside one of them. -/
def Reached (page : Landscape) (chosen : Element → Prop) (element : Element) : Prop :=
  chosen element ∨ ∃ container, chosen container ∧ page.inside container element = true

theorem Reached.inside {container : Element} (reached : Reached page chosen container)
    (inside : page.inside container element = true) :
    ∃ container, chosen container ∧ page.inside container element = true := by
  rcases reached with here | ⟨outer, here, outside⟩
  · exact ⟨container, here, inside⟩
  · exact ⟨outer, here, page.nested outside inside⟩

theorem Link.Leads.reached {link : Link} (leads : link.Leads page lettering chosen element) :
    Reached page chosen element := by
  obtain ⟨from_chosen, -⟩ := leads
  split at from_chosen
  · exact .inr from_chosen
  · exact .inl from_chosen

theorem reached_of_meant (meant : Meant page lettering links chosen element) :
    Reached page chosen element := by
  induction links generalizing chosen with
  | nil => exact .inl meant
  | cons link rest ih =>
      rcases ih meant with leads | ⟨container, leads, inside⟩
      · exact leads.reached
      · exact .inr (leads.reached.inside inside)

theorem inside_of_meant (segmented : links.any Link.isSegment = true)
    (meant : Meant page lettering links chosen element) :
    ∃ container, chosen container ∧ page.inside container element = true := by
  induction links generalizing chosen with
  | nil => cases segmented
  | cons link rest ih =>
      rw [List.any_cons, Bool.or_eq_true] at segmented
      rcases segmented with here | later
      · have leads_inside {found : Element} (leads : link.Leads page lettering chosen found) :
            ∃ container, chosen container ∧ page.inside container found = true := by
          simpa [here] using leads.1
        have onward : Meant page lettering rest (link.Leads page lettering chosen) element := meant
        rcases reached_of_meant onward with leads | ⟨container, leads, inside⟩
        · exact leads_inside leads
        · exact leads.reached.inside inside
      · obtain ⟨container, leads, inside⟩ := ih later meant
        exact leads.reached.inside inside

theorem eq_nil_of_nested {elements : List Element} (sublist : elements.Sublist page.order)
    (nested : ∀ element ∈ elements, ∃ container ∈ elements, page.inside container element = true) :
    elements = [] := by
  cases elements with
  | nil => rfl
  | cons first rest =>
      obtain ⟨container, member, inside⟩ := nested first List.mem_cons_self
      have before := page.ahead inside
      rcases List.mem_cons.1 member with rfl | later
      · exact absurd rfl (before.ne page.distinct)
      · have ascending := (pairwise_before page.order).sublist sublist
        exact absurd before ((List.rel_of_pairwise_cons ascending later).asymm page.distinct)

/-- Elements mean themselves, whatever follows, only if nothing is looked for inside them. -/
theorem all_meant_iff {elements : List Element} (sublist : elements.Sublist page.order) :
    (∀ element ∈ elements, Meant page lettering links (· ∈ elements) element) ↔
      if links.any Link.isSegment then elements = []
      else ∀ element ∈ elements, ∀ link ∈ links, link.meets page lettering element = true := by
  split
  · next segmented =>
      constructor
      · exact fun meant => eq_nil_of_nested sublist fun element member =>
          inside_of_meant segmented (meant element member)
      · rintro rfl
        simp
  · next plain =>
      have plain : links.any Link.isSegment = false := by simpa using plain
      constructor
      · exact fun meant element member => ((meant_iff_of_plain plain).1 (meant element member)).2
      · exact fun meets element member =>
          (meant_iff_of_plain plain).2 ⟨member, meets element member⟩

end Meaning

end Selector

open Selector in
/-- A filter by text keeps the elements of its base whose text holds the needle, whatever follows
the filter. So if a further segment follows, what is found is never what is meant, unless nothing is
found at all; and with suffixes and filters only, it is what is meant exactly if every element that
is found happens to meet them. There is a mark only for a selector that cannot be cut, for a base
that is not understood, and where a call fails. -/
theorem filtered_by_text_alone {selector : String} {filter : TextFilter}
    (governed : filterOf? selector = some filter) (root : Option Element) {page : Landscape}
    {lettering : Lettering} {start ending : Records} {trace : List Turn}
    {result : Except Fault Resolution}
    (held : (resolve selector root).Held start trace ending result)
    (told : ∀ turn ∈ trace, page.Told turn ∧ lettering.Told turn) :
    ∃ resolution, result = .ok resolution ∧
      ((page.understands selector = true ∧
          resolution = .native selector (page.found selector root)) ∨
        (∃ mark, resolution = .nothing selector mark ∧
          ∀ parts, filter.split selector = some parts → page.understands parts.base = true →
            ∃ turn ∈ trace, turn.Failed) ∨
        ∃ parts text, filter.split selector = some parts ∧ filter.Spells parts.needle text ∧
          selector = parts.base ++ text ++ parts.after ∧
          resolution = .fallback selector
            ((page.found parts.base root).filter (lettering.holds filter parts.needle))
            (filter.effective parts) ∧
          ∀ links, Spelled links parts.after →
            ((∀ element ∈ resolution.elements,
                Meant page lettering links (· ∈ resolution.elements) element) ↔
              if links.any Link.isSegment then resolution.elements = []
              else ∀ element ∈ resolution.elements, ∀ link ∈ links,
                link.meets page lettering element = true)) := by
  obtain ⟨rfl, resolution, rfl, resolved⟩ := resolved_of_held held
  refine ⟨resolution, rfl, ?_⟩
  cases resolved with
  | native =>
      obtain ⟨understood, rfl⟩ := (told _ List.mem_cons_self).1.finds _ _ _ rfl
      exact .inl ⟨understood, rfl⟩
  | broken other =>
      exact .inr (.inl ⟨.error, rfl, fun _ _ _ => ⟨_, List.mem_cons_self, _, _, rfl, fun _ _ _ => other⟩⟩)
  | piecewise _ falls =>
      rw [fallbackFor_of_filter governed] at falls
      have sifted := sifted_of_held falls (List.forall_mem_cons.1 told).2
      cases sifted with
      | uncut mark uncut =>
          refine .inr (.inl ⟨mark, rfl, fun parts split => ?_⟩)
          rw [uncut] at split
          cases split
      | unfounded mark split fails =>
          refine .inr (.inl ⟨mark, rfl, fun parts again understood => ?_⟩)
          obtain rfl := Option.some.inj (split.symm.trans again)
          rcases fails with unknown | ⟨turn, member, failed⟩
          · rw [understood] at unknown
            cases unknown
          · exact ⟨turn, List.mem_cons_of_mem _ member, failed⟩
      | @kept parts split =>
          obtain ⟨-, text, spells, written⟩ := filter.split_sound split
          refine .inr (.inr ⟨parts, text, split, spells, written, rfl, fun links _ => ?_⟩)
          exact all_meant_iff (List.filter_sublist.trans (page.found_sublist parts.base root))

/-! A page on which every container reads alike. -/

def Landscape.lettered (page : Landscape) (lettering : Lettering) : Scene where
  page
    | .query selector root =>
        if page.understands selector then .ok (page.found selector root)
        else .error (.guide (.selectorSyntax selector "unknown"))
    | .text element => .ok (lettering.whole element)
    | .directText element => .ok (lettering.direct element)
    | _ => .error (.page "empty")
  tuning := Scene.unhurried 3

/-- A scene that answers queries as the page does, and tells what is written on it. -/
theorem Landscape.told_of_alike {page : Landscape} {lettering : Lettering} {scene : Scene}
    {turn : Turn} (gave : scene.Gave turn)
    (queries : ∀ selector root,
      scene.page (.query selector root) = page.scene.page (.query selector root))
    (texts : ∀ element, scene.page (.text element) = .ok (lettering.whole element))
    (direct : ∀ element, scene.page (.directText element) = .ok (lettering.direct element)) :
    page.Told turn ∧ lettering.Told turn := by
  refine ⟨⟨?_, ?_⟩, ?_, ?_⟩
  · rintro selector root found rfl
    obtain ⟨records, replied⟩ := gave
    have asked : page.scene.Gave ⟨.page (.query selector root), .ok found⟩ :=
      ⟨records, replied.trans (queries selector root)⟩
    exact (Landscape.told_of_gave asked).finds _ _ _ rfl
  · rintro selector root fault rfl
    obtain ⟨records, replied⟩ := gave
    have asked : page.scene.Gave ⟨.page (.query selector root), .error fault⟩ :=
      ⟨records, replied.trans (queries selector root)⟩
    exact (Landscape.told_of_gave asked).refuses _ _ _ rfl
  · rintro element text rfl
    obtain ⟨_, replied⟩ := gave
    exact Except.ok.inj (replied.trans (texts element))
  · rintro element text rfl
    obtain ⟨_, replied⟩ := gave
    exact Except.ok.inj (replied.trans (direct element))

theorem Landscape.told_of_lettered {page : Landscape} {lettering : Lettering} {turn : Turn}
    (gave : (page.lettered lettering).Gave turn) : page.Told turn ∧ lettering.Told turn :=
  Landscape.told_of_alike gave (fun _ _ => rfl) (fun _ => rfl) fun _ => rfl

def monotone : Lettering where
  whole _ := "a"
  direct _ := ""

theorem nest_filtered :
    ((nest.lettered monotone).outcome (Selector.resolve "div:contains(\"a\") button" none)
      ⟨[], []⟩).1 =
      .ok (.fallback "div:contains(\"a\") button" [1, 3] "div (text contains \"a\")") := by
  rw [Selector.resolve, Selector.resolve.fallbackFor]
  rfl

/-- Both containers are found where the button inside them is meant. -/
theorem nest_segment_dropped :
    ∃ trace after resolution,
      (Selector.resolve "div:contains(\"a\") button" none).Held ⟨[], []⟩ trace after
        (.ok resolution) ∧
      resolution.elements = [1, 3] ∧
      ¬∀ element ∈ resolution.elements, Selector.Meant nest monotone
        [.segment "button"] (· ∈ resolution.elements) element := by
  obtain ⟨trace, held, known⟩ := (nest.lettered monotone).held
    (Selector.resolve "div:contains(\"a\") button" none) ⟨[], []⟩
  have governed : Selector.filterOf? "div:contains(\"a\") button" = some .whole := by decide
  obtain ⟨resolution, same, outcome⟩ := filtered_by_text_alone governed none held
    fun turn member => Landscape.told_of_lettered (known turn member)
  rw [same] at held
  have found : resolution = _ := Except.ok.inj (same.symm.trans nest_filtered)
  refine ⟨trace, _, resolution, held, by rw [found]; rfl, ?_⟩
  rcases outcome with ⟨understood, -⟩ | ⟨mark, marked, -⟩ | ⟨parts, _, split, -, -, -, meant⟩
  · exact absurd understood (by decide)
  · rw [found] at marked
    cases marked
  · have cut : parts = ⟨"div", "a", " button"⟩ := by
      apply Option.some.inj
      rw [← split]
      decide
    subst cut
    have first : (Selector.Link.segment "button").Spells " button" :=
      ⟨⟨by decide, by decide⟩, " ", by decide⟩
    have blank : Text.allBlank "" = true := by decide
    have spelled : Selector.Spelled [.segment "button"] " button" := by
      simpa using Selector.Spelled.link first (.none blank)
    rw [meant _ spelled, found]
    simp [Selector.Link.isSegment, Resolution.fallback]

end Walkthrough
