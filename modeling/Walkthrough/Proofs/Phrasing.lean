import Walkthrough.Proofs.Assessing
/-!
How expressions are put together and taken apart. A comma between two expressions joins their
checks, and the checks of an expression written one behind the other are the same checks again. Of
the names that a check may have, one at most stands in a text, although some of them begin alike; so
it does not matter in which order they are tried.
Main statement: `expressions_compose`.
-/

namespace Walkthrough

theorem find?_eq_some_of_unique {α : Type} {wanted : α → Bool} {items : List α} {item : α}
    (member : item ∈ items) (holds : wanted item = true)
    (unique : ∀ other ∈ items, wanted other = true → other = item) :
    items.find? wanted = some item := by
  cases found : items.find? wanted with
  | none => exact absurd holds (List.find?_eq_none.1 found item member)
  | some other =>
      have same := unique other (List.mem_of_find?_eq_some found) (List.find?_some found)
      rw [same]

namespace Requirement

open Text

/-! The names of checks in a text. -/

def Kind.named : List Kind :=
  Kind.bare ++ Kind.withArgument

def Kind.form (kind : Kind) : List Char :=
  if kind.takesArgument then kind.mark else kind.name.toList

/-- The text is the bare name of a kind, or it begins with the name and the colon. -/
def Kind.Matches (kind : Kind) (text : List Char) : Prop :=
  if kind.takesArgument then kind.form <+: text else text = kind.form

section Matching

variable {kind other : Kind} {raw : List Char}

theorem takesArgument_iff : kind.takesArgument = true ↔ kind ∈ Kind.withArgument := by
  simp [Kind.takesArgument]

theorem takesArgument_of_bare : ∀ kind ∈ Kind.bare, kind.takesArgument = false := by
  decide

/-- No form begins another one: a shorter name has its colon where the longer one goes on. -/
theorem form_distinct : ∀ kind ∈ Kind.named, ∀ other ∈ Kind.named,
    kind.form.isPrefixOf other.form = true → kind = other := by
  decide +kernel

theorem Kind.Matches.starts (matched : kind.Matches raw) : kind.form <+: raw := by
  unfold Kind.Matches at matched
  split at matched
  · exact matched
  · exact matched ▸ List.prefix_rfl

theorem matches_unique (listed : kind ∈ Kind.named) (also : other ∈ Kind.named)
    (here : kind.Matches raw) (there : other.Matches raw) : kind = other := by
  rcases List.prefix_or_prefix_of_prefix here.starts there.starts with starts | starts
  · exact form_distinct kind listed other also (List.isPrefixOf_iff_prefix.2 starts)
  · exact (form_distinct other also kind listed (List.isPrefixOf_iff_prefix.2 starts)).symm

theorem matches_of_bare (bare : kind ∈ Kind.bare) :
    kind.Matches raw ↔ raw = kind.name.toList := by
  simp [Kind.Matches, Kind.form, takesArgument_of_bare kind bare]

theorem matches_of_takesArgument (takes : kind.takesArgument = true) :
    kind.Matches raw ↔ kind.mark <+: raw := by
  simp [Kind.Matches, Kind.form, takes]

end Matching

/-! Reading one check. -/

def parseTrying (order : List Kind) (raw : List Char) : Requirement :=
  match Kind.bare.find? fun kind => kind.name.toList == raw with
  | some kind => ⟨kind, String.ofList raw, ""⟩
  | none =>
      match order.find? fun kind => kind.mark.isPrefixOf raw with
      | some kind =>
          ⟨kind, String.ofList raw, String.ofList (trimChars (raw.drop kind.mark.length))⟩
      | none => ⟨.unknown, String.ofList raw, ""⟩

section Reading

variable {kind : Kind} {raw : List Char} {order : List Kind}

theorem find?_mark (arranged : order.Perm Kind.withArgument) (takes : kind.takesArgument = true)
    (starts : kind.mark <+: raw) :
    (order.find? fun other => other.mark.isPrefixOf raw) = some kind := by
  have listed := takesArgument_iff.1 takes
  apply find?_eq_some_of_unique (arranged.mem_iff.2 listed) (List.isPrefixOf_iff_prefix.2 starts)
  intro other member begins
  have known := arranged.mem_iff.1 member
  have matched := (matches_of_takesArgument (takesArgument_iff.2 known)).2
    (List.isPrefixOf_iff_prefix.1 begins)
  exact matches_unique (List.mem_append_right _ known) (List.mem_append_right _ listed) matched
    ((matches_of_takesArgument takes).2 starts)

theorem find?_bare (takes : kind.takesArgument = true) (starts : kind.mark <+: raw) :
    (Kind.bare.find? fun other => other.name.toList == raw) = none := by
  rw [List.find?_eq_none]
  intro other member same
  have matched := (matches_of_bare member).2 (beq_iff_eq.1 same).symm
  have listed := List.mem_append_right Kind.bare (takesArgument_iff.1 takes)
  obtain rfl := matches_unique (List.mem_append_left _ member) listed matched
    ((matches_of_takesArgument takes).2 starts)
  rw [takesArgument_of_bare _ member] at takes
  cases takes

theorem parseTrying_perm (arranged : order.Perm Kind.withArgument) :
    parseTrying order raw = parseChars raw := by
  have same : (order.find? fun kind => kind.mark.isPrefixOf raw) =
      Kind.withArgument.find? fun kind => kind.mark.isPrefixOf raw := by
    cases found : Kind.withArgument.find? fun kind => kind.mark.isPrefixOf raw with
    | none =>
        rw [List.find?_eq_none] at found ⊢
        exact fun kind member => found kind (arranged.mem_iff.1 member)
    | some kind =>
        have takes := takesArgument_iff.2 (List.mem_of_find?_eq_some found)
        have begins := List.find?_some found
        exact find?_mark arranged takes (List.isPrefixOf_iff_prefix.1 begins)
  unfold parseTrying
  rw [same]
  rfl

theorem parseChars_of_mark (takes : kind.takesArgument = true) (rest : List Char) :
    parseChars (kind.mark ++ rest) =
      ⟨kind, String.ofList (kind.mark ++ rest), String.ofList (trimChars rest)⟩ := by
  have starts := List.prefix_append kind.mark rest
  unfold parseChars
  rw [find?_bare takes starts, find?_mark (List.Perm.refl _) takes starts]
  simp

theorem mark_of_kind (takes : kind.takesArgument = true) (same : (parseChars raw).kind = kind) :
    kind.mark <+: raw := by
  unfold parseChars at same
  split at same
  · next bare found =>
      -- a bare name takes no argument
      subst same
      rw [takesArgument_of_bare _ (List.mem_of_find?_eq_some found)] at takes
      cases takes
  · split at same
    · next listed found =>
        subst same
        have begins := List.find?_some found
        exact List.isPrefixOf_iff_prefix.1 begins
    · subst same
      cases takes

end Reading

/-! Reading an expression. -/

section Joining

variable {item : List Char} {items : List (List Char)}

/-- A check as it stands in an expression: without commas, and without blanks around it. -/
structure Item (item : List Char) : Prop where
  plain : ∀ letter ∈ item, (letter == ',') = false
  trimmed : trimChars item = item
  filled : item ≠ []

theorem parseAll_single {text : String} (plain : ∀ letter ∈ text.toList, (letter == ',') = false)
    (visible : allBlank text = false) : parseAll text = [parse text] := by
  rw [allBlank] at visible
  rw [parseAll, cut_of_plain plain]
  simp [visible, parse]

theorem parseAll_item (proper : Item item) :
    parseAll (String.ofList item) = [parseChars item] := by
  have visible : allBlank (String.ofList item) = false := by
    apply eq_false_of_ne_true
    intro blank
    apply proper.filled
    rw [allBlank, String.toList_ofList, ← trimChars_eq_nil_iff, proper.trimmed] at blank
    exact blank
  rw [parseAll_single (by simpa using proper.plain) visible, parse, String.toList_ofList,
    proper.trimmed]

theorem parseAll_blank (expression : String) :
    parseAll (" " ++ expression) = parseAll expression := by
  have plain : ∀ letter ∈ [' '], (letter == ',') = false := by simp
  obtain ⟨piece, pieces, whole, behind⟩ := cut_append_of_plain plain expression.toList
  have trims : trimChars (' ' :: piece) = trimChars piece := by
    have dropped : trimLeft (' ' :: piece) = trimLeft piece :=
      List.dropWhile_cons_of_pos (by decide)
    rw [trimChars, dropped, trimChars]
  have blank : (' ' :: piece).all isBlank = piece.all isBlank := by
    simp [show isBlank ' ' = true by decide]
  have spelled : (" " ++ expression).toList = [' '] ++ expression.toList := by simp
  rw [parseAll, parseAll, spelled, behind, whole, List.singleton_append, List.filter_cons,
    List.filter_cons, blank]
  split
  · rw [List.map_cons, List.map_cons, trims]
  · rfl

theorem parseAll_intercalate (proper : ∀ item ∈ items, Item item) :
    parseAll (", ".intercalate (items.map String.ofList)) = items.map parseChars := by
  induction items with
  | nil => rfl
  | cons first others ih =>
      obtain ⟨here, later⟩ := List.forall_mem_cons.1 proper
      cases others with
      | nil => simpa using parseAll_item here
      | cons second rest =>
          have joins (front behind : String) :
              front ++ ", " ++ behind = front ++ "," ++ (" " ++ behind) := by
            simp [← String.toList_inj]
          rw [List.map_cons, List.map_cons, String.intercalate_cons_cons, joins, parseAll_append,
            parseAll_blank, parseAll_item here, ← List.map_cons, ih later]
          rfl

def itemsOf (expression : String) : List (List Char) :=
  ((cut (· == ',') expression.toList).filter fun item => !item.all isBlank).map trimChars

theorem parseAll_eq_map (expression : String) :
    parseAll expression = (itemsOf expression).map parseChars := by
  simp [parseAll, itemsOf, Function.comp_def]

theorem item_of_mem_itemsOf {expression : String} (member : item ∈ itemsOf expression) :
    Item item := by
  obtain ⟨piece, kept, rfl⟩ := List.mem_map.1 member
  obtain ⟨inside, visible⟩ := List.mem_filter.1 kept
  constructor
  · exact fun letter among => plain_of_mem_cut inside letter (trimChars_subset piece among)
  · exact trimChars_trimChars piece
  · intro empty
    rw [trimChars_eq_nil_iff.1 empty] at visible
    cases visible

theorem parseAll_raw (expression : String) :
    (parseAll expression).map Requirement.raw = (itemsOf expression).map String.ofList := by
  rw [parseAll_eq_map, List.map_map]
  exact List.map_congr_left fun item _ => parseChars_raw item

end Joining

/-! Texts. -/

section Texts

variable {kind : Kind} {text rest : String}

theorem mark_plain (takes : kind.takesArgument = true) :
    ∀ letter ∈ kind.mark, isBlank letter = false ∧ (letter == ',') = false := by
  have known : ∀ kind ∈ Kind.withArgument,
      (kind.mark.all fun letter => !isBlank letter && !(letter == ',')) = true := by
    decide +kernel
  intro letter member
  have plain := List.all_eq_true.1 (known kind (takesArgument_iff.1 takes)) letter member
  simpa using plain

def written (kind : Kind) (rest : String) : String :=
  kind.name ++ ":" ++ rest

theorem written_toList (kind : Kind) (rest : String) :
    (written kind rest).toList = kind.mark ++ rest.toList := by
  simp [written, Kind.mark]

theorem parse_written (takes : kind.takesArgument = true) (same : trim text = written kind rest) :
    parse text = ⟨kind, trim text, trim rest⟩ := by
  have spelled : trimChars text.toList = kind.mark ++ rest.toList := by
    rw [← written_toList, ← same, trim, String.toList_ofList]
  rw [parse, spelled, parseChars_of_mark takes, trim, spelled, trim]

theorem parse_of_written (takes : kind.takesArgument = true) (rest : String) :
    parse (written kind rest) = ⟨kind, trim (written kind rest), trim rest⟩ := by
  have known := mark_plain takes
  have trims : trimChars ([] ++ (kind.mark ++ rest.toList)) = kind.mark ++ trimRight rest.toList :=
    trimChars_around rfl (by simp [Kind.mark]) (fun letter member => (known letter member).1) _
  rw [List.nil_append, ← written_toList] at trims
  rw [parse, trim, trims, parseChars_of_mark takes, trimChars_trimRight, trim]

theorem parseAll_of_written (takes : kind.takesArgument = true) (plain : ',' ∉ rest.toList) :
    parseAll (written kind rest) = [⟨kind, trim (written kind rest), trim rest⟩] := by
  have known := mark_plain takes
  have undivided : ∀ letter ∈ (written kind rest).toList, (letter == ',') = false := by
    intro letter member
    rw [written_toList] at member
    rcases List.mem_append.1 member with inside | behind
    · exact (known letter inside).2
    · rw [beq_eq_false_iff_ne]
      rintro rfl
      exact plain behind
  have colon : ':' ∈ (written kind rest).toList := by simp [written_toList, Kind.mark]
  have visible : allBlank (written kind rest) = false := by
    apply eq_false_of_ne_true
    intro blank
    exact absurd (List.all_eq_true.1 blank ':' colon) (by decide)
  rw [parseAll_single undivided visible, parse_of_written takes]

theorem kind_parse_iff (takes : kind.takesArgument = true) :
    (parse text).kind = kind ↔ ∃ rest, trim text = written kind rest := by
  constructor
  · intro same
    obtain ⟨rest, spelled⟩ := mark_of_kind takes same
    refine ⟨String.ofList rest, ?_⟩
    rw [← String.toList_inj, written_toList, trim, String.toList_ofList, String.toList_ofList,
      spelled]
  · rintro ⟨rest, same⟩
    rw [parse_written takes same]

end Texts

/-- A comma joins checks, and the texts of the checks of an expression, joined by commas, make the
same checks. An expression is read item by item. In a text stands one name at most that a check may
have, so that the order does not matter in which names are tried; and a check takes an argument
exactly if its text is a name and a colon, with what follows as the argument. -/
theorem expressions_compose :
    (∀ left right, parseAll (left ++ "," ++ right) = parseAll left ++ parseAll right) ∧
    (∀ expression,
      parseAll (", ".intercalate ((parseAll expression).map Requirement.raw)) =
        parseAll expression) ∧
    (∀ expression, parseAll expression =
      ((split ',' expression).filter fun item => !allBlank item).map parse) ∧
    (∀ kind ∈ Kind.named, ∀ other ∈ Kind.named, ∀ text,
      kind.Matches text → other.Matches text → kind = other) ∧
    (∀ order, order.Perm Kind.withArgument → ∀ text,
      parseTrying order (trimChars text.toList) = parse text) ∧
    ∀ kind, kind.takesArgument = true → ∀ text,
      ((parse text).kind = kind ↔ ∃ rest, trim text = kind.name ++ ":" ++ rest) ∧
      ∀ rest, trim text = kind.name ++ ":" ++ rest → (parse text).argument = trim rest := by
  refine ⟨parseAll_append, fun expression => ?_, fun expression => ?_, ?_, ?_, ?_⟩
  · rw [parseAll_raw, parseAll_intercalate fun _ => item_of_mem_itemsOf, ← parseAll_eq_map]
  · simp [parseAll, split, allBlank, parse, List.filter_map, Function.comp_def]
  · exact fun kind listed other also text => matches_unique listed also
  · exact fun order arranged text => parseTrying_perm arranged
  · intro kind takes text
    refine ⟨kind_parse_iff takes, fun rest same => ?_⟩
    rw [parse_written takes same]

/-- A name that goes on like another one, a colon in the argument, and names that are tried from
the last one on. -/
theorem sources_read :
    (parse "\thas-datasource: a:b").kind = .hasDataSource ∧
      (parse "\thas-datasource: a:b").argument = "a:b" ∧
      parseTrying Kind.withArgument.reverse (trimChars "\thas-datasource: a:b".toList) =
        parse "\thas-datasource: a:b" ∧
      parseAll ("has-datasources , ," ++ "," ++ "\thas-datasource: a:b") =
        [⟨.hasDataSources, "has-datasources", ""⟩,
          ⟨.hasDataSource, "has-datasource: a:b", "a:b"⟩] := by
  obtain ⟨joins, -, -, -, orders, takes⟩ := expressions_compose
  obtain ⟨kinds, arguments⟩ := takes .hasDataSource rfl "\thas-datasource: a:b"
  have spelled : trim "\thas-datasource: a:b" = Kind.hasDataSource.name ++ ":" ++ " a:b" := by
    decide
  refine ⟨kinds.2 ⟨_, spelled⟩, arguments _ spelled, ?_, ?_⟩
  · exact orders _ (List.reverse_perm _) _
  · rw [joins]
    decide

end Requirement

end Walkthrough
