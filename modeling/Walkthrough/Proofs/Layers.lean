import Mathlib
import Walkthrough.Config.Sources
import Walkthrough.Proofs.Validity
/-!
Which value every setting takes: that of its variable in the environment, or else that of the table
in the settings file, or else the default. A setting depends on nothing else, and only the values
that are taken have to be convertible.
Main statement: `load_by_precedence`.
-/

namespace Walkthrough

namespace Config

open Text

/-! The variables. -/

def settingOf? (label : String) : Option String :=
  if variableMark.isPrefixOf label.toList then
    some (String.ofList (lowerChars (label.toList.drop variableMark.length)))
  else none

def Unambiguous (environment : List (String × String)) : Prop :=
  environment.Pairwise fun first second =>
    ∀ name, settingOf? first.1 = some name → settingOf? second.1 ≠ some name

def givenBy? (entry : String × String) : Option (String × Setting) :=
  (settingOf? entry.1).map fun name => (name, .value (.text entry.2))

variable {environment : List (String × String)} {table : List (String × Setting)}
variable {name : String}

theorem ofVariables_eq (environment : List (String × String)) :
    ofVariables environment = override [] (environment.filterMap givenBy?) := by
  rw [override, List.foldl_filterMap]
  unfold ofVariables
  congr 1
  -- a variable for no setting is left out on both sides
  funext given entry
  simp only [givenBy?, settingOf?]
  split <;> rfl

theorem nodup_names_givenBy (distinct : Unambiguous environment) :
    (Fields.names (environment.filterMap givenBy?)).Nodup := by
  rw [Fields.names, List.Nodup, List.pairwise_map, List.pairwise_filterMap]
  refine distinct.imp ?_
  intro first second apart given found other known same
  obtain ⟨name, own, rfl⟩ := Option.map_eq_some_iff.1 found
  obtain ⟨again, others, rfl⟩ := Option.map_eq_some_iff.1 known
  exact apart name own (others.trans (congrArg some same.symm))

theorem lookup_ofVariables_eq_some_iff (distinct : Unambiguous environment) {given : Setting} :
    Fields.lookup (ofVariables environment) name = some given ↔
      ∃ label content, (label, content) ∈ environment ∧ settingOf? label = some name ∧
        given = .value (.text content) := by
  have apart := nodup_names_givenBy distinct
  rw [ofVariables_eq, override, Fields.lookup_foldl_assign apart, Fields.lookup_nil, Option.or_none,
    Fields.lookup_eq_some_iff apart]
  simp only [List.mem_filterMap, givenBy?, Option.map_eq_some_iff, Prod.mk.injEq, Prod.exists]
  constructor
  · rintro ⟨label, content, member, known, own, rfl, rfl⟩
    exact ⟨label, content, member, own, rfl⟩
  · rintro ⟨label, content, member, own, rfl⟩
    exact ⟨label, content, member, name, own, rfl, rfl⟩

/-! What is taken. -/

/-- What the value of a setting is made into. -/
inductive Conversion where
  | whole
  | count
  | truth
  | text
  | address
  | real
  | path
deriving DecidableEq, Repr

def Conversion.convert : Conversion → Setting → Except Misuse Json
  | whole, given => given.toInteger.map .int
  | count, given => given.toInteger.map fun number => .int (max 1 number)
  | truth, given => given.toTruth.map .bool
  | text, given => given.toText.map .text
  | address, given => given.toText.map fun text => .text (trimRightOf (· = '/') text)
  | real, given => given.toReal.map .float
  | path, given => given.toPath.map .text

def conversions : List (String × Conversion) :=
  [("highlight_duration_ms", .whole), ("settle_ms", .whole), ("retry_max", .count),
   ("retry_delay_ms", .whole), ("show_only_step_delay_ms", .whole), ("preview_settle_ms", .whole),
   ("action_delay_ms", .whole), ("state_change_delay_ms", .whole),
   ("multistep_show_delay_ms", .whole), ("multistep_step_delay_ms", .whole),
   ("requirement_timeout_ms", .whole), ("unknown_requirements_pass", .truth),
   ("navmenu_selector", .text), ("content_root_selector", .text), ("grafana_url", .address),
   ("grafana_token", .text), ("http_timeout_s", .real), ("cache_ttl_seconds", .real),
   ("log_root", .path)]

def defaultOf (name : String) : Json :=
  (Fields.lookup standard.payload name).getD .null

theorem names_payload (config : Config) : Fields.names config.payload = Fields.names conversions :=
  rfl

/-- The value that a setting takes from its variable, or else from the table, or else by default. -/
inductive Takes (environment : List (String × String)) (table : List (String × Setting))
    (name : String) : Setting → Prop where
  | ofVariable {label content} (member : (label, content) ∈ environment)
      (own : settingOf? label = some name) : Takes environment table name (.value (.text content))
  | ofTable {given} (unset : ∀ entry ∈ environment, settingOf? entry.1 ≠ some name)
      (found : Fields.lookup table name = some given) : Takes environment table name given
  | byDefault (unset : ∀ entry ∈ environment, settingOf? entry.1 ≠ some name)
      (absent : Fields.lookup table name = none) :
      Takes environment table name (.value (defaultOf name))

def merged (environment : List (String × String)) (table : List (String × Setting)) :
    List (String × Setting) :=
  override table (ofVariables environment)

theorem lookup_merged :
    Fields.lookup (merged environment table) name =
      (Fields.lookup (ofVariables environment) name).or (Fields.lookup table name) := by
  apply Fields.lookup_foldl_assign
  rw [ofVariables_eq]
  exact Fields.nodup_names_foldl_assign List.nodup_nil

theorem takes_iff (distinct : Unambiguous environment) {given : Setting} :
    Takes environment table name given ↔
      setting (merged environment table) name (defaultOf name) = given := by
  have unset_iff : Fields.lookup (ofVariables environment) name = none ↔
      ∀ entry ∈ environment, settingOf? entry.1 ≠ some name := by
    rw [Option.eq_none_iff_forall_ne_some]
    constructor
    · intro none entry member own
      exact none _ ((lookup_ofVariables_eq_some_iff distinct).2 ⟨_, _, member, own, rfl⟩)
    · intro unset given found
      obtain ⟨_, _, member, own, -⟩ := (lookup_ofVariables_eq_some_iff distinct).1 found
      exact unset _ member own
  rw [setting, lookup_merged]
  constructor
  · rintro (⟨member, own⟩ | ⟨unset, found⟩ | ⟨unset, absent⟩)
    · rw [(lookup_ofVariables_eq_some_iff distinct).2 ⟨_, _, member, own, rfl⟩]
      rfl
    · rw [unset_iff.2 unset, found]
      rfl
    · rw [unset_iff.2 unset, absent]
      rfl
  · rintro rfl
    -- where the value is found first is where it is taken from
    cases told : Fields.lookup (ofVariables environment) name with
    | some given =>
        obtain ⟨label, content, member, own, rfl⟩ :=
          (lookup_ofVariables_eq_some_iff distinct).1 told
        exact .ofVariable member own
    | none =>
        have unset := unset_iff.1 told
        cases filed : Fields.lookup table name with
        | some given => exact .ofTable unset filed
        | none => exact .byDefault unset filed

/-! From what is taken to the settings. -/

section Conversions

variable {α β : Type} {change : α → Except Misuse β} {items : List α}

theorem map_eq_bind (value : Except Misuse α) (change : α → β) :
    value.map change = value >>= fun found => pure (change found) := by
  cases value <;> rfl

theorem mapM_eq_error_iff :
    (∃ cause, items.mapM change = .error cause) ↔
      ∃ item ∈ items, ∃ cause, change item = .error cause := by
  induction items with
  | nil => simp [pure, Except.pure]
  | cons item rest ih =>
      rw [List.mapM_cons, List.exists_mem_cons_iff, ← ih]
      cases change item with
      | error cause => simp [bind, Except.bind]
      | ok found => cases rest.mapM change <;> simp [bind, Except.bind, pure, Except.pure]

theorem mem_of_mapM_eq_ok {results : List β} (mapped : items.mapM change = .ok results) {item : α}
    (member : item ∈ items) : ∃ result ∈ results, change item = .ok result := by
  induction items generalizing results with
  | nil => cases member
  | cons head rest ih =>
      rw [List.mapM_cons] at mapped
      cases first : change head with
      | error cause => simp [first, bind, Except.bind] at mapped
      | ok found =>
          cases others : rest.mapM change with
          | error cause => simp [first, others, bind, Except.bind] at mapped
          | ok tail =>
              simp only [first, others, bind, Except.bind, pure, Except.pure,
                Except.ok.injEq] at mapped
              subst mapped
              rcases List.mem_cons.1 member with rfl | later
              · exact ⟨found, List.mem_cons_self, first⟩
              · obtain ⟨result, among, same⟩ := ih others later
                exact ⟨result, List.mem_cons_of_mem _ among, same⟩

theorem mapM_congr {other : α → Except Misuse β}
    (same : ∀ item ∈ items, change item = other item) :
    items.mapM change = items.mapM other := by
  induction items with
  | nil => rfl
  | cons item rest ih =>
      obtain ⟨first, others⟩ := List.forall_mem_cons.1 same
      rw [List.mapM_cons, List.mapM_cons, first, ih others]

end Conversions

/-- A field of the settings: its conversion applied to what is taken for it. -/
def fieldFrom (given : List (String × Setting)) (entry : String × Conversion) :
    Except Misuse (String × Json) :=
  (entry.2.convert (setting given entry.1 (defaultOf entry.1))).map fun shown => (entry.1, shown)

theorem payload_ofSettings (given : List (String × Setting)) :
    (ofSettings given).map payload = conversions.mapM (fieldFrom given) := by
  unfold ofSettings conversions
  simp only [List.mapM_cons, List.mapM_nil, fieldFrom, Conversion.convert, map_eq_bind, bind_assoc,
    pure_bind]
  rfl

theorem payload_injective : Function.Injective payload := by
  intro first second same
  cases first
  cases second
  simpa [payload] using same

theorem ofSettings_congr {given other : List (String × Setting)}
    (same : ∀ entry ∈ conversions,
      setting given entry.1 (defaultOf entry.1) = setting other entry.1 (defaultOf entry.1)) :
    ofSettings given = ofSettings other := by
  have mapped : (ofSettings given).map payload = (ofSettings other).map payload := by
    rw [payload_ofSettings, payload_ofSettings]
    apply mapM_congr
    intro entry member
    rw [fieldFrom, fieldFrom, same entry member]
  cases first : ofSettings given <;> cases second : ofSettings other <;>
    simp_all [Except.map, payload_injective.eq_iff]

theorem lookup_payload_of_taken {given : List (String × Setting)} {config : Config}
    (made : ofSettings given = .ok config) {name : String} {conversion : Conversion}
    (listed : (name, conversion) ∈ conversions) :
    ∃ shown, conversion.convert (setting given name (defaultOf name)) = .ok shown ∧
      Fields.lookup config.payload name = some shown := by
  have mapped := payload_ofSettings given
  rw [made] at mapped
  obtain ⟨field, member, converted⟩ := mem_of_mapM_eq_ok mapped.symm listed
  rw [fieldFrom, map_eq_bind] at converted
  cases result : conversion.convert (setting given name (defaultOf name)) with
  | error cause => simp [result, bind, Except.bind] at converted
  | ok shown =>
      simp only [result, bind, Except.bind, pure, Except.pure, Except.ok.injEq] at converted
      subst converted
      have distinct : (Fields.names config.payload).Nodup := by
        rw [names_payload]
        decide
      exact ⟨shown, rfl, Fields.lookup_of_mem distinct member⟩

/-- A setting depends on what is taken for it, whatever is taken for the others. -/
theorem lookup_payload_congr {given other : List (String × Setting)} {config otherConfig : Config}
    (made : ofSettings given = .ok config) (otherMade : ofSettings other = .ok otherConfig)
    (same : setting given name (defaultOf name) = setting other name (defaultOf name)) :
    Fields.lookup config.payload name = Fields.lookup otherConfig.payload name := by
  by_cases listed : name ∈ Fields.names conversions
  · obtain ⟨⟨_, conversion⟩, member, rfl⟩ := List.mem_map.1 listed
    obtain ⟨shown, converted, known⟩ := lookup_payload_of_taken made member
    obtain ⟨otherShown, otherConverted, otherKnown⟩ := lookup_payload_of_taken otherMade member
    rw [← same, converted] at otherConverted
    cases otherConverted
    rw [known, otherKnown]
  · -- a name of no setting is found in neither
    rw [Fields.lookup_eq_none_iff.2 (by rwa [names_payload]),
      Fields.lookup_eq_none_iff.2 (by rwa [names_payload])]

theorem getLast_trimRightOf (text : String) :
    (trimRightOf (· = '/') text).toList.getLast? ≠ some '/' := by
  have cuts : (trimRightOf (· = '/') text).toList =
      text.toList.rdropWhile (fun letter => decide (letter = '/')) := by
    simp [trimRightOf, List.rdropWhile]
  rw [cuts]
  intro last
  have filled := List.ne_nil_of_mem (List.mem_of_getLast? last)
  have other := List.rdropWhile_last_not (fun letter => decide (letter = '/')) text.toList filled
  rw [List.getLast_eq_iff_getLast?_eq_some filled |>.2 last] at other
  exact other rfl

theorem bounds_of_ofSettings {given : List (String × Setting)} {config : Config}
    (made : ofSettings given = .ok config) :
    1 ≤ config.retryMax ∧ config.serverUrl.toList.getLast? ≠ some '/' := by
  obtain ⟨count, retries, known⟩ :=
    lookup_payload_of_taken made
      (show ("retry_max", Conversion.count) ∈ conversions by decide)
  obtain ⟨address, url, shown⟩ :=
    lookup_payload_of_taken made
      (show ("grafana_url", Conversion.address) ∈ conversions by decide)
  obtain rfl : Json.int config.retryMax = count := Option.some.inj known
  obtain rfl : Json.text config.serverUrl = address := Option.some.inj shown
  constructor
  · rw [Conversion.convert, map_eq_bind] at retries
    cases whole : (setting given "retry_max" (defaultOf "retry_max")).toInteger with
    | error cause => simp [whole, bind, Except.bind] at retries
    | ok number =>
        simp only [whole, bind, Except.bind, pure, Except.pure, Except.ok.injEq,
          Json.int.injEq] at retries
        omega
  · rw [Conversion.convert, map_eq_bind] at url
    cases written : (setting given "grafana_url" (defaultOf "grafana_url")).toText with
    | error cause => simp [written, bind, Except.bind] at url
    | ok text =>
        simp only [written, bind, Except.bind, pure, Except.pure, Except.ok.injEq,
          Json.text.injEq] at url
        rw [← url]
        exact getLast_trimRightOf text

/-! The main statement. -/

theorem load_eq {file : Option String} (found : guideTable file = .ok table) :
    load environment file = (ofSettings (merged environment table)).mapError .misuse := by
  rw [load, found]
  dsimp only [merged]
  split <;> simp_all [Except.mapError]

theorem ofSettings_of_load {file : Option String} (found : guideTable file = .ok table)
    {config : Config} (made : load environment file = .ok config) :
    ofSettings (merged environment table) = .ok config := by
  rw [load_eq found] at made
  cases settled : ofSettings (merged environment table) with
  | error cause => simp [settled, Except.mapError] at made
  | ok known => simpa [settled, Except.mapError] using made

theorem existsUnique_takes (distinct : Unambiguous environment) :
    ∃! given, Takes environment table name given :=
  ⟨_, (takes_iff distinct).2 rfl, fun _ takes => ((takes_iff distinct).1 takes).symm⟩

/-- The settings cannot be made exactly if some value that is taken cannot be converted. -/
theorem ofSettings_eq_error_iff {given : List (String × Setting)} :
    (∃ cause, ofSettings given = .error cause) ↔ ∃ entry ∈ conversions, ∃ cause,
      entry.2.convert (setting given entry.1 (defaultOf entry.1)) = .error cause := by
  have failed_iff {α β : Type} (value : Except Misuse α) (change : α → β) :
      (∃ cause, value.map change = .error cause) ↔ ∃ cause, value = .error cause := by
    cases value <;> simp [Except.map]
  rw [← failed_iff _ payload, payload_ofSettings, mapM_eq_error_iff]
  exact exists_congr fun entry => and_congr_right fun _ => failed_iff _ _

theorem load_eq_error_iff {file : Option String} (found : guideTable file = .ok table)
    (distinct : Unambiguous environment) :
    (∃ error, load environment file = .error error) ↔
      ∃ name conversion given cause, (name, conversion) ∈ conversions ∧
        Takes environment table name given ∧ conversion.convert given = .error cause := by
  constructor
  · rintro ⟨error, failed⟩
    have unmade : ∃ cause, ofSettings (merged environment table) = .error cause := by
      rw [load_eq found] at failed
      cases made : ofSettings (merged environment table) with
      | error cause => exact ⟨cause, rfl⟩
      | ok config => simp [made, Except.mapError] at failed
    obtain ⟨⟨name, conversion⟩, listed, cause, failed⟩ := ofSettings_eq_error_iff.1 unmade
    exact ⟨name, conversion, _, cause, listed, (takes_iff distinct).2 rfl, failed⟩
  · rintro ⟨name, conversion, given, cause, listed, takes, failed⟩
    obtain rfl := (takes_iff distinct).1 takes
    obtain ⟨reason, unmade⟩ := ofSettings_eq_error_iff.2 ⟨_, listed, cause, failed⟩
    exact ⟨.misuse reason, by rw [load_eq found, unmade, Except.mapError]⟩

/-- Every setting takes one value, that of its variable, or else that of the table, or else the
default, and is what this value is converted to. The settings cannot be loaded exactly if some
value that is taken cannot be converted. Neither the other values nor other names play a part, for
the settings as a whole and for each of them. -/
theorem load_by_precedence {file : Option String} (found : guideTable file = .ok table)
    (distinct : Unambiguous environment) :
    (∀ name, ∃! given, Takes environment table name given) ∧
    ((∃ error, load environment file = .error error) ↔
      ∃ name conversion given cause, (name, conversion) ∈ conversions ∧
        Takes environment table name given ∧ conversion.convert given = .error cause) ∧
    (∀ config, load environment file = .ok config →
      1 ≤ config.retryMax ∧ config.serverUrl.toList.getLast? ≠ some '/' ∧
      ∀ name conversion given, (name, conversion) ∈ conversions →
        Takes environment table name given → ∃ shown, conversion.convert given = .ok shown ∧
          Fields.lookup config.payload name = some shown) ∧
    ∀ otherEnvironment otherTable otherFile, guideTable otherFile = .ok otherTable →
      Unambiguous otherEnvironment →
      ((∀ name ∈ Fields.names conversions, ∀ given,
        Takes environment table name given → Takes otherEnvironment otherTable name given) →
        load otherEnvironment otherFile = load environment file) ∧
      ∀ config otherConfig name, load environment file = .ok config →
        load otherEnvironment otherFile = .ok otherConfig →
        (∀ given, Takes environment table name given →
          Takes otherEnvironment otherTable name given) →
        Fields.lookup otherConfig.payload name = Fields.lookup config.payload name := by
  refine ⟨fun name => existsUnique_takes distinct, load_eq_error_iff found distinct, ?_, ?_⟩
  · intro config made
    have settled := ofSettings_of_load found made
    obtain ⟨count, address⟩ := bounds_of_ofSettings settled
    refine ⟨count, address, ?_⟩
    intro name conversion given listed takes
    obtain rfl := (takes_iff distinct).1 takes
    exact lookup_payload_of_taken settled listed
  · intro otherEnvironment otherTable otherFile otherFound otherDistinct
    have settled_eq {name : String} (agree : ∀ given, Takes environment table name given →
        Takes otherEnvironment otherTable name given) :
        setting (merged otherEnvironment otherTable) name (defaultOf name) =
          setting (merged environment table) name (defaultOf name) :=
      (takes_iff otherDistinct).1 (agree _ ((takes_iff distinct).2 rfl))
    constructor
    · intro agree
      rw [load_eq found, load_eq otherFound]
      congr 1
      exact ofSettings_congr fun entry member => settled_eq (agree _ (List.mem_map_of_mem member))
    · intro config otherConfig name made otherMade agree
      exact lookup_payload_congr (ofSettings_of_load otherFound otherMade)
        (ofSettings_of_load found made) (settled_eq agree)

/-! A camp: the file has a count that is none, but a variable goes before it, and another variable
is for no setting. -/

def campFile : String :=
  "[guide]\nretry_max = \"many\"\naction_delay_ms = 10\ngrafana_url = \"http://camp/\"\n"

def campTable : List (String × Setting) :=
  [("retry_max", .value (.text "many")), ("action_delay_ms", .value (.int 10)),
   ("grafana_url", .value (.text "http://camp/"))]

def campVariables : List (String × String) :=
  [("GUIDE_RETRY_MAX", "0"), ("HOME", "/camp"), ("GUIDE_COLOUR", "blue")]

theorem camp_named :
    campVariables.map (fun entry => settingOf? entry.1) =
      [some "retry_max", none, some "colour"] := by
  cbv

theorem camp_unambiguous : Unambiguous campVariables := by
  have named := camp_named
  simp only [campVariables, List.map_cons, List.map_nil, List.cons.injEq, and_true] at named
  simp [Unambiguous, campVariables, named]

theorem camp_settles :
    ofSettings (merged campVariables campTable) = .ok { standard with
      retryMax := 1, actionDelay := 10, serverUrl := "http://camp" } := by
  have given : ofVariables campVariables =
      [("retry_max", .value (.text "0")), ("colour", .value (.text "blue"))] := by cbv
  rw [merged, given]
  rfl

theorem camp_loaded :
    guideTable (some campFile) = .ok campTable ∧ Unambiguous campVariables ∧
      ∃ config, load campVariables (some campFile) = .ok config ∧
        Takes campVariables campTable "retry_max" (.value (.text "0")) ∧
        Fields.lookup config.payload "retry_max" = some (.int 1) ∧
        Takes campVariables campTable "grafana_url" (.value (.text "http://camp/")) ∧
        Fields.lookup config.payload "grafana_url" = some (.text "http://camp") := by
  have found : guideTable (some campFile) = .ok campTable := by cbv
  obtain ⟨-, -, fields, -⟩ := load_by_precedence found camp_unambiguous
  have loaded : load campVariables (some campFile) = _ := load_eq found
  rw [camp_settles, Except.mapError] at loaded
  obtain ⟨-, -, converted⟩ := fields _ loaded
  have retries : Takes campVariables campTable "retry_max" (.value (.text "0")) :=
    .ofVariable List.mem_cons_self (by cbv)
  have unset : ∀ entry ∈ campVariables, settingOf? entry.1 ≠ some "grafana_url" := by
    intro entry member own
    have among := List.mem_map_of_mem (f := fun entry => settingOf? entry.1) member
    rw [camp_named, own] at among
    simp at among
  have address : Takes campVariables campTable "grafana_url" (.value (.text "http://camp/")) :=
    .ofTable unset rfl
  obtain ⟨count, known, shown⟩ := converted _ .count _ (by decide) retries
  obtain ⟨url, plain, told⟩ := converted _ .address _ (by decide) address
  cases known
  cases plain
  exact ⟨found, camp_unambiguous, _, loaded, retries, shown, address, told⟩

end Config

end Walkthrough
