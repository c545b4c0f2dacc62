import Walkthrough.Proofs.Grouping
import Walkthrough.Proofs.Matching
/-!
What an id selects. The control of a step is looked for by a selector into which the id is put
between double quotes. A page that reads selectors as style sheets have them finds the control that
carries the id, as long as the id is plain. A quote in the id ends the value, and what comes behind
it is read as further tests; a backslash makes it the id of another control.

Main statement: `Guide.id_selects`.
-/

namespace Walkthrough

open Control Run

namespace Css

/-- A text to be put between double quotes, and the value it has there. -/
structure Quoted where
  raw : String
  value : String
  quoted : text? raw = some value

/-- A further test, to be put behind the end of a value. -/
structure Branch extends Quoted where
  name : String
  named : isDataName name = true

def Branch.test (branch : Branch) : Test :=
  .equals branch.name branch.value

def Branch.written (branch : Branch) : String :=
  "\"], [" ++ branch.name ++ "=\"" ++ branch.raw

/-- A text that ends its value by itself and goes on with tests, the last one of them open. -/
def splice (own : Quoted) (more : List Branch) : String :=
  own.raw ++ String.join (more.map Branch.written)

theorem splice_nil (own : Quoted) : splice own [] = own.raw := by
  simp [splice]

theorem normal_splice_cons (own : Quoted) (branch : Branch) (more : List Branch) :
    normal (splice own (branch :: more)).toList = normal own.raw.toList ++ '"' :: ']' :: ',' ::
      ' ' :: openBracket branch.name (normal (splice branch.toQuoted more).toList) := by
  have spelled : (splice own (branch :: more)).toList = own.raw.toList ++ '"' :: ']' :: ',' ::
      ' ' :: openBracket branch.name (splice branch.toQuoted more).toList := by
    simp [splice, Branch.written, openBracket]
  have ended (text : List Char) :
      normal ('"' :: ']' :: ',' :: ' ' :: text) = '"' :: ']' :: ',' :: ' ' :: normal text := rfl
  rw [spelled, normal_append (by simp), ended, normal_openBracket branch.named]

theorem readSelectors_splice {name : String} {rest : List Char} (own : Quoted) (more : List Branch)
    (named : isDataName name = true) (alone : rest.head? ≠ some '[') :
    readSelectors (openBracket name (normal (splice own more).toList ++ '"' :: ']' :: rest)) =
      (readOthers rest).map fun others =>
        ([.equals name own.value] :: more.map fun branch => [branch.test]) ++ others := by
  induction more generalizing name own with
  | nil =>
      rw [splice_nil, readSelectors_openBracket named own.quoted alone]
      rfl
  | cons branch more ih =>
      have behind (text : List Char) :
          openBracket branch.name (normal (splice branch.toQuoted more).toList) ++ text =
            openBracket branch.name (normal (splice branch.toQuoted more).toList ++ text) := by
        simp [openBracket]
      rw [normal_splice_cons, List.append_assoc, List.cons_append, List.cons_append,
        List.cons_append, List.cons_append, behind,
        readSelectors_openBracket named own.quoted (by simp), openBracket, readOthers_comma,
        ← openBracket, ih branch.toQuoted branch.named, Option.map_map]
      rfl

end Css

namespace Guide

open Css

variable {id : String}

theorem toList_idSelector (id : String) :
    (idSelector id).toList = openBracket "data-step-id" (id.toList ++ '"' :: ']' :: ',' :: ' ' ::
      openBracket "data-section-id" (id.toList ++ ['"', ']'])) := by
  have opening : "[data-step-id=\"".toList = '[' :: ("data-step-id".toList ++ ['=', '"']) := by
    decide
  have middle : "\"], [data-section-id=\"".toList =
      '"' :: ']' :: ',' :: ' ' :: '[' :: ("data-section-id".toList ++ ['=', '"']) := by
    decide
  have ending : "\"]".toList = ['"', ']'] := by decide
  unfold idSelector
  rw [String.toList_append, String.toList_append, String.toList_append, String.toList_append,
    opening, middle, ending, openBracket, openBracket]
  simp only [List.cons_append, List.append_assoc, List.nil_append]

theorem normal_idSelector (id : String) :
    normal (idSelector id).toList = openBracket "data-step-id" (normal id.toList ++ '"' :: ']' ::
      ',' :: ' ' :: openBracket "data-section-id" (normal id.toList ++ ['"', ']'])) := by
  have ended (text : List Char) :
      normal ('"' :: ']' :: ',' :: ' ' :: text) = '"' :: ']' :: ',' :: ' ' :: normal text := rfl
  rw [toList_idSelector, normal_openBracket (by decide), normal_append (by simp), ended,
    normal_openBracket (by decide), normal_append (by simp)]
  rfl

theorem read?_splice (own : Quoted) (more : List Branch) :
    read? (idSelector (splice own more)) =
      some (([.equals "data-step-id" own.value] :: more.map fun branch => [branch.test]) ++
        [.equals "data-section-id" own.value] :: more.map fun branch => [branch.test]) := by
  have nothing : readOthers [] = some [] := rfl
  rw [read?, normal_idSelector, readSelectors_splice own more (by decide) (by simp), openBracket,
    readOthers_comma, ← openBracket, readSelectors_splice own more (by decide) (by simp), nothing]
  simp

def idTests (id : String) : Selectors :=
  [[.equals "data-step-id" id], [.equals "data-section-id" id]]

theorem read?_eq_idTests_iff : read? (idSelector id) = some (idTests id) ↔ Plain id := by
  constructor
  · intro read
    rw [read?, normal_idSelector] at read
    obtain ⟨test, rest, bracket, first⟩ := first_of_readSelectors read
    rw [readBracket_openBracket (by decide)] at bracket
    obtain ⟨⟨value, after⟩, reads, closing⟩ := Option.bind_eq_some_iff.1 bracket
    obtain rfl := eq_of_closed closing
    have same : value = id.toList := by
      cases first
      rw [String.toList_ofList]
    -- between the ids there is no letter that a value would not keep
    have plain : (']' :: ',' :: ' ' :: '[' :: ("data-section-id".toList ++ ['='])).all isPlain =
        true := by
      decide
    have behind (text : List Char) : ']' :: ',' :: ' ' :: openBracket "data-section-id" text =
        (']' :: ',' :: ' ' :: '[' :: ("data-section-id".toList ++ ['='])) ++ '"' :: text := by
      simp only [openBracket, List.cons_append, List.append_assoc, List.nil_append]
    rw [same, behind] at reads
    exact plain_of_readValue (List.all_eq_true.1 plain) reads
  · intro plain
    have spliced := read?_splice ⟨id, id, text?_of_plain plain⟩ []
    rwa [splice_nil] at spliced

/-! Looking for a control. -/

/-- A page as it stands: the elements inside a root, in the order of the document, and the
attributes of each element. -/
structure Markup where
  inside : Option Element → List Element
  attributes : Element → List (String × String)

namespace Markup

variable (markup : Markup)

/-- The elements for a selector are those that match it, and attributes are told as they are. -/
def Answers : Turn → Prop
  | ⟨.page (.query selector root), reply⟩ => ∀ selectors, read? selector = some selectors →
      reply = .ok ((markup.inside root).filter fun element =>
        selectors.holds (markup.attributes element))
  | ⟨.page (.attributes element), reply⟩ => reply = .ok (markup.attributes element)
  | _ => True

def found (id : String) (root : Option Element) (passes : List (String × String) → Bool) :
    Except Fault Step :=
  match (markup.inside root).find? fun element => passes (markup.attributes element) with
  | some control => (Step.ofAttributes (markup.attributes control)).mapError Fault.invalid
  | none => .error (.guide (.general ("No interactive step with id " ++ id) "NOT_FOUND"
      [("step_id", .text id)]))

end Markup

def carries (id : String) (attributes : List (String × String)) : Bool :=
  attributeValue attributes "data-step-id" == some id ||
    attributeValue attributes "data-section-id" == some id

theorem holds_idTests (id : String) : (idTests id).holds = carries id := by
  funext attributes
  simp [idTests, Selectors.holds, Test.holds, carries]

section Looking

variable {before after : Records} {trace : List Turn} {result : Except Fault Step}

/-- How a control is looked for in a root: none is found, or the first one is asked for its
attributes. -/
inductive Looked (id : String) (root : Option Element) : List Turn → Except Fault Step → Prop where
  | missing : Looked id root [⟨.page (.query (idSelector id) root), .ok []⟩]
      (.error (.guide (.general ("No interactive step with id " ++ id) "NOT_FOUND"
        [("step_id", .text id)])))
  | first {control : Element} {others : List Element} {attributes : List (String × String)} :
      Looked id root
        [⟨.page (.query (idSelector id) root), .ok (control :: others)⟩,
          ⟨.page (.attributes control), .ok attributes⟩]
        ((Step.ofAttributes attributes).mapError Fault.invalid)

theorem served_reading {control : Element} :
    ((do
      match Step.ofAttributes (← Run.page (.attributes control)) with
      | .ok step => return step
      | .error failure => throw (.invalid failure)) : Run Step).Served before trace after result ↔
      ∃ attributes, trace = [⟨.page (.attributes control), .ok attributes⟩] ∧ after = before ∧
        result = (Step.ofAttributes attributes).mapError Fault.invalid := by
  rw [served_page_bind]
  refine exists_congr fun attributes => ?_
  cases Step.ofAttributes attributes with
  | ok step =>
      constructor
      · rintro ⟨rest, ended, rfl⟩
        obtain ⟨rfl, rfl, rfl⟩ := served_pure.1 ended
        exact ⟨rfl, rfl, rfl⟩
      · rintro ⟨rfl, rfl, rfl⟩
        exact ⟨[], served_pure.2 ⟨rfl, rfl, rfl⟩, rfl⟩
  | error failure =>
      constructor
      · rintro ⟨rest, ended, rfl⟩
        obtain ⟨rfl, rfl, rfl⟩ := served_throw.1 ended
        exact ⟨rfl, rfl, rfl⟩
      · rintro ⟨rfl, rfl, rfl⟩
        exact ⟨[], served_throw.2 ⟨rfl, rfl, rfl⟩, rfl⟩

theorem served_findStep :
    (findStep id).Served before trace after result ↔
      ∃ opening root closing, Rooted opening root ∧ trace = opening ++ closing ∧ after = before ∧
        Looked id root closing result := by
  unfold findStep
  rw [served_bind]
  constructor
  · rintro (⟨root, opening, middle, rest, found, tail, rfl⟩ | ⟨fault, failed, -⟩)
    · obtain ⟨_, rooted, rfl, same⟩ := served_contentRoot.1 found
      cases same
      obtain ⟨controls, closing, picks, rfl⟩ := served_page_bind.1 tail
      cases controls with
      | nil =>
          obtain ⟨rfl, rfl, rfl⟩ := served_throw.1 picks
          exact ⟨opening, root, _, rooted, rfl, rfl, .missing⟩
      | cons control others =>
          obtain ⟨attributes, rfl, rfl, rfl⟩ := served_reading.1 picks
          exact ⟨opening, root, _, rooted, rfl, rfl, .first⟩
    · obtain ⟨_, -, -, same⟩ := served_contentRoot.1 failed
      cases same
  · rintro ⟨opening, root, closing, rooted, rfl, rfl, looked⟩
    refine .inl ⟨root, opening, after, closing, served_contentRoot.2 ⟨root, rooted, rfl, rfl⟩, ?_,
      rfl⟩
    cases looked with
    | missing => exact served_page_bind.2 ⟨[], [], served_throw.2 ⟨rfl, rfl, rfl⟩, rfl⟩
    | @first control others attributes =>
        exact served_page_bind.2
          ⟨control :: others, _, served_reading.2 ⟨attributes, rfl, rfl, rfl⟩, rfl⟩

theorem found_of_looked {markup : Markup} {root : Option Element} {closing : List Turn}
    {selectors : Selectors} (looked : Looked id root closing result)
    (answers : ∀ turn ∈ closing, markup.Answers turn)
    (read : read? (idSelector id) = some selectors) :
    result = markup.found id root selectors.holds := by
  unfold Markup.found
  cases looked with
  | missing =>
      have none := Except.ok.inj (answers _ List.mem_cons_self selectors read)
      rw [List.find?_eq_none.2 fun element member => ?_]
      exact List.filter_eq_nil_iff.1 none.symm element member
  | @first control others attributes =>
      obtain ⟨queried, told⟩ := List.forall_mem_cons.1 answers
      have matching := Except.ok.inj (queried selectors read)
      have own := Except.ok.inj (told _ List.mem_cons_self)
      rw [← List.head?_filter, ← matching, List.head?_cons, own]

end Looking

/-- What an id selects, on a page that reads selectors as style sheets have them. If the id is
plain, the first control that carries it is found, and none if there is no such control. Any other
id that makes a selector finds the first element that matches the selector, which then does not ask
for the id. So an id that ends its value finds a control that carries another id, or passes a test
that is spliced in. -/
theorem id_selects {markup : Markup} {id : String} {before after : Records} {trace : List Turn}
    {result : Except Fault Step} (served : (findStep id).Served before trace after result)
    (answers : ∀ turn ∈ trace, markup.Answers turn) :
    ∃ opening root closing, Rooted opening root ∧ trace = opening ++ closing ∧
      (Plain id → result = markup.found id root (carries id)) ∧
      (∀ selectors, read? (idSelector id) = some selectors →
        result = markup.found id root selectors.holds ∧ (selectors = idTests id ↔ Plain id)) ∧
      ∀ (own : Quoted) (more : List Branch), id = splice own more →
        result = markup.found id root fun attributes =>
          carries own.value attributes || more.any fun branch => branch.test.holds attributes := by
  obtain ⟨opening, root, closing, rooted, rfl, -, looked⟩ := served_findStep.1 served
  have answers : ∀ turn ∈ closing, markup.Answers turn :=
    fun turn member => answers turn (List.mem_append_right _ member)
  refine ⟨opening, root, closing, rooted, rfl, ?_, ?_, ?_⟩
  · intro plain
    rw [← holds_idTests]
    exact found_of_looked looked answers (read?_eq_idTests_iff.2 plain)
  · intro selectors read
    refine ⟨found_of_looked looked answers read, ?_⟩
    rw [← read?_eq_idTests_iff, read, Option.some.injEq]
  · rintro own more rfl
    rw [found_of_looked looked answers (read?_splice own more)]
    refine congrArg _ (funext fun attributes => ?_)
    have each : (more.map fun branch => [branch.test]).any
        (fun tests => tests.all fun test => test.holds attributes) =
          more.any fun branch => branch.test.holds attributes := by
      simp [List.any_map, Function.comp_def]
    simp only [Selectors.holds, List.any_append, List.any_cons, each, List.all_cons, List.all_nil,
      Bool.and_true, holds_equals, carries]
    -- the further tests are asked for behind either of the two values
    generalize (more.any fun branch => branch.test.holds attributes) = further
    cases further <;> simp

def lane : Markup where
  inside _ := [4]
  attributes _ := signpost

def strayId : String :=
  "tour\"], [data-step-id=\"detour"

def detourStep : Step :=
  { detour with custom := [("step-id", "detour")] }

def laneTurns : List Turn :=
  [⟨.settings, Scene.unhurried 3⟩, ⟨.page (.query (idSelector strayId) none), .ok [4]⟩,
    ⟨.page (.attributes 4), .ok signpost⟩]

def strayParts : Quoted × Branch :=
  have plain (raw : String) (plain : Plain raw) : text? raw = some raw := text?_of_plain plain
  (⟨"tour", "tour", plain _ (by decide)⟩,
    ⟨⟨"detour", "detour", plain _ (by decide)⟩, "data-step-id", by decide⟩)

theorem stray_spliced : strayId = splice strayParts.1 [strayParts.2] := by
  decide

theorem lane_answers : ∀ turn ∈ laneTurns, lane.Answers turn := by
  refine List.forall_mem_cons.2 ⟨trivial, List.forall_mem_cons.2 ⟨?_,
    List.forall_mem_cons.2 ⟨rfl, by simp⟩⟩⟩
  intro selectors read
  rw [stray_spliced, read?_splice, Option.some.injEq] at read
  subst read
  rfl

/-- No control carries the id, and the control of the detour is found for it. -/
theorem stray_finds_detour :
    (findStep strayId).Served ⟨[], []⟩ laneTurns ⟨[], []⟩ (.ok detourStep) ∧
      (∀ turn ∈ laneTurns, lane.Answers turn) ∧
      (∀ element, carries strayId (lane.attributes element) = false) ∧
      ∃ root, Except.ok detourStep = lane.found strayId root fun attributes =>
        carries "tour" attributes || Test.holds (.equals "data-step-id" "detour") attributes := by
  have served : (findStep strayId).Served ⟨[], []⟩ laneTurns ⟨[], []⟩ (.ok detourStep) :=
    served_findStep.2 ⟨[⟨.settings, Scene.unhurried 3⟩], none, _, .whole rfl, rfl, rfl,
      @Looked.first strayId none 4 [] signpost⟩
  have uncarried : carries strayId signpost = false := by decide
  obtain ⟨_, root, _, -, -, -, -, spliced⟩ := id_selects served lane_answers
  refine ⟨served, lane_answers, fun _ => uncarried, root, ?_⟩
  rw [spliced _ _ stray_spliced]
  simp [strayParts, Branch.test]

end Guide

end Walkthrough
