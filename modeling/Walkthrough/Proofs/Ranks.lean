import Walkthrough.Proofs.Casing
import Walkthrough.Proofs.Hearing
/-!
Roles in order. What a server administrator may do and what a role in an organisation allows are
two sources of rights, and not every rank looks at both: a viewer is whoever has some role in the
organisation. So a user who is granted a rank is granted a lower one exactly if the role fits it.
Main statement: `ranked_roles_granted`.
-/

namespace Walkthrough

open Text Requirement

/-- What roles are asked for by name, from the lowest one on. -/
inductive Rank where
  | viewer
  | editor
  | administrator
deriving DecidableEq, Repr

namespace Rank

def names : Rank → List String
  | viewer => ["viewer"]
  | editor => ["editor"]
  | administrator => ["admin", "grafana-admin"]

def height : Rank → Nat
  | viewer => 0
  | editor => 1
  | administrator => 2

def Named (rank : Rank) (text : String) : Prop :=
  lower text ∈ rank.names

instance (rank : Rank) (text : String) : Decidable (rank.Named text) :=
  inferInstanceAs (Decidable (lower text ∈ rank.names))

end Rank

def Grants (user : Json) (required : String) : Prop :=
  roleSatisfies user required = .ok true

section Records

variable (fields : List (String × Json))

/-- The role in the organisation. It is an empty text where none is given, or one that counts as
false. -/
def placement : Json :=
  ((Fields.lookup fields "orgRole").getD .null).orElse (.text "")

def administers : Bool :=
  ((Fields.lookup fields "isGrafanaAdmin").getD .null).truthy

/-- The role in the organisation, if there is any, may be that of somebody of the rank. Only viewers
need one, and only that of editors is looked up among names. -/
def Rank.Fits : Rank → Prop
  | viewer => (placement fields).truthy = true
  | editor => (placement fields).isName = true
  | administrator => True

def Rank.Demands : Rank → Prop
  | viewer => True
  | editor => placement fields ∈ [.text "Editor", .text "Admin"] ∨ administers fields = true
  | administrator => administers fields = true

end Records

section Granting

variable {user : Json} {fields : List (String × Json)} {text : String} {rank low high : Rank}

theorem fits_of_text {content : String} (filled : content ≠ "")
    (given : Fields.lookup fields "orgRole" = some (.text content)) (rank : Rank) :
    rank.Fits fields := by
  have placed : placement fields = .text content := by
    simp [placement, given, Json.orElse, Json.truthy, filled]
  cases rank with
  | viewer => simp [Rank.Fits, placed, Json.truthy, filled]
  | editor => simp [Rank.Fits, placed, Json.isName]
  | administrator => trivial

theorem administrator_granted (named : Rank.administrator.Named text) :
    roleSatisfies (.object fields) text = .ok (administers fields) := by
  have asked : (lower text = "admin" || lower text = "grafana-admin") = true := by
    simpa [Rank.Named, Rank.names] using named
  unfold roleSatisfies
  simp only [asked]
  rfl

theorem editor_granted (named : Rank.editor.Named text) :
    roleSatisfies (.object fields) text =
      ((placement fields).isOneOf ["Editor", "Admin"]).map (· || administers fields) := by
  have asked : lower text = "editor" := List.mem_singleton.1 named
  unfold roleSatisfies
  simp only [asked]
  rfl

theorem viewer_granted (named : Rank.viewer.Named text) :
    roleSatisfies (.object fields) text = .ok (placement fields).truthy := by
  have asked : lower text = "viewer" := List.mem_singleton.1 named
  unfold roleSatisfies
  simp only [asked]
  rfl

theorem grants_object (named : rank.Named text) :
    Grants (.object fields) text ↔ rank.Fits fields ∧ rank.Demands fields := by
  cases rank with
  | viewer => simp [Grants, viewer_granted named, Rank.Fits, Rank.Demands]
  | editor =>
      rw [Grants, editor_granted named, Rank.Fits, Rank.Demands]
      cases placement fields with
      | _ => simp [Json.isOneOf, Json.isName, Except.map]
  | administrator => simp [Grants, administrator_granted named, Rank.Fits, Rank.Demands]

theorem grants_iff (named : rank.Named text) :
    Grants user text ↔
      ∃ fields, user = .object fields ∧ rank.Fits fields ∧ rank.Demands fields := by
  constructor
  · intro granted
    cases user with
    | object fields => exact ⟨fields, rfl, (grants_object named).1 granted⟩
    | _ => cases granted
  · rintro ⟨fields, rfl, demanded⟩
    exact (grants_object named).2 demanded

theorem Rank.Demands.lower (demanded : high.Demands fields) (below : low.height ≤ high.height) :
    low.Demands fields := by
  cases low with
  | viewer => trivial
  | editor =>
      cases high with
      | viewer => exact absurd below (by decide)
      | editor => exact demanded
      | administrator => exact .inr demanded
  | administrator =>
      cases high with
      | viewer | editor => exact absurd below (by decide)
      | administrator => exact demanded

theorem lower_granted {lower upper : String} (below : low.height ≤ high.height)
    (named : low.Named lower) (above : high.Named upper) (granted : Grants user upper) :
    ∃ fields, user = .object fields ∧ (Grants user lower ↔ low.Fits fields) := by
  obtain ⟨fields, rfl, -, demanded⟩ := (grants_iff above).1 granted
  refine ⟨fields, rfl, ?_⟩
  rw [grants_object named]
  exact and_iff_left (demanded.lower below)

/-! The names in an expression. -/

theorem mem_lower_comma (member : ',' ∈ text.toList) : ',' ∈ (lower text).toList := by
  obtain ⟨before, after, whole⟩ := List.append_of_mem member
  rw [lower, String.toList_ofList, lowerChars, whole, lowerFrom_append, lowerFrom]
  simp [lowerBetween]

theorem Rank.comma_of_named (named : rank.Named text) : ',' ∉ text.toList := by
  intro member
  have spelled : ∀ name ∈ rank.names, ',' ∉ name.toList := by
    cases rank with
    | viewer | editor | administrator => decide
  exact spelled _ named (mem_lower_comma member)

theorem Rank.named_argument (named : rank.Named text) : rank.Named (lower (trim text)) := by
  have stays : ∀ name ∈ rank.names, lower (trim name) ∈ rank.names := by
    cases rank with
    | viewer | editor | administrator => decide
  have kept : lower (trim (lower text)) ∈ rank.names := stays _ named
  rwa [trim_lower] at kept

theorem judgeRole_passes (raw wanted : String) :
    (∃ verdict, judgeRole raw wanted user = .ok verdict ∧ verdict.passed = true) ↔
      Grants user (lower wanted) := by
  by_cases known : user = .null
  · rw [known]
    constructor
    · rintro ⟨verdict, failed, passed⟩
      cases failed
      cases passed
    · rintro ⟨⟩
  · have judged : judgeRole raw wanted user = do
        if ← roleSatisfies user (lower wanted) then return Verdict.ok raw .null
        else
          let role := (← user.member "orgRole").orElse (.text "none")
          return Verdict.failed raw
            s!"User role '{role.display}' does not meet requirement '{lower wanted}'" .null := by
      cases user with
      | null => exact absurd rfl known
      | _ => rfl
    rw [judged, Grants]
    cases roleSatisfies user (lower wanted) with
    | error fault => simp [bind, Except.bind]
    | ok granted =>
        cases granted with
        | true => simp [bind, Except.bind, pure, Except.pure, Verdict.ok]
        | false =>
            cases user.member "orgRole" with
            | error fault => simp [bind, Except.bind]
            | ok role => simp [bind, Except.bind, pure, Except.pure, Verdict.failed]

section Checking

variable {σ : Type} {answer : (asked : Request) → StateM σ asked.Answer} {view : σ → Records}

theorem passes_iff_grants (faithful : Faithful answer view) (informed : Informed answer .user user)
    (named : rank.Named text) (situation : σ) (subject : Subject) :
    Passes answer situation ("has-role:" ++ text) subject ↔ Grants user text := by
  have spelling : written .hasRole text = "has-role:" ++ text := by
    rw [written]
    rfl
  have single : parseAll (written .hasRole text) = _ :=
    parseAll_of_written rfl (Rank.comma_of_named named)
  rw [spelling] at single
  generalize trim ("has-role:" ++ text) = raw at single
  have about : check ⟨.hasRole, raw, trim text⟩ subject =
      .fact .user (judgeRole raw (trim text)) := rfl
  rw [passes_iff_of_informed faithful informed about single situation, judgeRole_passes,
    grants_iff (Rank.named_argument named), grants_iff named]

end Checking

end Granting

/-- A user who is granted a rank, by whatever name of it, is granted a lower one exactly if the role
in the organisation fits it; a role that is given as a text fits each. And it is the same with the
checks of the roles, wherever a user is told. -/
theorem ranked_roles_granted :
    (∀ low high : Rank, low.height ≤ high.height →
      ∀ lower upper, low.Named lower → high.Named upper →
      ∀ user, Grants user upper →
        ∃ fields, user = .object fields ∧ (Grants user lower ↔ low.Fits fields)) ∧
    (∀ (σ : Type) (answer : (asked : Request) → StateM σ asked.Answer) (view : σ → Records),
      Faithful answer view → ∀ user, Informed answer .user user →
      ∀ low high : Rank, low.height ≤ high.height →
      ∀ lower upper, low.Named lower → high.Named upper →
      ∀ earlier subject, Passes answer earlier ("has-role:" ++ upper) subject →
        ∃ fields, user = .object fields ∧ ∀ later other,
          (Passes answer later ("has-role:" ++ lower) other ↔ low.Fits fields)) ∧
    ∀ fields content, Fields.lookup fields "orgRole" = some (.text content) → content ≠ "" →
      ∀ rank : Rank, rank.Fits fields := by
  refine ⟨?_, ?_, fun fields content given filled => fits_of_text filled given⟩
  · intro low high below lower upper named above user granted
    exact lower_granted below named above granted
  · intro σ answer view faithful user informed low high below lower upper named above earlier
      subject passed
    have granted := (passes_iff_grants faithful informed above earlier subject).1 passed
    obtain ⟨fields, same, lowered⟩ := lower_granted below named above granted
    refine ⟨fields, same, fun later other => ?_⟩
    rw [passes_iff_grants faithful informed named, lowered]

def warden : Json :=
  .object [("isGrafanaAdmin", .bool true), ("orgRole", .text "Viewer")]

def founder : Json :=
  .object [("isGrafanaAdmin", .bool true), ("orgRole", .null)]

def delegate : Json :=
  .object [("isGrafanaAdmin", .bool true), ("orgRole", .list [.text "Admin"])]

/-- The warden passes for an administrator and so for a viewer. The founder is an administrator, and
so an editor, but no viewer. -/
theorem warden_passes :
    Passes (roadside.knowing (.ofFields [("user", warden)])) ⟨[], []⟩ ("has-role:" ++ "VIEWER")
        .unnamed ∧
      Grants founder "EDITOR" ∧ ¬Grants founder "Viewer" := by
  obtain ⟨grants, checks, fits⟩ := ranked_roles_granted
  have viewer : Rank.viewer.Named "VIEWER" := by decide
  have editor : Rank.editor.Named "EDITOR" := by decide
  have administrator : Rank.administrator.Named "Grafana-Admin" := by decide
  constructor
  · have faithful := roadside.faithful_knowing (.ofFields [("user", warden)])
    have informed : Informed (roadside.knowing (.ofFields [("user", warden)])) .user warden :=
      roadside.informed_knowing rfl
    have passed := (passes_iff_grants faithful informed administrator ⟨[], []⟩ .unnamed).2 rfl
    obtain ⟨fields, same, lowered⟩ := checks _ _ _ faithful _ informed .viewer .administrator
      (by decide) _ _ viewer administrator _ _ passed
    cases same
    exact (lowered _ _).2 (fits _ "Viewer" rfl (by decide) .viewer)
  · have ranked (low : Rank) (text : String) (named : low.Named text) :=
      grants low .administrator (by cases low <;> decide) text _ named administrator founder rfl
    obtain ⟨fields, same, edits⟩ := ranked .editor "EDITOR" editor
    obtain ⟨others, again, views⟩ := ranked .viewer "Viewer" (by decide)
    cases same
    cases again
    refine ⟨edits.2 rfl, fun granted => ?_⟩
    cases views.1 granted

/-- Who administers the server and has no role in the organisation is granted the rank of an editor
and not the one of a viewer; and where the role is a list, not even that of an editor. -/
theorem founder_outranked :
    (Grants founder "admin" ∧ Grants founder "editor" ∧ ¬Grants founder "viewer") ∧
      Grants delegate "admin" ∧ ¬Grants delegate "editor" := by
  refine ⟨⟨rfl, rfl, ?_⟩, rfl, ?_⟩
  · rintro ⟨⟩
  · rintro ⟨⟩

end Walkthrough
