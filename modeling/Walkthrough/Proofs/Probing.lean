import Walkthrough.Browser.Endpoint
import Walkthrough.Proofs.Casing
/-!
Where an endpoint that was written down for a browser is asked for its version. It is trimmed and
given a scheme if it names a port, and afterwards it is taken apart as an address. Both readings
agree on where a scheme ends, in whatever letter case it is written, and on the host and its port,
whatever stands behind them. As the scheme stays, an endpoint that is accepted with a scheme for web
sockets is not asked over HTTP.
Main statement: `Endpoint.probed_by_the_scheme_given`.
-/

namespace Walkthrough.Endpoint

open Text

/-- Letters that may stand in a host: neither blank nor marking its end, and not split up into such
marks. -/
def IsPlain (letter : Char) : Prop :=
  isBlank letter = false ∧ Url.endsAuthority letter = false ∧ letter ≠ '@' ∧
    Url.disguised.contains letter.toNat = false

instance (letter : Char) : Decidable (IsPlain letter) :=
  inferInstanceAs (Decidable (_ ∧ _))

/-- A name, or an address in brackets. -/
inductive IsHost : List Char → Prop where
  | name {letters : List Char} (filled : letters ≠ [])
      (plain : ∀ letter ∈ letters, IsPlain letter ∧ letter ∉ [':', '[', ']']) : IsHost letters
  | address {letters : List Char}
      (plain : ∀ letter ∈ letters, IsPlain letter ∧ letter ≠ ']')
      (read : Url.checkBracketed letters = .ok ()) : IsHost ('[' :: (letters ++ [']']))

def schemeNames : List (List Char) :=
  ["http".toList, "https".toList, "ws".toList, "wss".toList]

theorem knownSchemes_eq :
    knownSchemes = schemeNames.map fun name => String.ofList (name ++ "://".toList) :=
  rfl

/-- An endpoint, written with a scheme in any letter case and perhaps with a path, or without a
scheme and with no more than slashes behind it. -/
structure Spelling where
  scheme : Option (List Char)
  host : List Char
  port : Option (List Char)
  path : List Char
  known : ∀ given ∈ scheme, given.map Char.toLower ∈ schemeNames
  hosted : IsHost host
  numbered : ∀ digits ∈ port, digits ≠ [] ∧ ∀ digit ∈ digits, Json.isAsciiDigit digit = true
  rooted : ∀ first ∈ path.head?, first = '/'
  bare : scheme = none → ∀ letter ∈ path, letter = '/'

theorem of_ascii (holds : Char → Prop) (all : ∀ code < 128, holds (Char.ofNat code)) {letter : Char}
    (ascii : letter.toNat < 128) : holds letter := by
  have here := all letter.toNat ascii
  rwa [Char.ofNat_toNat] at here

theorem isPlain_digit {digit : Char} (digits : Json.isAsciiDigit digit = true) :
    IsPlain digit ∧ digit ∉ [':', '[', ']'] := by
  have ascii : digit.toNat < 128 := by
    simp only [Json.isAsciiDigit, Bool.and_eq_true, decide_eq_true_eq] at digits
    exact Nat.lt_of_le_of_lt digits.2 (by decide)
  refine of_ascii (fun digit => Json.isAsciiDigit digit = true →
    IsPlain digit ∧ digit ∉ [':', '[', ']']) ?_ ascii digits
  decide +kernel

theorem ascii_of_toLower {letter : Char} (ascii : letter.toLower.toNat < 128) :
    letter.toNat < 128 := by
  unfold Char.toLower at ascii
  split at ascii
  · next upper =>
      have bound : letter.val.toNat ≤ 90 := upper.2
      exact Nat.lt_of_le_of_lt bound (by decide)
  · exact ascii

theorem scheme_letter {letter : Char} (lowers : letter.toLower ∈ ['h', 't', 'p', 's', 'w']) :
    letter.toNat < 128 ∧ letter.isAlpha = true ∧ Url.isSchemeLetter letter = true ∧
      isBlank letter = false ∧ letter ≠ ':' ∧ 32 < letter.toNat := by
  have small : ∀ form ∈ ['h', 't', 'p', 's', 'w'], form.toNat < 128 :=
    forall_mem_of_all (by decide)
  have ascii := ascii_of_toLower (small _ lowers)
  refine ⟨ascii, of_ascii (fun letter => letter.toLower ∈ ['h', 't', 'p', 's', 'w'] →
    letter.isAlpha = true ∧ Url.isSchemeLetter letter = true ∧ isBlank letter = false ∧
      letter ≠ ':' ∧ 32 < letter.toNat) ?_ ascii lowers⟩
  decide +kernel

theorem rdropWhile_behind {dropped : Char → Bool} {solid : List Char} (filled : solid ≠ [])
    (stays : ∀ letter ∈ solid, dropped letter = false) (front rest : List Char) :
    (front ++ (solid ++ rest)).rdropWhile dropped =
      front ++ (solid ++ rest.rdropWhile dropped) := by
  induction rest using List.reverseRecOn with
  | nil =>
      obtain ⟨others, last, rfl⟩ := (List.eq_nil_or_concat' solid).resolve_left filled
      have kept := stays last (by simp)
      simp only [List.append_nil, List.rdropWhile_nil, ← List.append_assoc]
      exact List.rdropWhile_concat_neg _ _ _ (by simp [kept])
  | append_singleton rest letter ih =>
      simp only [← List.append_assoc] at ih ⊢
      cases goes : dropped letter with
      | true =>
          rw [List.rdropWhile_concat_pos _ _ _ goes, List.rdropWhile_concat_pos _ _ _ goes, ih]
      | false =>
          rw [List.rdropWhile_concat_neg _ _ _ (by simp [goes]),
            List.rdropWhile_concat_neg _ _ _ (by simp [goes]), List.append_assoc, List.append_assoc]

namespace IsHost

variable {host : List Char}

theorem ne_nil (hosted : IsHost host) : host ≠ [] := by
  cases hosted with
  | name filled plain => exact filled
  | address plain read => simp

theorem plain (hosted : IsHost host) : ∀ letter ∈ host, IsPlain letter := by
  cases hosted with
  | name filled plain => exact fun letter member => (plain letter member).1
  | @address letters plain read =>
      have opening : IsPlain '[' := by decide
      have closing : IsPlain ']' := by decide
      intro letter member
      rcases List.mem_cons.1 member with rfl | inside
      · exact opening
      · rcases List.mem_append.1 inside with among | last
        · exact (plain letter among).1
        · exact List.mem_singleton.1 last ▸ closing

theorem getLast_ne (hosted : IsHost host) : host.getLast hosted.ne_nil ≠ ':' := by
  cases hosted with
  | name filled plain =>
      intro colon
      exact (plain _ (List.getLast_mem filled)).2 (by simp [colon])
  | address plain read => simp

end IsHost

def portPart : Option (List Char) → List Char
  | some digits => ':' :: digits
  | none => []

section Authority

variable {host : List Char} {port : Option (List Char)}
  (numbered : ∀ digits ∈ port, digits ≠ [] ∧ ∀ digit ∈ digits, Json.isAsciiDigit digit = true)

include numbered

theorem portPart_plain : ∀ letter ∈ portPart port, IsPlain letter ∧ letter ∉ ['[', ']'] := by
  have colon : IsPlain ':' := by decide
  intro letter member
  cases port with
  | none => cases member
  | some digits =>
      rcases List.mem_cons.1 member with rfl | digit
      · exact ⟨colon, by decide⟩
      · obtain ⟨plain, apart⟩ := isPlain_digit ((numbered digits rfl).2 letter digit)
        exact ⟨plain, fun bracket => apart (List.mem_cons_of_mem _ bracket)⟩

theorem authority_plain (hosted : IsHost host) :
    ∀ letter ∈ host ++ portPart port, IsPlain letter := by
  intro letter member
  rcases List.mem_append.1 member with inside | behind
  · exact hosted.plain letter inside
  · exact (portPart_plain numbered letter behind).1

theorem hostAndPort_plain (hosted : IsHost host) :
    Url.hostAndPort (host ++ portPart port) = host ++ portPart port := by
  have all : ∀ letter ∈ (host ++ portPart port).reverse, (letter != '@') = true := by
    intro letter member
    have plain := authority_plain numbered hosted letter (List.mem_reverse.1 member)
    simpa using plain.2.2.1
  rw [Url.hostAndPort, List.takeWhile_eq_self_iff.2 all, List.reverse_reverse]

theorem checkAuthority_host (hosted : IsHost host) :
    Url.checkAuthority (host ++ portPart port) = .ok () := by
  have whole := hostAndPort_plain numbered hosted
  have unbracketed (bracket : Char) (among : bracket ∈ ['[', ']']) : bracket ∉ portPart port :=
    fun member => (portPart_plain numbered bracket member).2 among
  cases hosted with
  | name filled plain =>
      have none (bracket : Char) (among : bracket ∈ ['[', ']']) :
          (host ++ portPart port).contains bracket = false := by
        have absent : bracket ∉ host := fun member =>
          (plain bracket member).2 (List.mem_cons_of_mem _ among)
        simp [absent, unbracketed bracket among]
      unfold Url.checkAuthority
      rw [none '[' (by decide), none ']' (by decide)]
      rfl
  | @address letters plain read =>
      have inside : (letters ++ ']' :: portPart port).takeWhile (· != ']') = letters := by
        have before : ∀ letter ∈ letters, (letter != ']') = true := by
          intro letter member
          simpa using (plain letter member).2
        rw [List.takeWhile_append_of_pos before, List.takeWhile_cons_of_neg (by decide),
          List.append_nil]
      have behind : (letters ++ ']' :: portPart port).drop (letters.length + 1) =
          portPart port := by simp
      have spelt : '[' :: (letters ++ [']']) ++ portPart port =
          '[' :: (letters ++ ']' :: portPart port) := by simp
      have broken : breakAt ['['] ('[' :: (letters ++ ']' :: portPart port)) =
          some ([], letters ++ ']' :: portPart port) := by simp [breakAt]
      have numbers : (!(portPart port).isEmpty && (portPart port).head? != some ':') = false := by
        cases port <;> rfl
      rw [spelt] at whole ⊢
      unfold Url.checkAuthority
      simp only [whole, broken, inside, behind, numbers, read]
      simp

end Authority

namespace Spelling

def authority (spelling : Spelling) : List Char :=
  spelling.host ++ portPart spelling.port

def lead (spelling : Spelling) : List Char :=
  match spelling.scheme with
  | some given => given ++ "://".toList
  | none => []

def text (spelling : Spelling) : List Char :=
  spelling.lead ++ (spelling.authority ++ spelling.path)

def kind (spelling : Spelling) : List Char :=
  match spelling.scheme with
  | some given => given.map Char.toLower
  | none => "http".toList

def cut (spelling : Spelling) (path : List Char) (shorter : path <+: spelling.path) : Spelling where
  scheme := spelling.scheme
  host := spelling.host
  port := spelling.port
  path := path
  known := spelling.known
  hosted := spelling.hosted
  numbered := spelling.numbered
  rooted := by
    intro first starts
    cases path with
    | nil => cases starts
    | cons letter rest =>
        obtain ⟨others, whole⟩ := shorter
        exact spelling.rooted first (by rw [← whole]; exact starts)
  bare none letter member := spelling.bare none letter (shorter.subset member)

variable (spelling : Spelling)

theorem text_of_some {given : List Char} (schemed : spelling.scheme = some given) :
    spelling.text = given ++ ("://".toList ++ (spelling.authority ++ spelling.path)) := by
  rw [text, lead, schemed, List.append_assoc]

theorem text_of_none (schemeless : spelling.scheme = none) :
    spelling.text = spelling.authority ++ spelling.path := by
  rw [text, lead, schemeless, List.nil_append]

theorem authority_ne_nil : spelling.authority ≠ [] :=
  fun none => spelling.hosted.ne_nil (List.append_eq_nil_iff.1 none).1

theorem plain : ∀ letter ∈ spelling.authority, IsPlain letter :=
  authority_plain spelling.numbered spelling.hosted

theorem ne_slash : ∀ letter ∈ spelling.authority, letter ≠ '/' := by
  rintro letter member rfl
  have goes_on := (spelling.plain '/' member).2.1
  cases goes_on

theorem checkForms_authority : Url.checkForms spelling.authority = .ok () := by
  have none :
      (spelling.authority.any fun letter => Url.disguised.contains letter.toNat) = false := by
    rw [List.any_eq_false]
    intro letter member
    rw [(spelling.plain letter member).2.2.2]
    exact Bool.false_ne_true
  rw [Url.checkForms, none]
  rfl

theorem scheme_letters {given : List Char} (schemed : spelling.scheme = some given) :
    given ≠ [] ∧ ∀ letter ∈ given, letter.toLower ∈ ['h', 't', 'p', 's', 'w'] := by
  have all : ∀ name ∈ schemeNames,
      name ≠ [] ∧ name.all (fun letter => decide (letter ∈ ['h', 't', 'p', 's', 'w'])) = true := by
    decide
  obtain ⟨filled, letters⟩ := all _ (spelling.known given schemed)
  exact ⟨fun none => filled (by rw [none]; rfl),
    fun letter member => forall_mem_of_all letters _ (List.mem_map_of_mem member)⟩

/-! Taking it apart as an address. -/

def kept (text : List Char) : List Char :=
  text.filter fun letter => letter != '\t' && letter != '\r' && letter != '\n'

theorem kept_of_visible {text : List Char} (visible : ∀ letter ∈ text, isBlank letter = false) :
    kept text = text := by
  have blank : isBlank '\t' = true ∧ isBlank '\r' = true ∧ isBlank '\n' = true := by decide
  rw [kept, List.filter_eq_self]
  intro letter member
  have here := visible letter member
  simp only [Bool.and_eq_true, bne_iff_ne]
  refine ⟨⟨?_, ?_⟩, ?_⟩
  all_goals
    rintro rfl
    simp [blank] at here

theorem kept_append (first second : List Char) :
    kept (first ++ second) = kept first ++ kept second :=
  List.filter_append ..

theorem cleaned_text {given : List Char} (schemed : spelling.scheme = some given) :
    Url.cleaned spelling.text =
      given ++ (':' :: ("//".toList ++ (spelling.authority ++ kept spelling.path))) := by
  obtain ⟨filled, letters⟩ := spelling.scheme_letters schemed
  have whole : Url.cleaned spelling.text = kept spelling.text := by
    obtain ⟨first, others, rfl⟩ := List.exists_cons_of_ne_nil filled
    have shows := (scheme_letter (letters first List.mem_cons_self)).2.2.2.2.2
    rw [Url.cleaned, spelling.text_of_some schemed, List.cons_append,
      List.dropWhile_cons_of_neg (by simpa using shows)]
    rfl
  have scheme : kept given = given :=
    kept_of_visible fun letter member => (scheme_letter (letters letter member)).2.2.2.1
  have authority : kept spelling.authority = spelling.authority :=
    kept_of_visible fun letter member => (spelling.plain letter member).1
  have marks : kept "://".toList = "://".toList := by decide
  rw [whole, spelling.text_of_some schemed, kept_append, kept_append, kept_append, scheme,
    authority, marks]
  rfl

theorem splitScheme_text {given : List Char} (schemed : spelling.scheme = some given) :
    Url.splitScheme (Url.cleaned spelling.text) =
      (given.map Char.toLower, "//".toList ++ (spelling.authority ++ kept spelling.path)) := by
  obtain ⟨filled, letters⟩ := spelling.scheme_letters schemed
  have apart : ':' ∉ given := fun member => (scheme_letter (letters ':' member)).2.2.2.2.1 rfl
  have broken := breakAt_append (List.not_mem_nil (a := ':'))
    ("//".toList ++ (spelling.authority ++ kept spelling.path))
    (breakAt_eq_none_of_not_mem (List.mem_singleton_self ':') apart)
  have starts : (given.head?.any fun first => first.toNat < 128 && first.isAlpha) = true := by
    obtain ⟨first, others, rfl⟩ := List.exists_cons_of_ne_nil filled
    obtain ⟨ascii, alpha, -⟩ := scheme_letter (letters first List.mem_cons_self)
    simp [ascii, alpha]
  have all : given.all Url.isSchemeLetter = true :=
    List.all_eq_true.2 fun letter member => (scheme_letter (letters letter member)).2.2.1
  rw [spelling.cleaned_text schemed, Url.splitScheme]
  rw [List.singleton_append] at broken
  simp only [broken, starts, all, Bool.and_self, if_true]

theorem takeWhile_authority :
    (spelling.authority ++ kept spelling.path).takeWhile (fun letter => !Url.endsAuthority letter) =
      spelling.authority := by
  have inside : ∀ letter ∈ spelling.authority, (!Url.endsAuthority letter) = true := by
    intro letter member
    simp [(spelling.plain letter member).2.1]
  rw [List.takeWhile_append_of_pos inside]
  cases path : spelling.path with
  | nil => simp [kept]
  | cons first rest =>
      obtain rfl := spelling.rooted first (by simp [path])
      have slash : kept ('/' :: rest) = '/' :: kept rest := List.filter_cons_of_pos (by decide)
      rw [slash, List.takeWhile_cons_of_neg (by decide), List.append_nil]

theorem splitChars_text {given : List Char} (schemed : spelling.scheme = some given) :
    Url.splitChars spelling.text =
      let parted := Url.splitAtMark '#' (kept spelling.path)
      let behind := Url.splitAtMark '?' parted.1
      .ok ⟨given.map Char.toLower, spelling.authority, behind.1, behind.2, parted.2⟩ := by
  have rest : (spelling.authority ++ kept spelling.path).drop spelling.authority.length =
      kept spelling.path := List.drop_left
  have checked : Url.checkAuthority spelling.authority = .ok () :=
    checkAuthority_host spelling.numbered spelling.hosted
  unfold Url.splitChars
  rw [spelling.splitScheme_text schemed]
  simp only [String.reduceToList, List.cons_append, List.nil_append, spelling.takeWhile_authority,
    rest, checked, spelling.checkForms_authority]
  rfl

/-! What is cut off. -/

theorem lead_visible : ∀ letter ∈ spelling.lead, isBlank letter = false := by
  intro letter member
  cases schemed : spelling.scheme with
  | none =>
      rw [lead, schemed] at member
      cases member
  | some given =>
      rw [lead, schemed] at member
      have marks : ∀ mark ∈ "://".toList, isBlank mark = false := forall_mem_of_all (by decide)
      rcases List.mem_append.1 member with inside | mark
      · exact (scheme_letter ((spelling.scheme_letters schemed).2 letter inside)).2.2.2.1
      · exact marks letter mark

theorem trimChars_text {before after : List Char} (ahead : before.all isBlank = true)
    (behind : after.all isBlank = true) : trimChars (before ++ (spelling.text ++ after)) =
      (spelling.cut (trimRight spelling.path) (List.rdropWhile_prefix isBlank _)).text := by
  have filled : spelling.lead ++ spelling.authority ≠ [] :=
    fun none => spelling.authority_ne_nil (List.append_eq_nil_iff.1 none).2
  have visible : ∀ letter ∈ spelling.lead ++ spelling.authority, isBlank letter = false := by
    intro letter member
    rcases List.mem_append.1 member with front | inside
    · exact spelling.lead_visible letter front
    · exact (spelling.plain letter inside).1
  rw [← List.append_assoc, trimChars_append_blank behind, text, ← List.append_assoc spelling.lead,
    trimChars_around ahead filled visible, List.append_assoc]
  rfl

theorem withoutSlashes_text : withoutSlashes (String.ofList spelling.text) = String.ofList
    (spelling.cut (spelling.path.rdropWhile (· = '/')) (List.rdropWhile_prefix _ _)).text := by
  have stays : ∀ letter ∈ spelling.authority, decide (letter = '/') = false :=
    fun letter member => decide_eq_false (spelling.ne_slash letter member)
  have dropped := rdropWhile_behind spelling.authority_ne_nil stays spelling.lead spelling.path
  rw [withoutSlashes, trimRightOf, String.toList_ofList]
  exact congrArg String.ofList dropped

/-! Whether there is a scheme. -/

theorem exists_getLast : ∃ front last, spelling.authority = front ++ [last] ∧ last ≠ ':' := by
  cases ported : spelling.port with
  | none =>
      refine ⟨spelling.host.dropLast, _, ?_, spelling.hosted.getLast_ne⟩
      rw [authority, ported, portPart, List.append_nil, List.dropLast_append_getLast]
  | some digits =>
      obtain ⟨filled, numbers⟩ := spelling.numbered digits ported
      obtain ⟨others, last, rfl⟩ := (List.eq_nil_or_concat' digits).resolve_left filled
      refine ⟨spelling.host ++ ':' :: others, last, by simp [authority, ported, portPart], ?_⟩
      rintro rfl
      exact absurd (numbers ':' (by simp)) (by decide)

theorem not_slashed (schemeless : spelling.scheme = none) : ¬ [':', '/'] <:+: spelling.text := by
  have slashes : ':' ∉ spelling.path := fun member => by
    cases spelling.bare schemeless ':' member
  rw [spelling.text_of_none schemeless]
  rintro ⟨front, rest, same⟩
  rw [List.append_assoc] at same
  rcases List.append_eq_append_iff.1 same with ⟨middle, whole, parted⟩ | ⟨middle, -, parted⟩
  · -- the colon stands in the authority, which ends with something else and holds no slash
    match middle with
    | [] => exact slashes (by rw [← List.nil_append spelling.path, ← parted]; simp)
    | [colon] =>
        obtain ⟨others, last, ends, apart⟩ := spelling.exists_getLast
        obtain ⟨-, same⟩ := List.append_inj' (whole.symm.trans ends) rfl
        exact apart ((List.cons.inj same).1 ▸ (List.cons.inj parted).1.symm)
    | colon :: slash :: others =>
        have inside : '/' ∈ spelling.authority := by
          have second := (List.cons.inj (List.cons.inj parted).2).1
          rw [whole, second]
          simp
        exact spelling.ne_slash '/' inside rfl
  · exact slashes (by rw [parted]; simp)

theorem includes_text : includes "://" (String.ofList spelling.text) = spelling.scheme.isSome := by
  cases schemed : spelling.scheme with
  | none =>
      apply eq_false_of_ne_true
      rw [includes_iff, String.toList_ofList, String.toList_ofList]
      intro part
      have first : [':', '/'] <:+: "://".toList := ⟨[], ['/'], rfl⟩
      exact spelling.not_slashed schemed (first.trans part)
  | some given =>
      rw [Option.isSome_some, includes_iff, String.toList_ofList, String.toList_ofList,
        spelling.text_of_some schemed]
      exact ⟨given, spelling.authority ++ spelling.path, List.append_assoc ..⟩

theorem startsWith_text : (knownSchemes.any fun scheme =>
    startsWith scheme (lower (String.ofList spelling.text))) = spelling.scheme.isSome := by
  have lowered : (lower (String.ofList spelling.text)).toList = lowerFrom [] spelling.text := by
    rw [lower, String.toList_ofList, String.toList_ofList, lowerChars]
  cases schemed : spelling.scheme with
  | none =>
      rw [Option.isSome_none, List.any_eq_false]
      intro scheme member starts
      rw [startsWith, lowered, List.isPrefixOf_iff_prefix] at starts
      rw [knownSchemes_eq] at member
      obtain ⟨name, -, rfl⟩ := List.mem_map.1 member
      rw [String.toList_ofList] at starts
      have part : [':', '/'] <:+: name ++ "://".toList := ⟨name, ['/'], List.append_assoc ..⟩
      exact spelling.not_slashed schemed (slashed_of_lowerFrom (part.trans starts.isInfix))
  | some given =>
      have ascii : ∀ letter ∈ given, letter.toNat < 128 :=
        fun letter member => (scheme_letter ((spelling.scheme_letters schemed).2 letter member)).1
      have marks : ∀ letter ∈ "://".toList, letter.toNat < 128 := forall_mem_of_all (by decide)
      have known : String.ofList (given.map Char.toLower ++ "://".toList) ∈ knownSchemes := by
        rw [knownSchemes_eq]
        exact List.mem_map_of_mem (spelling.known given schemed)
      rw [Option.isSome_some, List.any_eq_true]
      refine ⟨_, known, ?_⟩
      rw [startsWith, lowered, String.toList_ofList, List.isPrefixOf_iff_prefix,
        spelling.text_of_some schemed, ← List.append_assoc, lowerFrom_append, lowerWithin_append,
        lowerWithin_ascii ascii, lowerWithin_ascii marks]
      exact List.prefix_append _ _

/-! With a scheme. -/

def schemed (spelling : Spelling) : Spelling where
  scheme := some (spelling.scheme.getD "http".toList)
  host := spelling.host
  port := spelling.port
  path := spelling.path
  known := by
    rintro given ⟨⟩
    cases scheme : spelling.scheme with
    | none => decide
    | some given => exact spelling.known given scheme
  hosted := spelling.hosted
  numbered := spelling.numbered
  rooted := spelling.rooted
  bare := nofun

theorem text_schemed : String.ofList spelling.schemed.text =
    if spelling.scheme.isSome then String.ofList spelling.text
    else "http://" ++ String.ofList spelling.text := by
  cases scheme : spelling.scheme with
  | some given =>
      have same : spelling.schemed.scheme = some given := by simp [schemed, scheme]
      rw [text_of_some _ same, spelling.text_of_some scheme]
      rfl
  | none =>
      have same : spelling.schemed.scheme = some "http".toList := by simp [schemed, scheme]
      rw [text_of_some _ same, spelling.text_of_none scheme, ← List.append_assoc,
        String.ofList_append]
      rfl

theorem kind_schemed : spelling.schemed.kind = spelling.kind := by
  have written : spelling.schemed.kind =
      (spelling.scheme.getD "http".toList).map Char.toLower := rfl
  rw [written, kind]
  cases spelling.scheme <;> rfl

/-- The endpoint may be written in another way, but the scheme that is meant and the authority are
the same. -/
def Alike (other : Spelling) : Prop :=
  other.kind = spelling.kind ∧ other.authority = spelling.authority

theorem ofList_text_ne_empty : String.ofList spelling.text ≠ "" := by
  intro none
  have nothing : spelling.text = [] := by simpa using congrArg String.toList none
  rw [text, List.append_eq_nil_iff, List.append_eq_nil_iff] at nothing
  exact spelling.authority_ne_nil nothing.2.1

theorem trim_text (before after : List Char) (ahead : before.all isBlank = true)
    (behind : after.all isBlank = true) :
    ∃ other : Spelling, trim (String.ofList (before ++ (spelling.text ++ after))) =
      String.ofList other.text ∧ spelling.Alike other := by
  refine ⟨spelling.cut (trimRight spelling.path) (List.rdropWhile_prefix isBlank _), ?_, rfl, rfl⟩
  rw [trim, String.toList_ofList, spelling.trimChars_text ahead behind]

theorem normalize_text {before after : List Char} (ahead : before.all isBlank = true)
    (behind : after.all isBlank = true) :
    ∃ other : Spelling, normalize (String.ofList (before ++ (spelling.text ++ after))) =
      String.ofList other.text ∧ spelling.Alike other := by
  obtain ⟨trimmed, same, kind, authority⟩ := spelling.trim_text before after ahead behind
  unfold normalize
  rw [same]
  simp only [if_neg trimmed.ofList_text_ne_empty, trimmed.startsWith_text]
  split
  · exact ⟨_, trimmed.withoutSlashes_text, kind, authority⟩
  · next schemeless =>
      split
      · have written := trimmed.text_schemed
        rw [if_neg schemeless] at written
        rw [← written]
        exact ⟨_, trimmed.schemed.withoutSlashes_text, trimmed.kind_schemed.trans kind, authority⟩
      · exact ⟨trimmed, rfl, kind, authority⟩

theorem kind_ne_nil : spelling.kind ≠ [] := by
  cases scheme : spelling.scheme with
  | none =>
      rw [kind, scheme]
      decide
  | some given =>
      rw [kind, scheme]
      simpa using (spelling.scheme_letters scheme).1

theorem versionUrl_text : versionUrl (String.ofList spelling.text) =
    .ok (Url.join ⟨spelling.kind, spelling.authority, "/json/version".toList, [], []⟩) := by
  obtain ⟨trimmed, same, kind, authority⟩ := spelling.trim_text [] [] rfl rfl
  rw [List.nil_append, List.append_nil] at same
  have scheme : trimmed.schemed.scheme = some (trimmed.scheme.getD "http".toList) := rfl
  have parted := trimmed.schemed.splitChars_text scheme
  have named : (trimmed.scheme.getD "http".toList).map Char.toLower = spelling.kind :=
    trimmed.kind_schemed.trans kind
  unfold versionUrl
  rw [same]
  simp only [if_neg trimmed.ofList_text_ne_empty, trimmed.includes_text, ← trimmed.text_schemed,
    Url.split, String.toList_ofList, parted, named,
    List.isEmpty_eq_false_iff.2 spelling.kind_ne_nil]
  rw [if_neg Bool.false_ne_true, ← authority]
  rfl

/-! The address that is asked. -/

theorem kind_mem : spelling.kind ∈ schemeNames := by
  cases scheme : spelling.scheme with
  | none =>
      rw [kind, scheme]
      decide
  | some given =>
      rw [kind, scheme]
      exact spelling.known given scheme

theorem map_toLower_kind : spelling.kind.map Char.toLower = spelling.kind := by
  have all : ∀ name ∈ schemeNames, name.map Char.toLower = name := by decide
  exact all _ spelling.kind_mem

def probe (spelling : Spelling) : Spelling where
  scheme := some spelling.kind
  host := spelling.host
  port := spelling.port
  path := "/json/version".toList
  known := by
    rintro given ⟨⟩
    rw [spelling.map_toLower_kind]
    exact spelling.kind_mem
  hosted := spelling.hosted
  numbered := spelling.numbered
  rooted := by
    rintro first ⟨⟩
    rfl
  bare := nofun

theorem join_probe : Url.join ⟨spelling.kind, spelling.authority, "/json/version".toList, [], []⟩ =
    String.ofList spelling.probe.text := by
  have scheme : spelling.probe.scheme = some spelling.kind := rfl
  have joined {first : Char} {others authority rest : List Char} (filled : authority ≠ []) :
      Url.joinChars ⟨first :: others, authority, '/' :: rest, [], []⟩ =
        first :: others ++ ("://".toList ++ (authority ++ '/' :: rest)) := by
    obtain ⟨letter, letters, rfl⟩ := List.exists_cons_of_ne_nil filled
    simp [Url.joinChars]
  obtain ⟨first, others, named⟩ := List.exists_cons_of_ne_nil spelling.kind_ne_nil
  rw [text_of_some _ scheme, Url.join, named]
  exact congrArg String.ofList (joined spelling.authority_ne_nil)

theorem split_probe : Url.split (String.ofList spelling.probe.text) =
    .ok ⟨spelling.kind, spelling.authority, "/json/version".toList, [], []⟩ := by
  have scheme : spelling.probe.scheme = some spelling.kind := rfl
  rw [Url.split, String.toList_ofList, spelling.probe.splitChars_text scheme,
    spelling.map_toLower_kind]
  rfl

end Spelling

/-- Whatever blanks are around it, an endpoint is accepted, and its version is looked for at the
same authority and by the scheme that was given; so it is looked for by `ws` or `wss` where the
endpoint has one of these. -/
theorem probed_by_the_scheme_given (spelling : Spelling) {before after : List Char}
    (ahead : before.all isBlank = true) (behind : after.all isBlank = true) :
    let candidate := normalize (String.ofList (before ++ (spelling.text ++ after)))
    let probed := String.ofList
      (spelling.kind ++ ("://".toList ++ (spelling.authority ++ "/json/version".toList)))
    candidate ≠ "" ∧ versionUrl candidate = .ok probed ∧
      Url.split probed =
        .ok ⟨spelling.kind, spelling.authority, "/json/version".toList, [], []⟩ ∧
      (spelling.kind ∈ ["http".toList, "https".toList] ↔
        ∀ given ∈ spelling.scheme, given.map Char.toLower ∉ ["ws".toList, "wss".toList]) := by
  intro candidate probed
  obtain ⟨other, same, kind, authority⟩ := spelling.normalize_text ahead behind
  have same : candidate = String.ofList other.text := same
  have asked : probed = String.ofList spelling.probe.text := by
    have scheme : spelling.probe.scheme = some spelling.kind := rfl
    rw [Spelling.text_of_some _ scheme]
    rfl
  refine ⟨?accepted, ?probed, ?split, ?scheme⟩
  case accepted =>
    rw [same]
    exact other.ofList_text_ne_empty
  case probed =>
    rw [same, other.versionUrl_text, kind, authority, spelling.join_probe, asked]
  case split =>
    rw [asked, spelling.split_probe]
  case scheme =>
    have apart : ∀ name ∈ schemeNames, name ∈ ["http".toList, "https".toList] ↔
        name ∉ ["ws".toList, "wss".toList] := by decide
    have meant := apart _ spelling.kind_mem
    cases scheme : spelling.scheme with
    | none => simp [Spelling.kind, scheme]
    | some given =>
        rw [Spelling.kind, scheme] at meant ⊢
        simpa using meant

def devtools : Spelling where
  scheme := some "WS".toList
  host := "Host".toList
  port := some "9222".toList
  path := "/devtools/".toList
  known := by decide
  hosted := .name (by decide) (forall_mem_of_all (by decide))
  numbered := by
    rintro digits ⟨⟩
    exact ⟨by decide, List.all_eq_true.1 (by decide)⟩
  rooted := by
    rintro first ⟨⟩
    rfl
  bare := nofun

theorem devtools_probed :
    let given := String.ofList (" ".toList ++ (devtools.text ++ "\n".toList))
    given = " WS://Host:9222/devtools/\n" ∧ normalize given ≠ "" ∧
      versionUrl (normalize given) = .ok "ws://Host:9222/json/version" ∧
      devtools.kind ∉ ["http".toList, "https".toList] := by
  intro given
  obtain ⟨accepted, probed, -, fetched⟩ := probed_by_the_scheme_given devtools
    (by decide : " ".toList.all isBlank = true) (by decide : "\n".toList.all isBlank = true)
  exact ⟨rfl, accepted, probed, mt fetched.1 (by decide)⟩

end Walkthrough.Endpoint
