import ProseCompiler.Proofs.Keyed
import ProseCompiler.Proofs.Service.Answer
import ProseCompiler.Proofs.Service.Classification
import ProseCompiler.Proofs.Text.Case
import ProseCompiler.Proofs.Text.Order

/-!
# The code in an answer

Of all that an answer may hold, three places are looked at: the content of the message
of the first choice, the content of an output, and a content at the top.  `Selects`
says which text they give, if any, and `TrimsTo` what is left of a text without the
blanks around it.  Code is what is left of the selected text, if that is anything.

Two answers with the same view of the three places give the same code and the same
error, up to the names that an error lists.  `Unseen` names the changes that keep the
view.
-/

namespace ProseCompiler

/-! ## What is left of a text -/

namespace Text

/-- A text is another one between blanks, and that one has no blank at either end. -/
structure TrimsTo (t core : Text) : Prop where
  between : ∃ before after, t = before ++ core ++ after ∧
    (∀ c ∈ before, c.isBlank = true) ∧ ∀ c ∈ after, c.isBlank = true
  head : ∀ c, core.head? = some c → c.isBlank = false
  last : ∀ c, core.getLast? = some c → c.isBlank = false

variable {t core : Text}

theorem trimsTo_iff : TrimsTo t core ↔ core = trim t := by
  constructor
  · rintro ⟨⟨before, after, rfl, hbefore, hafter⟩, hhead, hlast⟩
    have hcore : trim core = core :=
      trim_eq_self_iff.mpr ⟨trimLeft_eq_self_iff.mpr hhead, trimRight_eq_self_iff.mpr hlast⟩
    exact (trim_append_blanks hbefore hafter hcore).symm
  · rintro rfl
    obtain ⟨hleft, hright⟩ := trim_eq_self_iff.mp (trim_trim t)
    exact ⟨blanks_around_trim t, trimLeft_eq_self_iff.mp hleft, trimRight_eq_self_iff.mp hright⟩

end Text

/-! ## The value at the end of a path of names -/

namespace Json

/-- The value under a path of names; there is nothing under a name without a field. -/
def at? : List Text → Json → Option Json
  | [], value => some value
  | name :: path, value => (value.get? name).bind (at? path)

variable {fields others : List (Text × Json)} {name other : Text} {path : List Text}
  {value : Json}

theorem at?_single : at? [name] value = value.get? name := by
  cases h : value.get? name <;> simp [at?, h]

theorem at?_pair : at? [name, other] value = (value.get? name).bind (get? other) := by
  cases h : value.get? name <;> simp [at?, h]

/-- A field of another name does not show along a path. -/
theorem at?_put_of_ne (h : name ≠ other) :
    at? (name :: path) (.object (putField fields other value)) =
      at? (name :: path) (.object fields) := by
  simp only [at?, get?, field?, putField, lookup_put, if_neg h]

theorem at?_put :
    at? (name :: path) (.object (putField fields name value)) = at? path value := by
  simp only [at?, get?, field?, putField, lookup_put, if_true, Option.bind_some]

/-- The order of the fields does not show along a path. -/
theorem at?_of_perm (hapart : (fields.map Prod.fst).Nodup) (h : fields.Perm others) :
    at? (name :: path) (.object fields) = at? (name :: path) (.object others) := by
  simp only [at?, get?, field?, lookup_eq_of_perm hapart h]

end Json

/-! ## The text that is selected -/

namespace Shape

/-- The names that an answer is looked at for, at its top. -/
def topNames : List Text := ["choices", "output", "content"]

/-- The text that an answer is read for. -/
inductive Selects (answer : Json) : Text → Prop where
  | choice {choice : Json} {later : List Json} {t : Text}
      (hchoices : Json.at? ["choices"] answer = some (.array (choice :: later)))
      (ht : Json.at? ["message", "content"] choice = some (.text t)) :
      Selects answer t
  | noText {choice : Json} {later : List Json}
      (hchoices : Json.at? ["choices"] answer = some (.array (choice :: later)))
      (hnone : ∀ t, Json.at? ["message", "content"] choice ≠ some (.text t)) :
      Selects answer []
  | output {t : Text}
      (hchoices : ∀ choice later,
        Json.at? ["choices"] answer ≠ some (.array (choice :: later)))
      (ht : Json.at? ["output", "content"] answer = some (.text t)) (hne : t ≠ []) :
      Selects answer t
  | content {t : Text}
      (hchoices : ∀ choice later,
        Json.at? ["choices"] answer ≠ some (.array (choice :: later)))
      (houtput : ∀ t, Json.at? ["output", "content"] answer = some (.text t) → t = [])
      (ht : Json.at? ["content"] answer = some (.text t)) (hne : t ≠ []) :
      Selects answer t

/-- A change to an answer that no shape looks at. -/
inductive Unseen : Json → Json → Prop where
  | field {fields : List (Text × Json)} {name : Text} {value : Json} (h : name ∉ topNames) :
      Unseen (.object fields) (.object (Json.putField fields name value))
  | choices {fields : List (Text × Json)} {choice other : Json} {later others : List Json}
      (h : Json.at? ["choices"] (.object fields) = some (.array (choice :: later)))
      (hsame : Json.at? ["message", "content"] choice = Json.at? ["message", "content"] other) :
      Unseen (.object fields)
        (.object (Json.putField fields "choices" (.array (other :: others))))
  | output {fields : List (Text × Json)} {value other : Json}
      (h : Json.at? ["output"] (.object fields) = some value)
      (hsame : Json.at? ["content"] value = Json.at? ["content"] other) :
      Unseen (.object fields) (.object (Json.putField fields "output" other))
  | order {fields others : List (Text × Json)} (hapart : (fields.map Prod.fst).Nodup)
      (h : fields.Perm others) :
      Unseen (.object fields) (.object others)

/-- Two results that are the same, but for the names that an error lists. -/
inductive Alike : Except CompilerError Text → Except CompilerError Text → Prop where
  | same {result : Except CompilerError Text} : Alike result result
  | unshaped {message : Text} {names others : Option (List Text)} :
      Alike (.error (.responseShape message names)) (.error (.responseShape message others))

/-- The answer of a shape with a given text in it and nothing else. -/
def wrap : Shape → Text → Json
  | .choices, t =>
    .object [("choices", .array [.object [("message", .object [("content", .text t)])]])]
  | .outputContent, t => .object [("output", .object [("content", .text t)])]
  | .content, t => .object [("content", .text t)]

variable {answer : Json} {fields : List (Text × Json)} {language : Option Text} {t core : Text}

/-! ## What the shapes select -/

theorem someText?_eq_some_iff {value : Option Json} :
    someText? value = some t ↔ value = some (.text t) ∧ t ≠ [] := by
  unfold someText?
  split
  · next c rest =>
    rw [Option.some.injEq, Option.some.injEq, Json.text.injEq]
    exact ⟨fun h => ⟨h, h ▸ List.cons_ne_nil c rest⟩, And.left⟩
  · next hno =>
    simp only [reduceCtorEq, false_iff, not_and, not_not]
    rintro rfl
    cases t with
    | nil => rfl
    | cons c rest => exact absurd rfl (hno c rest)

theorem someText?_eq_none_iff {value : Option Json} :
    someText? value = none ↔ ∀ t, value = some (.text t) → t = [] := by
  rw [Option.eq_none_iff_forall_ne_some]
  simp only [ne_eq, someText?_eq_some_iff, not_and, not_not]

/-- The text of a choice is the one at its place, or empty if there is none. -/
theorem choiceText_cases (choice : Json) :
    Json.at? ["message", "content"] choice = some (.text (choiceText choice)) ∨
      choiceText choice = [] ∧
        ∀ t, Json.at? ["message", "content"] choice ≠ some (.text t) := by
  rw [choiceText, Json.at?_pair]
  split
  · next t ht => exact .inl ht
  · next hno => exact .inr ⟨rfl, hno⟩

theorem selects_of_choices {choice : Json} {later : List Json}
    (hchoices : Json.at? ["choices"] answer = some (.array (choice :: later))) :
    Selects answer t ↔ t = choiceText choice := by
  constructor
  · intro h
    cases h with
    | choice hfirst ht =>
      rw [hchoices, Option.some.injEq, Json.array.injEq, List.cons.injEq] at hfirst
      obtain ⟨rfl, -⟩ := hfirst
      rcases choiceText_cases choice with hsome | ⟨-, hno⟩
      · rw [ht, Option.some.injEq, Json.text.injEq] at hsome
        exact hsome
      · exact absurd ht (hno t)
    | noText hfirst hnone =>
      rw [hchoices, Option.some.injEq, Json.array.injEq, List.cons.injEq] at hfirst
      obtain ⟨rfl, -⟩ := hfirst
      rcases choiceText_cases choice with hsome | ⟨hempty, -⟩
      · exact absurd hsome (hnone _)
      · exact hempty.symm
    | output hno _ _ => exact absurd hchoices (hno choice later)
    | content hno _ _ _ => exact absurd hchoices (hno choice later)
  · rintro rfl
    rcases choiceText_cases choice with hsome | ⟨hempty, hno⟩
    · exact .choice hchoices hsome
    · exact hempty ▸ .noText hchoices hno

theorem selects_of_no_choices
    (hchoices : ∀ choice later, Json.at? ["choices"] answer ≠ some (.array (choice :: later))) :
    Selects answer t ↔ t ≠ [] ∧ (Json.at? ["output", "content"] answer = some (.text t) ∨
      (∀ t, Json.at? ["output", "content"] answer = some (.text t) → t = []) ∧
        Json.at? ["content"] answer = some (.text t)) := by
  constructor
  · intro h
    cases h with
    | choice hfirst _ => exact absurd hfirst (hchoices _ _)
    | noText hfirst _ => exact absurd hfirst (hchoices _ _)
    | output _ ht hne => exact ⟨hne, .inl ht⟩
    | content _ houtput ht hne => exact ⟨hne, .inr ⟨houtput, ht⟩⟩
  · rintro ⟨hne, ht | ⟨houtput, ht⟩⟩
    · exact .output hchoices ht hne
    · exact .content hchoices houtput ht hne

theorem selects_object_iff :
    Selects (.object fields) t ↔ ∃ shape, ofFields? fields = some (shape, t) := by
  rw [ofFields?]
  split
  · next choice later hfirst =>
    have hchoices : Json.at? ["choices"] (.object fields) = some (.array (choice :: later)) := by
      rw [Json.at?_single]
      exact hfirst
    rw [selects_of_choices hchoices]
    simp [eq_comm]
  · next hno =>
    have hchoices : ∀ choice later,
        Json.at? ["choices"] (.object fields) ≠ some (.array (choice :: later)) := by
      rw [Json.at?_single]
      exact hno
    rw [selects_of_no_choices hchoices, Json.at?_pair, Json.at?_single]
    split
    · next found hfound =>
      obtain ⟨hplace, hne⟩ := someText?_eq_some_iff.mp hfound
      constructor
      · rintro ⟨-, ht | ⟨houtput, -⟩⟩
        · have hsame := Option.some.inj (hplace.symm.trans ht)
          rw [Json.text.injEq] at hsame
          exact ⟨.outputContent, by rw [hsame]⟩
        · exact absurd (houtput found hplace) hne
      · rintro ⟨shape, h⟩
        cases h
        exact ⟨hne, .inl hplace⟩
    · next hnone =>
      rw [someText?_eq_none_iff] at hnone
      constructor
      · rintro ⟨hne, ht | ⟨-, ht⟩⟩
        · exact absurd (hnone t ht) hne
        · refine ⟨.content, Option.map_eq_some_iff.mpr ⟨t, ?_, rfl⟩⟩
          exact someText?_eq_some_iff.mpr ⟨ht, hne⟩
      · rintro ⟨shape, h⟩
        obtain ⟨found, hfound, hsame⟩ := Option.map_eq_some_iff.mp h
        cases hsame
        obtain ⟨hplace, hne⟩ := someText?_eq_some_iff.mp hfound
        exact ⟨hne, .inr ⟨hnone, hplace⟩⟩

/-- Nothing is selected in what is no object. -/
theorem Selects.exists_fields (h : Selects answer t) : ∃ fields, answer = .object fields := by
  have hfield : ∀ {name path value}, Json.at? (name :: path) answer = some value →
      ∃ fields, answer = .object fields := by
    intro name path value h
    cases answer with
    | object fields => exact ⟨fields, rfl⟩
    | null | bool | integer | real | text | array => simp [Json.at?, Json.get?] at h
  cases h with
  | choice hchoices _ => exact hfield hchoices
  | noText hchoices _ => exact hfield hchoices
  | output _ ht _ => exact hfield ht
  | content _ _ ht _ => exact hfield ht

theorem selects_iff : Selects answer t ↔ ∃ shape, ofAnswer answer = .ok (shape, t) := by
  constructor
  · intro h
    obtain ⟨fields, rfl⟩ := h.exists_fields
    obtain ⟨shape, hfound⟩ := selects_object_iff.mp h
    exact ⟨shape, by rw [ofAnswer, hfound]⟩
  · rintro ⟨shape, h⟩
    unfold ofAnswer at h
    split at h
    · split at h
      · next hfound =>
        cases h
        exact selects_object_iff.mpr ⟨shape, hfound⟩
      · cases h
    · cases h

theorem Selects.unique {s : Text} (hs : Selects answer s) (ht : Selects answer t) : s = t := by
  obtain ⟨_, hs⟩ := selects_iff.mp hs
  obtain ⟨_, ht⟩ := selects_iff.mp ht
  cases hs.symm.trans ht
  rfl

/-! ## What the selected text comes to -/

theorem code_of_selects (h : Selects answer t) : code language answer = codeIn language t := by
  obtain ⟨shape, hshape⟩ := selects_iff.mp h
  rw [code, hshape]

theorem code_of_none (h : ∀ t, ¬Selects answer t) :
    ∃ message names, code language answer = .error (.responseShape message names) := by
  rw [code]
  cases hshape : ofAnswer answer with
  | error error =>
    obtain ⟨message, names, rfl⟩ := ofAnswer_error hshape
    exact ⟨message, names, rfl⟩
  | ok found => exact absurd (selects_iff.mpr ⟨found.1, hshape⟩) (h found.2)

/-- There is code, an error about its shape or an error about empty code, by what is
selected. -/
theorem code_cases (language : Option Text) (answer : Json) :
    (∃ t, Selects answer t ∧ Text.trim t ≠ [] ∧ code language answer = .ok (Text.trim t)) ∨
    (∃ t, Selects answer t ∧ Text.trim t = [] ∧
      code language answer = .error (.emptyArtifact language)) ∨
    (∀ t, ¬Selects answer t) ∧
      ∃ message names, code language answer = .error (.responseShape message names) := by
  by_cases hsome : ∃ t, Selects answer t
  · obtain ⟨t, ht⟩ := hsome
    rw [code_of_selects ht, codeIn]
    by_cases hblank : Text.trim t = []
    · exact .inr (.inl ⟨t, ht, hblank, if_pos hblank⟩)
    · exact .inl ⟨t, ht, hblank, if_neg hblank⟩
  · rw [not_exists] at hsome
    exact .inr (.inr ⟨hsome, code_of_none hsome⟩)

theorem code_eq_ok_iff :
    code language answer = .ok core ↔ ∃ t, Selects answer t ∧ t.TrimsTo core ∧ core ≠ [] := by
  constructor
  · intro h
    rcases code_cases language answer with ⟨t, ht, hne, hok⟩ | ⟨_, _, _, herror⟩ | ⟨_, _, _, herror⟩
    · cases h.symm.trans hok
      exact ⟨t, ht, Text.trimsTo_iff.mpr rfl, hne⟩
    · cases h.symm.trans herror
    · cases h.symm.trans herror
  · rintro ⟨t, ht, htrims, hne⟩
    rw [code_of_selects ht, codeIn_eq_ok_iff, ← Text.trimsTo_iff.mp htrims]
    exact ⟨hne, rfl⟩

theorem code_unshaped_iff :
    (∃ message names, code language answer = .error (.responseShape message names)) ↔
      ∀ t, ¬Selects answer t := by
  refine ⟨?_, code_of_none⟩
  rintro ⟨message, names, h⟩ t ht
  rw [code_of_selects ht, codeIn] at h
  split at h <;> cases h

theorem code_empty_iff :
    code language answer = .error (.emptyArtifact language) ↔
      ∃ t, Selects answer t ∧ t.TrimsTo [] := by
  constructor
  · intro h
    rcases code_cases language answer with ⟨_, _, _, hok⟩ | ⟨t, ht, hblank, _⟩ | ⟨_, _, _, herror⟩
    · cases h.symm.trans hok
    · exact ⟨t, ht, Text.trimsTo_iff.mpr hblank.symm⟩
    · cases h.symm.trans herror
  · rintro ⟨t, ht, htrims⟩
    rw [code_of_selects ht, codeIn, if_pos (Text.trimsTo_iff.mp htrims).symm]

theorem code_of_none_in_object (h : ∀ t, ¬Selects (.object fields) t) :
    code language (.object fields) = .error
      (.responseShape CompilerError.unknownShape (some (Text.sort (fields.map Prod.fst)))) := by
  have hnone : ofFields? fields = none := by
    rw [Option.eq_none_iff_forall_ne_some]
    rintro ⟨shape, t⟩ hfound
    exact h t (selects_object_iff.mpr ⟨shape, hfound⟩)
  rw [code, ofAnswer, hnone]

/-! ## What does not show -/

/-- The value at the place of the text in the first choice, if there are choices. -/
def firstSeen (answer : Json) : Option (Option Json) :=
  match Json.at? ["choices"] answer with
  | some (.array (choice :: _)) => some (Json.at? ["message", "content"] choice)
  | _ => none

theorem firstSeen_eq_some_iff {seen : Option Json} :
    firstSeen answer = some seen ↔ ∃ choice later,
      Json.at? ["choices"] answer = some (.array (choice :: later)) ∧
        Json.at? ["message", "content"] choice = seen := by
  rw [firstSeen]
  split
  · next choice later hchoices =>
    constructor
    · intro h
      exact ⟨choice, later, hchoices, Option.some.inj h⟩
    · rintro ⟨choice', later', hchoices', rfl⟩
      cases hchoices.symm.trans hchoices'
      rfl
  · next hno =>
    simp only [reduceCtorEq, false_iff]
    rintro ⟨choice, later, hchoices, -⟩
    exact hno choice later hchoices

theorem firstSeen_eq_none_iff :
    firstSeen answer = none ↔
      ∀ choice later, Json.at? ["choices"] answer ≠ some (.array (choice :: later)) := by
  simp only [Option.eq_none_iff_forall_ne_some, ne_eq, firstSeen_eq_some_iff]
  constructor
  · exact fun h choice later hchoices => h _ ⟨choice, later, hchoices, rfl⟩
  · rintro h seen ⟨choice, later, hchoices, -⟩
    exact h choice later hchoices

/-- Two answers that are the same at the places where text is looked for. -/
structure SameView (answer other : Json) : Prop where
  first : firstSeen answer = firstSeen other
  output : Json.at? ["output", "content"] answer = Json.at? ["output", "content"] other
  content : Json.at? ["content"] answer = Json.at? ["content"] other

theorem SameView.symm {other : Json} (hview : SameView answer other) : SameView other answer :=
  ⟨hview.first.symm, hview.output.symm, hview.content.symm⟩

/-- The view decides what is selected. -/
theorem SameView.selects {other : Json} (hview : SameView answer other) (h : Selects answer t) :
    Selects other t := by
  have hno (hchoices : ∀ choice later,
        Json.at? ["choices"] answer ≠ some (.array (choice :: later))) :
      ∀ choice later, Json.at? ["choices"] other ≠ some (.array (choice :: later)) := by
    rw [← firstSeen_eq_none_iff] at hchoices ⊢
    rw [← hview.first, hchoices]
  have hsome {choice : Json} {later : List Json}
      (hchoices : Json.at? ["choices"] answer = some (.array (choice :: later))) :
      ∃ choice' later', Json.at? ["choices"] other = some (.array (choice' :: later')) ∧
        Json.at? ["message", "content"] choice' = Json.at? ["message", "content"] choice := by
    rw [← firstSeen_eq_some_iff, ← hview.first, firstSeen_eq_some_iff]
    exact ⟨choice, later, hchoices, rfl⟩
  cases h with
  | choice hchoices ht =>
    obtain ⟨choice', later', hother, hsame⟩ := hsome hchoices
    exact .choice hother (hsame.trans ht)
  | noText hchoices hnone =>
    obtain ⟨choice', later', hother, hsame⟩ := hsome hchoices
    exact .noText hother (hsame ▸ hnone)
  | output hchoices ht hne => exact .output (hno hchoices) (hview.output ▸ ht) hne
  | content hchoices houtput ht hne =>
    exact .content (hno hchoices) (hview.output ▸ houtput) (hview.content ▸ ht) hne

/-- A change that no shape looks at keeps the view. -/
theorem Unseen.sameView {other : Json} (h : Unseen answer other) : SameView answer other := by
  -- Whatever looks the same under a name gives the same there.
  have hfirst {answer other : Json} (h : Json.at? ["choices"] answer = Json.at? ["choices"] other) :
      firstSeen answer = firstSeen other := by
    rw [firstSeen, firstSeen, h]
  cases h with
  | field hname =>
    simp only [topNames, List.mem_cons, List.not_mem_nil, or_false, not_or] at hname
    obtain ⟨hchoices, houtput, hcontent⟩ := hname
    exact ⟨hfirst (Json.at?_put_of_ne (Ne.symm hchoices)).symm,
      (Json.at?_put_of_ne (Ne.symm houtput)).symm, (Json.at?_put_of_ne (Ne.symm hcontent)).symm⟩
  | choices hchoices hsame =>
    refine ⟨?_, (Json.at?_put_of_ne (by decide)).symm, (Json.at?_put_of_ne (by decide)).symm⟩
    rw [firstSeen_eq_some_iff.mpr ⟨_, _, hchoices, hsame⟩, eq_comm, firstSeen_eq_some_iff]
    exact ⟨_, _, Json.at?_put, rfl⟩
  | output hvalue hsame =>
    refine ⟨hfirst (Json.at?_put_of_ne (by decide)).symm, ?_,
      (Json.at?_put_of_ne (by decide)).symm⟩
    rw [Json.at?_put, ← hsame, Json.at?_pair, Json.at?_single]
    rw [Json.at?_single] at hvalue
    rw [hvalue, Option.bind_some]
  | order hapart hperm =>
    exact ⟨hfirst (Json.at?_of_perm hapart hperm), Json.at?_of_perm hapart hperm,
      Json.at?_of_perm hapart hperm⟩

/-- Whatever no shape looks at changes nothing about the selected text. -/
theorem Unseen.selects_iff {other : Json} (h : Unseen answer other) :
    Selects answer t ↔ Selects other t :=
  ⟨h.sameView.selects, h.sameView.symm.selects⟩

theorem Unseen.alike {other : Json} (h : Unseen answer other) (language : Option Text) :
    Alike (code language answer) (code language other) := by
  by_cases hsome : ∃ t, Selects answer t
  · obtain ⟨t, ht⟩ := hsome
    rw [code_of_selects ht, code_of_selects (h.selects_iff.mp ht)]
    exact .same
  · rw [not_exists] at hsome
    have hother : ∀ t, ¬Selects other t := fun t ht => hsome t (h.selects_iff.mpr ht)
    cases h with
    | field | choices | output | order =>
      rw [code_of_none_in_object hsome, code_of_none_in_object hother]
      exact .unshaped

/-- The order of the fields does not show at all, as the names in an error are sorted. -/
theorem code_of_perm {others : List (Text × Json)} (hapart : (fields.map Prod.fst).Nodup)
    (h : fields.Perm others) :
    code language (.object fields) = code language (.object others) := by
  have hunseen := Unseen.order hapart h
  by_cases hsome : ∃ t, Selects (.object fields) t
  · obtain ⟨t, ht⟩ := hsome
    rw [code_of_selects ht, code_of_selects (hunseen.selects_iff.mp ht)]
  · rw [not_exists] at hsome
    have hother : ∀ t, ¬Selects (.object others) t := fun t ht =>
      hsome t (hunseen.selects_iff.mpr ht)
    rw [code_of_none_in_object hsome, code_of_none_in_object hother,
      Text.sort_eq_of_perm (h.map Prod.fst)]

/-! ## Code that is answered once more -/

theorem selects_wrap (shape : Shape) (hne : t ≠ []) : Selects (wrap shape t) t := by
  cases shape with
  | choices => exact .choice rfl rfl
  | outputContent => exact .output (by intro _ _ h; cases h) rfl hne
  | content => exact .content (by intro _ _ h; cases h) (by intro _ h; cases h) rfl hne

theorem code_wrap {other : Option Text} (h : code language answer = .ok core) (shape : Shape) :
    code other (wrap shape core) = .ok core := by
  obtain ⟨t, -, htrims, hne⟩ := code_eq_ok_iff.mp h
  have hcore : Text.TrimsTo core core := by
    rw [Text.trimsTo_iff, Text.trimsTo_iff.mp htrims, Text.trim_trim]
  exact code_eq_ok_iff.mpr ⟨core, selects_wrap shape hne, hcore, hne⟩

/-- The code in an answer is what is left of the selected text, if that is anything.  If
no text is selected, as in what is no object, it is the shape that is unknown, and if
nothing is left it is the code that is empty.  Changes that no shape looks at do not
show, but in the names that an error lists, and not even there if only the order of the
fields changes.  Code that is answered once more, in any shape, is read as it is. -/
theorem code_is_trimmed_selection (language : Option Text) (answer : Json) :
    (∀ core, code language answer = .ok core ↔
      ∃ t, Selects answer t ∧ t.TrimsTo core ∧ core ≠ []) ∧
    ((∃ message names, code language answer = .error (.responseShape message names)) ↔
      (∀ fields, answer ≠ .object fields) ∨ ∀ t, ¬Selects answer t) ∧
    (code language answer = .error (.emptyArtifact language) ↔
      ∃ t, Selects answer t ∧ t.TrimsTo []) ∧
    (∀ other, Unseen answer other → Alike (code language answer) (code language other)) ∧
    (∀ fields others, answer = .object fields → (fields.map Prod.fst).Nodup →
      fields.Perm others → code language answer = code language (.object others)) ∧
    ∀ core, code language answer = .ok core →
      ∀ shape language, code language (wrap shape core) = .ok core := by
  refine ⟨fun _ => code_eq_ok_iff, ?_, code_empty_iff, fun _ h => h.alike language, ?_,
    fun _ h shape _ => code_wrap h shape⟩
  · rw [code_unshaped_iff]
    constructor
    · exact .inr
    · rintro (hother | hnone)
      · intro t ht
        obtain ⟨fields, rfl⟩ := ht.exists_fields
        exact hother fields rfl
      · exact hnone
  · rintro fields others rfl hapart hperm
    exact code_of_perm hapart hperm

end Shape

end ProseCompiler
