import ProseCompiler.Proofs.Json.Fields
import Mathlib.Data.List.Induction

/-!
# The members that a text lists

An object in a text may name a field more than once.  `Lists` says which members a text
lists, all of them and in the order of the text, as the reader comes upon them.  What is
read is the object in which each name stands where it first came, with the value that
came last: `read_object_iff`, with `names_merge` and `lookup_merge` for the object.
-/

namespace ProseCompiler

namespace Json

/-! ## Members in one object -/

/-- The names of members, in the order in which they first come. -/
def firstNames (members : List (Text × Json)) : List Text := (members.map Prod.fst).eraseDups

/-- The value that comes last under a name. -/
def last? (members : List (Text × Json)) (name : Text) : Option Json :=
  members.reverse.lookup name

/-- The fields that are left of members which are put one after the other. -/
def merge (members : List (Text × Json)) : List (Text × Json) :=
  members.foldl (fun fields (name, value) => putField fields name value) []

variable {members : List (Text × Json)} {name : Text}

theorem merge_concat (members : List (Text × Json)) (name : Text) (value : Json) :
    merge (members ++ [(name, value)]) = putField (merge members) name value := by
  rw [merge, List.foldl_append]
  rfl

theorem names_putField (fields : List (Text × Json)) (name : Text) (value : Json) :
    (putField fields name value).map Prod.fst =
      if name ∈ fields.map Prod.fst then fields.map Prod.fst
      else fields.map Prod.fst ++ [name] := by
  have hthere : (fields.any fun (n, _) => n == name) = true ↔ name ∈ fields.map Prod.fst := by
    simp [List.any_eq_true]
  rw [putField]
  by_cases hname : name ∈ fields.map Prod.fst
  · rw [if_pos (hthere.mpr hname), if_pos hname, List.map_map]
    refine List.map_congr_left fun entry _ => ?_
    simp only [Function.comp_apply]
    split <;> rfl
  · rw [if_neg (mt hthere.mp hname), if_neg hname, List.map_append]
    rfl

/-- Every name keeps the place where it first came. -/
theorem names_merge (members : List (Text × Json)) :
    (merge members).map Prod.fst = firstNames members := by
  induction members using List.reverseRecOn with
  | nil => rfl
  | append_singleton members member ih =>
    obtain ⟨name, value⟩ := member
    rw [merge_concat, names_putField, ih, firstNames, firstNames, List.map_append,
      List.eraseDups_append]
    by_cases hname : name ∈ members.map Prod.fst
    · simp [hname, List.removeAll]
    · simp [hname, List.removeAll, List.eraseDups_cons]

/-- Members that are put among fields, one after the other. -/
def putAll (fields members : List (Text × Json)) : List (Text × Json) :=
  members.foldl (fun fields (name, value) => putField fields name value) fields

theorem putAll_concat (fields members : List (Text × Json)) (name : Text) (value : Json) :
    putAll fields (members ++ [(name, value)]) = putField (putAll fields members) name value := by
  rw [putAll, List.foldl_append]
  rfl

/-- The last member of a name decides, and the field that was there if there is none. -/
theorem lookup_putAll (fields members : List (Text × Json)) (name : Text) :
    (putAll fields members).lookup name = (last? members name).or (fields.lookup name) := by
  induction members using List.reverseRecOn with
  | nil => rfl
  | append_singleton members member ih =>
    obtain ⟨other, value⟩ := member
    rw [putAll_concat, putField, lookup_put, ih, last?, last?, List.reverse_append]
    by_cases hname : name = other
    · simp [hname]
    · simp [hname, List.lookup_cons, beq_eq_false_iff_ne.mpr hname]

theorem nodup_putAll {fields : List (Text × Json)} (members : List (Text × Json))
    (h : (fields.map Prod.fst).Nodup) : ((putAll fields members).map Prod.fst).Nodup := by
  induction members using List.reverseRecOn with
  | nil => exact h
  | append_singleton members member ih =>
    rw [putAll_concat]
    exact nodup_keys_put member.1 member.2 ih

/-- Every name has the value that came last. -/
theorem lookup_merge (members : List (Text × Json)) (name : Text) :
    (merge members).lookup name = last? members name := by
  have hlookup := lookup_putAll [] members name
  rwa [List.lookup_nil, Option.or_none] at hlookup

theorem last?_mem {value : Json} (h : last? members name = some value) :
    (name, value) ∈ members := by
  obtain ⟨after, before, hmembers, -⟩ := List.lookup_eq_some_iff.mp h
  exact List.mem_reverse.mp (hmembers ▸ List.mem_append_cons_self)

/-- Members of other names make no difference. -/
theorem last?_filter (members : List (Text × Json)) (keeps : Text → Bool) (name : Text) :
    last? (members.filter fun (name, _) => keeps name) name =
      if keeps name then last? members name else none := by
  rw [last?, last?, ← List.filter_reverse]
  induction members.reverse with
  | nil => simp
  | cons member members ih =>
    obtain ⟨other, value⟩ := member
    by_cases hname : name = other
    · subst hname
      cases hkeeps : keeps name with
      | true => simp [hkeeps]
      | false =>
        rw [List.filter_cons_of_neg (by simp [hkeeps]), ih, hkeeps]
        rfl
    · have hother : (name == other) = false := beq_eq_false_iff_ne.mpr hname
      have hlookup : ((other, value) :: members).lookup name = members.lookup name := by
        rw [List.lookup_cons, hother]
      rw [hlookup, ← ih]
      cases hkeeps : keeps other with
      | true => rw [List.filter_cons_of_pos (by simp [hkeeps]), List.lookup_cons, hother]
      | false => rw [List.filter_cons_of_neg (by simp [hkeeps])]

/-! ## Members in a text -/

/-- A member stands at a position: its name as a string, a colon and its value, with gaps
between them and behind. -/
inductive MemberAt (fuel depth position : Nat) :
    Text → Text × Json → (behind : Nat) → Text → Prop where
  | intro {rest afterName afterColon afterValue after name : Text} {value : Json}
      {nameEnd colon valueEnd behind : Nat}
      (hname : stringFrom position (position + 1) [] 0 rest = .ok (name, nameEnd, afterName))
      (hcolon : skipGaps nameEnd afterName = (colon, (':' : CodePoint) :: afterColon))
      (hvalue : valueAt fuel depth (skipGaps (colon + 1) afterColon).1
        (skipGaps (colon + 1) afterColon).2 = .ok (value, valueEnd, afterValue))
      (hbehind : skipGaps valueEnd afterValue = (behind, after)) :
      MemberAt fuel depth position (('"' : CodePoint) :: rest) (name, value) behind after

/-- Members stand at a position, with commas between them and a closing brace behind. -/
inductive MembersAt (depth : Nat) :
    (fuel position : Nat) → Text → List (Text × Json) → (behind : Nat) → Text → Prop where
  | last {fuel position close : Nat} {t after : Text} {member : Text × Json}
      (h : MemberAt fuel depth position t member close (('\x7d' : CodePoint) :: after)) :
      MembersAt depth (fuel + 1) position t [member] (close + 1) after
  | more {fuel position comma behind : Nat} {t rest after : Text} {member : Text × Json}
      {members : List (Text × Json)}
      (h : MemberAt fuel depth position t member comma ((',' : CodePoint) :: rest))
      (hrest : MembersAt depth fuel (skipGaps (comma + 1) rest).1 (skipGaps (comma + 1) rest).2
        members behind after) :
      MembersAt depth (fuel + 1) position t (member :: members) behind after

/-- What stands behind an opening brace: a closing one, or members. -/
inductive BodyAt (depth fuel position : Nat) (t : Text) :
    List (Text × Json) → (behind : Nat) → Text → Prop where
  | none {close : Nat} {after : Text}
      (h : skipGaps position t = (close, ('\x7d' : CodePoint) :: after)) :
      BodyAt depth fuel position t [] (close + 1) after
  | some {members : List (Text × Json)} {behind : Nat} {after : Text}
      (h : MembersAt depth fuel (skipGaps position t).1 (skipGaps position t).2
        members behind after) :
      BodyAt depth fuel position t members behind after

/-- The members that a text lists between the braces that are all of it. -/
def Lists (text : Text) (members : List (Text × Json)) : Prop :=
  text.head? ≠ some (CodePoint.ofNat 0xFEFF) ∧ ∃ start rest behind after,
    skipGaps 0 text = (start, ('\x7b' : CodePoint) :: rest) ∧
      BodyAt (depthLimit - 1) text.length (start + 1) rest members behind after ∧
        (skipGaps behind after).2 = []

section Reading

variable {fuel depth position behind : Nat} {t after : Text} {done : List (Text × Json)}
  {value : Json}

theorem fieldsAt_of_membersAt (h : MembersAt depth fuel position t members behind after)
    (done : List (Text × Json)) :
    fieldsAt fuel depth position done t = .ok (.object
      (members.foldl (fun fields (name, value) => putField fields name value) done),
      behind, after) := by
  induction h generalizing done with
  | last h =>
    obtain ⟨hname, hcolon, hvalue, hbehind⟩ := h
    rw [fieldsAt]
    simp [hname, hcolon, hvalue, hbehind]
  | @more fuel position _ _ _ _ _ _ _ h _ ih =>
    obtain ⟨hname, hcolon, hvalue, hbehind⟩ := h
    rw [fieldsAt]
    have hcomma : ¬(',' : CodePoint) = '\x7d' := by decide
    simp only [if_true, hname, hcolon, hvalue, hbehind, if_neg hcomma]
    exact ih _

theorem membersAt_of_fieldsAt
    (h : fieldsAt fuel depth position done t = .ok (value, behind, after)) :
    ∃ members, MembersAt depth fuel position t members behind after ∧ value = .object
      (members.foldl (fun fields (name, value) => putField fields name value) done) := by
  induction fuel generalizing position done t with
  | zero =>
    rw [fieldsAt] at h
    cases h
  | succ fuel ih =>
    rw [fieldsAt.eq_def] at h
    simp only at h
    rcases t with _ | ⟨quote, t⟩
    · cases h
    simp only at h
    split at h
    · next hquote =>
      subst hquote
      rcases hname : stringFrom position (position + 1) [] 0 t with
        fault | ⟨name, nameEnd, afterName⟩
      · simp only [hname] at h
        cases h
      simp only [hname] at h
      rcases hcolon : skipGaps nameEnd afterName with ⟨colon, _ | ⟨c, afterColon⟩⟩
      · simp only [hcolon] at h
        cases h
      simp only [hcolon] at h
      split at h
      · next hc =>
        subst hc
        rcases hvalue : valueAt fuel depth (skipGaps (colon + 1) afterColon).1
          (skipGaps (colon + 1) afterColon).2 with fault | ⟨content, valueEnd, afterValue⟩
        · simp only [hvalue] at h
          cases h
        simp only [hvalue] at h
        rcases hbehind : skipGaps valueEnd afterValue with ⟨sign, _ | ⟨d, rest⟩⟩
        · simp only [hbehind] at h
          cases h
        have hmember := MemberAt.intro hname hcolon hvalue hbehind
        simp only [hbehind] at h
        split at h
        · next hd =>
          subst hd
          cases h
          exact ⟨[(name, content)], .last hmember, rfl⟩
        split at h
        · next hd =>
          subst hd
          obtain ⟨members, hmembers, hobject⟩ := ih h
          exact ⟨(name, content) :: members, .more hmember hmembers, hobject⟩
        · cases h
      · cases h
    · cases h

theorem Reads.not_object {result : Read Json} {fields : List (Text × Json)}
    (hresult : Reads IsNoObject result) : result ≠ .ok (.object fields, behind, after) := by
  rintro rfl
  exact hresult fields rfl

/-- What is read as an object stands between braces, as members that are put one after the
other. -/
theorem valueAt_eq_object_iff {fields : List (Text × Json)} :
    valueAt (fuel + 1) (depth + 1) position t = .ok (.object fields, behind, after) ↔
      ∃ rest members, t = ('\x7b' : CodePoint) :: rest ∧
        BodyAt depth fuel (position + 1) rest members behind after ∧ fields = merge members := by
  constructor
  · intro h
    cases t with
    | nil =>
      rw [valueAt] at h
      cases h
    | cons c rest =>
      rw [valueAt.eq_def] at h
      simp only at h
      split at h
      · rcases hstring : stringFrom position (position + 1) [] 0 rest with fault | found <;>
          rw [hstring] at h <;> cases h
      split at h
      · rcases hgaps : skipGaps (position + 1) rest with ⟨start, _ | ⟨d, items⟩⟩
        · rw [hgaps] at h
          exact absurd h (itemsAt_isNoObject ..).not_object
        · rw [hgaps] at h
          simp only at h
          split at h
          · cases h
          · exact absurd h (itemsAt_isNoObject ..).not_object
      split at h
      · next hbrace =>
        subst hbrace
        -- The object is empty, or the reader goes on with the members behind the gaps.
        have hsome : fieldsAt fuel depth (skipGaps (position + 1) rest).1 []
              (skipGaps (position + 1) rest).2 = .ok (.object fields, behind, after) →
            ∃ members, BodyAt depth fuel (position + 1) rest members behind after ∧
              fields = merge members := by
          intro hfields
          obtain ⟨members, hmembers, hobject⟩ := membersAt_of_fieldsAt hfields
          exact ⟨members, .some hmembers, Json.object.inj hobject⟩
        have hbody : ∃ members, BodyAt depth fuel (position + 1) rest members behind after ∧
            fields = merge members := by
          rcases hgaps : skipGaps (position + 1) rest with ⟨start, _ | ⟨d, body⟩⟩
          · rw [hgaps] at h hsome
            exact hsome h
          · rw [hgaps] at h hsome
            simp only at h
            split at h
            · next hd =>
              subst hd
              cases h
              exact ⟨[], .none hgaps, rfl⟩
            · exact hsome h
        obtain ⟨members, hmembers, hfields⟩ := hbody
        exact ⟨rest, members, rfl, hmembers, hfields⟩
      · exact absurd h (scalarAt_isNoObject ..).not_object
  · rintro ⟨rest, members, rfl, hbody, rfl⟩
    have hquote : ¬('\x7b' : CodePoint) = '"' := by decide
    have hbracket : ¬('\x7b' : CodePoint) = '[' := by decide
    rw [valueAt]
    simp only [if_true, if_neg hquote, if_neg hbracket]
    cases hbody with
    | none h => simp [h, merge]
    | some h =>
      have hread := fieldsAt_of_membersAt h []
      rcases hgaps : skipGaps (position + 1) rest with ⟨start, _ | ⟨d, body⟩⟩
      · rw [hgaps] at hread
        exact hread
      · rw [hgaps] at h hread
        -- Members begin with a quotation mark, so the object is not closed at once.
        have hd : d = '"' := by
          cases h with
          | last h | more h _ =>
            cases h
            rfl
        have hopen : ¬d = '\x7d' := by
          subst hd
          decide
        simp only [if_neg hopen]
        exact hread

/-- A text is read as an object if it lists members, and the object is what is left of
them. -/
theorem read_object_iff {text : Text} {fields : List (Text × Json)} :
    read text = .ok (.object fields) ↔
      ∃ members, Lists text members ∧ fields = merge members := by
  rw [read]
  constructor
  · intro h
    split at h
    · cases h
    · next hmark =>
      simp only at h
      split at h
      · cases h
      · next value behind after hvalue =>
        split at h
        · next hend =>
          cases h
          obtain ⟨rest, members, hopen, hbody, hfields⟩ := valueAt_eq_object_iff.mp hvalue
          refine ⟨members, ⟨hmark, _, rest, behind, after, ?_, hbody, ?_⟩, hfields⟩
          · exact Prod.ext rfl hopen
          · rw [hend]
        · cases h
  · rintro ⟨members, ⟨hmark, start, rest, behind, after, hopen, hbody, hend⟩, rfl⟩
    have hvalue : valueAt (text.length + 1) depthLimit start (('\x7b' : CodePoint) :: rest) =
        .ok (.object (merge members), behind, after) :=
      valueAt_eq_object_iff.mpr ⟨rest, members, rfl, hbody, rfl⟩
    rw [if_neg hmark, hopen]
    simp only [hvalue]
    rcases hgaps : skipGaps behind after with ⟨position, _ | ⟨c, more⟩⟩
    · rfl
    · rw [hgaps] at hend
      cases hend

end Reading

end Json

end ProseCompiler
