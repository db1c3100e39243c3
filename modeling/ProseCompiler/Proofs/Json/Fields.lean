import ProseCompiler.Json.Reader
import ProseCompiler.Proofs.Keyed

/-!
# No field comes twice

Fields that are put one after the other have different names.  The fields of an object
that was read are put so: `nodup_of_read`.
-/

namespace ProseCompiler

namespace Json

/-- The names of the fields of a value, if it has any, are different. -/
def HasDistinctFields : Json → Prop
  | .object fields => (fields.map Prod.fst).Nodup
  | _ => True

/-- What is read, if anything is, has a property. -/
def Reads (P : Json → Prop) : Read Json → Prop
  | .ok (value, _, _) => P value
  | .error _ => True

theorem Reads.imp {P Q : Json → Prop} {result : Read Json} (h : Reads P result)
    (hPQ : ∀ value, P value → Q value) : Reads Q result := by
  rcases result with fault | ⟨value, position, rest⟩
  · trivial
  · exact hPQ value h

/-- A value is no object. -/
def IsNoObject (value : Json) : Prop := ∀ fields, value ≠ .object fields

theorem IsNoObject.hasDistinctFields {value : Json} (h : IsNoObject value) :
    HasDistinctFields value := by
  cases value with
  | object fields => exact absurd rfl (h fields)
  | null | bool | integer | real | text | array => trivial

theorem scalarAt_isNoObject (position : Nat) (t : Text) :
    Reads IsNoObject (scalarAt position t) := by
  rw [scalarAt]
  split
  · next found hfound =>
    obtain ⟨⟨word, value⟩, hword, hvalue⟩ := List.exists_of_findSome?_eq_some hfound
    obtain ⟨rest, -, rfl⟩ := Option.map_eq_some_iff.mp hvalue
    have hwords : ∀ entry ∈ words, IsNoObject entry.2 := by
      simp [words, IsNoObject]
    exact hwords _ hword
  · cases numeral? t with
    | none => trivial
    | some n =>
      simp only [Numeral.value]
      split
      · split
        · trivial
        · exact fun _ h => by cases h
      · exact fun _ h => by cases h

/-- The items of an array make an array. -/
theorem itemsAt_isNoObject (fuel depth position : Nat) (done : List Json) (t : Text) :
    Reads IsNoObject (itemsAt fuel depth position done t) := by
  induction fuel generalizing position done t with
  | zero =>
    rw [itemsAt]
    trivial
  | succ fuel ih =>
    rw [itemsAt]
    rcases valueAt fuel depth position t with fault | ⟨value, position, rest⟩
    · trivial
    simp only
    rcases skipGaps position rest with ⟨position, _ | ⟨c, after⟩⟩
    · trivial
    simp only
    split
    · exact fun _ h => by cases h
    split
    · exact ih ..
    · trivial

theorem fieldsAt_distinct (fuel depth position : Nat) {done : List (Text × Json)} (t : Text)
    (hdone : (done.map Prod.fst).Nodup) :
    Reads HasDistinctFields (fieldsAt fuel depth position done t) := by
  induction fuel generalizing position done t with
  | zero =>
    rw [fieldsAt]
    trivial
  | succ fuel ih =>
    rw [fieldsAt.eq_def]
    simp only
    rcases t with _ | ⟨quote, t⟩
    · trivial
    simp only
    split
    · rcases stringFrom position (position + 1) [] 0 t with fault | ⟨name, position, rest⟩
      · trivial
      simp only
      rcases skipGaps position rest with ⟨position, _ | ⟨colon, rest⟩⟩
      · trivial
      simp only
      split
      · rcases valueAt fuel depth (skipGaps (position + 1) rest).1
          (skipGaps (position + 1) rest).2 with fault | ⟨value, position, rest⟩
        · trivial
        have hput : ((putField done name value).map Prod.fst).Nodup :=
          nodup_keys_put name value hdone
        simp only
        rcases skipGaps position rest with ⟨position, _ | ⟨c, after⟩⟩
        · trivial
        simp only
        split
        · exact hput
        split
        · exact ih _ _ hput
        · trivial
      · trivial
    · trivial

theorem valueAt_distinct (fuel depth position : Nat) (t : Text) :
    Reads HasDistinctFields (valueAt fuel depth position t) := by
  cases fuel with
  | zero =>
    rw [valueAt]
    trivial
  | succ fuel =>
    cases t with
    | nil =>
      rw [valueAt]
      trivial
    | cons c rest =>
      rw [valueAt.eq_def]
      simp only
      split
      · rcases stringFrom position (position + 1) [] 0 rest with fault | ⟨text, position, rest⟩ <;>
          trivial
      split
      · cases depth with
        | zero => trivial
        | succ depth =>
          simp only
          rcases skipGaps (position + 1) rest with ⟨position, _ | ⟨d, after⟩⟩
          · exact (itemsAt_isNoObject ..).imp fun _ => IsNoObject.hasDistinctFields
          · simp only
            split
            · trivial
            · exact (itemsAt_isNoObject ..).imp fun _ => IsNoObject.hasDistinctFields
      split
      · cases depth with
        | zero => trivial
        | succ depth =>
          simp only
          rcases skipGaps (position + 1) rest with ⟨position, _ | ⟨d, after⟩⟩
          · exact fieldsAt_distinct _ _ _ _ List.nodup_nil
          · simp only
            split
            · exact List.nodup_nil
            · exact fieldsAt_distinct _ _ _ _ List.nodup_nil
      · exact (scalarAt_isNoObject position (c :: rest)).imp fun _ => IsNoObject.hasDistinctFields

/-- An object that was read has no name twice. -/
theorem nodup_of_read {t : Text} {fields : List (Text × Json)} (h : read t = .ok (.object fields)) :
    (fields.map Prod.fst).Nodup := by
  rw [read] at h
  split at h
  · cases h
  · have hread := valueAt_distinct (t.length + 1) depthLimit (skipGaps 0 t).1 (skipGaps 0 t).2
    simp only at h
    split at h
    · cases h
    · next value position rest heq =>
      rw [heq] at hread
      split at h
      · cases h
        exact hread
      · cases h

end Json

end ProseCompiler
