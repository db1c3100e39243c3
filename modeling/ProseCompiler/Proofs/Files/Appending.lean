import ProseCompiler.Proofs.Encoding.Utf8
import ProseCompiler.Proofs.Files.Directories
import ProseCompiler.Proofs.Files.Writing

/-!
# Adding to the end of a file

A text that has octets is added to the file that its path leads to; one that has none leaves
the file as it is.  Either way the path leads to the same place afterwards, with a file there:
`appendText_cases` and `status_put_of_writable`.  The directories that a file needs above it
are all that is added before: `provideDirectory_adds`.
-/

namespace ProseCompiler.Tree

variable {t t' : Tree} {place : Location} {path text : Text} {content octets : Bytes}

/-! ## The directories above -/

theorem makeOrEnter_adds (t : Tree) (path : Text) : AddsDirectories t (t.makeOrEnter path).1 := by
  rw [makeOrEnter]
  split
  · next made hmake =>
    obtain ⟨-, place, hfind, rfl⟩ := makeDirectory_eq_ok_iff.mp hmake
    exact .put (node?_of_find hfind).symm
  · split
    · exact .refl t
    · split <;> exact .refl t
    · exact .refl t

/-- What the making of one directory keeps is kept by the making of all of them, whatever comes
of it. -/
theorem enterAll_keeps {P : Tree → Prop}
    (hkept : ∀ made path, P made → P (made.makeOrEnter path).1) (ht : P t) (anchor : Anchor)
    (reversed : List Text) : P (t.enterAll anchor reversed).1 := by
  induction reversed generalizing t with
  | nil => exact hkept t _ ht
  | cons name above ih =>
    have hfirst := hkept t (Path.text ⟨anchor, (name :: above).reverse⟩) ht
    rw [enterAll]
    split
    · next tried _ htry =>
      rw [htry] at hfirst
      have habove := ih hfirst
      split
      · next made hmade =>
        rw [hmade] at habove
        exact hkept made _ habove
      · next made fault hmade =>
        rwa [hmade] at habove
    · exact hfirst

/-- `provideDirectory` does what `enterAll` does, or nothing at all. -/
theorem provideDirectory_cases (t : Tree) (anchor : Anchor) (reversed : List Text) :
    t.provideDirectory anchor reversed = t.enterAll anchor reversed ∨
      1 < t.enterAllDepth anchor reversed ∧
        ∃ fault, t.provideDirectory anchor reversed = (t, .error fault) := by
  rw [provideDirectory]
  split
  · exact .inl rfl
  · next hdeep =>
    rw [enterAllLimit] at hdeep
    exact .inr ⟨by omega, _, rfl⟩

theorem provideDirectory_keeps {P : Tree → Prop}
    (hkept : ∀ made path, P made → P (made.makeOrEnter path).1) (ht : P t) (anchor : Anchor)
    (reversed : List Text) : P (t.provideDirectory anchor reversed).1 := by
  rcases provideDirectory_cases t anchor reversed with heq | ⟨-, fault, heq⟩
  · rw [heq]
    exact enterAll_keeps hkept ht anchor reversed
  · rwa [heq]

/-- Only directories are added. -/
theorem provideDirectory_adds (t : Tree) (anchor : Anchor) (reversed : List Text) :
    AddsDirectories t (t.provideDirectory anchor reversed).1 :=
  provideDirectory_keeps (P := AddsDirectories t)
    (fun made path hadds => hadds.trans (makeOrEnter_adds made path)) (.refl t) anchor reversed

/-! ## Appending -/

theorem appendText_of_writable (h : t.writable path = .ok (place, content))
    (hencode : Utf8.encode text = .ok octets) :
    t.appendText path text = (t.put place (.file (content ++ octets)), .ok ()) := by
  rw [appendText, h]
  simp only [hencode]

/-- What cannot be encoded adds nothing. -/
theorem appendText_of_surrogate (h : t.writable path = .ok (place, content))
    (hbad : ∃ c ∈ text, c.isSurrogate = true) :
    (t.appendText path text).1 = t.put place (.file content) := by
  obtain ⟨fault, hencode⟩ := Utf8.encode_isError_iff.mpr hbad
  rw [appendText, h]
  simp only [hencode]

/-- A file can be written to. -/
theorem writable_of_status (h : t.status true path = .ok (place, .file content)) :
    t.writable path = .ok (place, content) := by
  obtain ⟨hcheck, hfind⟩ := status_eq_ok_iff.mp h
  exact writable_eq_ok_iff.mpr ⟨hcheck, .inr hfind⟩

theorem status_put_of_writable (h : t.writable path = .ok (place, content)) (octets : Bytes) :
    (t.put place (.file octets)).status true path = .ok (place, .file octets) :=
  status_eq_ok_iff.mpr ⟨(writable_eq_ok_iff.mp h).1, find_put_of_writable h octets⟩

/-- Once a text was appended, a file stands at the end of the path. -/
theorem appendText_cases (h : t.writable path = .ok (place, content)) (text : Text) :
    ∃ more, (t.appendText path text).1 = t.put place (.file (content ++ more)) := by
  by_cases hbad : ∃ c ∈ text, c.isSurrogate = true
  · exact ⟨[], by rw [appendText_of_surrogate h hbad, List.append_nil]⟩
  · have hencode := Utf8.encode_eq_ok_iff.mpr ⟨by simpa using hbad, rfl⟩
    exact ⟨_, congrArg Prod.fst (appendText_of_writable h hencode)⟩

theorem writable_of_appendText (h : t.appendText path text = (t', .ok ())) :
    ∃ place content, t.writable path = .ok (place, content) := by
  rw [appendText] at h
  cases hwritable : t.writable path with
  | error fault => simp [hwritable] at h
  | ok found => exact ⟨found.1, found.2, rfl⟩

end ProseCompiler.Tree
