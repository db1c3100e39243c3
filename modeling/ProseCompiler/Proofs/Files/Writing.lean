import ProseCompiler.Files.Operations
import ProseCompiler.Proofs.Files.Lookup

/-!
# Writing a file

A text is written to the place that its path leads to, and nowhere else.  The
file there is opened before the text is encoded, so a text that has no octets
leaves it empty: `writeText_error` keeps that case apart from the refusals that
leave the tree alone.
-/

namespace ProseCompiler.Tree

variable {t t' : Tree} {l place : Location} {path text : Text} {content : Bytes}

theorem writable_eq_ok_iff :
    t.writable path = .ok (place, content) ↔
      checkPath path = .ok () ∧
        (t.find true path = .ok (place, none) ∧ content = [] ∨
          t.find true path = .ok (place, some (.file content))) := by
  rw [writable]
  cases hcheck : checkPath path with
  | error fault => simp
  | ok =>
    cases hfind : t.find true path with
    | error error => simp
    | ok found =>
      obtain ⟨other, n⟩ := found
      cases n with
      | none => simp [eq_comm]
      | some node => cases node <;> simp

theorem find_of_writable (h : t.writable path = .ok (place, content)) :
    ∃ n, t.find true path = .ok (place, n) := by
  obtain ⟨-, ⟨hfind, -⟩ | hfind⟩ := writable_eq_ok_iff.mp h
  · exact ⟨_, hfind⟩
  · exact ⟨_, hfind⟩

/-- Nothing or a file stands at the place that can be written to. -/
theorem node?_of_writable (h : t.writable path = .ok (place, content)) :
    t.node? place = none ∨ t.node? place = some (.file content) := by
  obtain ⟨-, ⟨hfind, -⟩ | hfind⟩ := writable_eq_ok_iff.mp h
  · exact .inl (node?_of_find hfind).symm
  · exact .inr (node?_of_find hfind).symm

theorem isLeaf_of_writable (h : t.writable path = .ok (place, content)) : t.IsLeaf place := by
  rcases node?_of_writable h with hnone | hfile
  · exact ⟨by simp [hnone], fun _ => by simp [hnone]⟩
  · exact ⟨by simp [hfile], fun _ => by simp [hfile]⟩

/-- A written file is found under its path. -/
theorem find_put_of_writable (h : t.writable path = .ok (place, content)) (octets : Bytes) :
    (t.put place (.file octets)).find true path = .ok (place, some (.file octets)) := by
  have hleaf := isLeaf_of_writable h
  obtain ⟨n, hfind⟩ := find_of_writable h
  have hput := find_put (e := .file octets) hleaf (fun _ => by simp) hfind
  rwa [node?_put_self hleaf.ne_nil] at hput

/-- A text that is written stands as octets at the place that its path leads to. -/
theorem writeText_ok (h : t.writeText path text = (t', .ok ())) :
    ∃ place old octets, t.writable path = .ok (place, old) ∧ Utf8.encode text = .ok octets ∧
      t' = t.put place (.file octets) := by
  rw [writeText] at h
  cases hwritable : t.writable path with
  | error fault =>
    rw [hwritable] at h
    cases h
  | ok found =>
    obtain ⟨place, old⟩ := found
    rw [hwritable] at h
    cases hencode : Utf8.encode text with
    | error fault =>
      simp [hencode] at h
    | ok octets =>
      simp only [hencode, Prod.mk.injEq, and_true] at h
      exact ⟨place, old, octets, rfl, rfl, h.symm⟩

/-- A text is not written because its path cannot be opened, which changes
nothing, or because it has no octets, which empties the file. -/
theorem writeText_error {fault : Fault} (h : t.writeText path text = (t', .error fault)) :
    (∃ refusal, t.writable path = .error refusal ∧ t' = t) ∨
      ∃ place old stretch, t.writable path = .ok (place, old) ∧
        Utf8.encode text = .error stretch ∧ t' = t.put place (.file []) := by
  rw [writeText] at h
  cases hwritable : t.writable path with
  | error refusal =>
    simp only [hwritable, Prod.mk.injEq] at h
    exact .inl ⟨refusal, rfl, h.1.symm⟩
  | ok found =>
    obtain ⟨place, old⟩ := found
    rw [hwritable] at h
    cases hencode : Utf8.encode text with
    | error stretch =>
      simp only [hencode, Prod.mk.injEq] at h
      exact .inr ⟨place, old, stretch, rfl, rfl, h.1.symm⟩
    | ok octets =>
      simp [hencode] at h

/-- Whatever comes of it, a file at the place of the path is all that changes. -/
theorem writeText_changes (t : Tree) (path text : Text) :
    (t.writeText path text).1 = t ∨
      ∃ place old octets, t.writable path = .ok (place, old) ∧
        (t.writeText path text).1 = t.put place (.file octets) := by
  rcases hwrite : t.writeText path text with ⟨t', fault | _⟩
  · rcases writeText_error hwrite with ⟨_, -, rfl⟩ | ⟨place, old, _, hopen, -, rfl⟩
    · exact .inl rfl
    · exact .inr ⟨place, old, [], hopen, rfl⟩
  · obtain ⟨place, old, octets, hopen, -, rfl⟩ := writeText_ok hwrite
    exact .inr ⟨place, old, octets, hopen, rfl⟩

end ProseCompiler.Tree
