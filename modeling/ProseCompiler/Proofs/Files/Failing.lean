import ProseCompiler.Proofs.Files.Joining

/-!
# How a resolution fails

A resolution asks the system about texts that are put together from the text that is resolved
and from what stands in the tree.  Whatever code points these are made of (`Text.IsMadeOf`), so
is everything that a resolution comes to, and every text that it fails for (`madeOf_kept`).

So a path fails to resolve in three ways: for a text that the system cannot be asked about,
for links that lie too deep inside one another, and for a place where the system itself finds
too many links (`resolve_error_cases`).
-/

namespace ProseCompiler

/-- All code points of a text have a property. -/
def Text.IsMadeOf (P : CodePoint → Prop) (t : Text) : Prop := ∀ c ∈ t, P c

/-- All code points in the components of a path have a property. -/
def Path.IsMadeOf (P : CodePoint → Prop) (p : Path) : Prop := ∀ part ∈ p.parts, Text.IsMadeOf P part

theorem Path.IsMadeOf.child {P : CodePoint → Prop} {p : Path} {name : Text} (hp : p.IsMadeOf P)
    (hname : Text.IsMadeOf P name) : (p.child name).IsMadeOf P := by
  intro part hpart
  rcases List.mem_append.mp hpart with hpart | hpart
  · exact hp part hpart
  · rw [List.mem_singleton.mp hpart]
    exact hname

namespace Tree

variable {P : CodePoint → Prop} {t : Tree} {path known : Path} {followed : Followed}
  {ps rest : List Text} {text start target : Text} {fault : Fault} {place : Location}
  {follow : Followed → Path → List Text → Except Fault Resolution}

/-- What a tree adds to a text that is resolved: separators and steps up, the place where the
program stands, and targets of links. -/
structure Adds (t : Tree) (P : CodePoint → Prop) : Prop where
  slash : P '/'
  dot : P '.'
  working : ∀ name ∈ t.workingDirectory, Text.IsMadeOf P name
  target : ∀ {l target}, t.node? l = some (.link target) → Text.IsMadeOf P target

/-- A resolution fails for a text that is made of such code points, or in too many links inside
one another. -/
def FailsFor (P : CodePoint → Prop) (fault : Fault) : Prop :=
  fault = .tooDeep "maximum recursion depth exceeded" ∨
    ∃ text, Text.IsMadeOf P text ∧ checkPath text = .error fault

/-- What is made of such code points leads to what is. -/
def madeOf (P : CodePoint → Prop) : Invariant where
  onPath := Path.IsMadeOf P
  onPiece := Text.IsMadeOf P
  onText := Text.IsMadeOf P
  onFault := FailsFor P

/-! ## What texts are made of -/

theorem isMadeOf_of_pieces (h : Text.IsMadeOf P text) :
    ∀ piece ∈ Path.pieces text, Text.IsMadeOf P piece :=
  fun _ hpiece c hc => h c (Text.mem_of_mem_splitOn hpiece hc)

theorem isMadeOf_joinWith (hslash : P '/') (hps : ∀ piece ∈ ps, Text.IsMadeOf P piece) :
    Text.IsMadeOf P (Text.joinWith "/" ps) := by
  intro c hc
  have hmem : c ∈ Location.text ps := List.mem_cons_of_mem _ hc
  rcases mem_text_iff.mp hmem with rfl | ⟨piece, hpiece, hc⟩
  · exact hslash
  · exact hps piece hpiece c hc

theorem isMadeOf_location (hslash : P '/') (hplace : ∀ name ∈ place, Text.IsMadeOf P name) :
    Text.IsMadeOf P (Location.text place) :=
  List.forall_mem_cons.mpr ⟨hslash, isMadeOf_joinWith hslash hplace⟩

namespace Adds

variable (hadds : t.Adds P)

include hadds

theorem up : Text.IsMadeOf P Path.up := by
  intro c hc
  have hdots : ∀ d ∈ Path.up, d = ('.' : CodePoint) := by decide
  rw [hdots c hc]
  exact hadds.dot

theorem above (hpath : path.IsMadeOf P) : (above path).IsMadeOf P := by
  rw [Tree.above]
  split
  · split
    · exact hpath
    · intro part hpart
      rw [List.mem_singleton.mp hpart]
      exact hadds.up
  · split
    · exact Path.IsMadeOf.child hpath hadds.up
    · exact fun part hpart => hpath part ((List.dropLast_sublist path.parts).mem hpart)

theorem pathText (hpath : path.IsMadeOf P) : Text.IsMadeOf P path.text := by
  intro c hc
  by_cases hhere : path.anchor = .relative ∧ path.parts = []
  · rw [Path.text, if_pos hhere] at hc
    rw [List.mem_singleton.mp hc]
    exact hadds.dot
  · rcases eq_slash_or_of_mem_text hhere hc with rfl | ⟨part, hpart, hc⟩
    · exact hadds.slash
    · exact hpath part hpart c hc

theorem withRest (hstart : Text.IsMadeOf P start) (hrest : ∀ piece ∈ rest, Text.IsMadeOf P piece) :
    Text.IsMadeOf P (withRest start rest) := by
  have hjoined := isMadeOf_joinWith hadds.slash hrest
  have hseparator : Text.IsMadeOf P "/" := fun c hc => List.mem_singleton.mp hc ▸ hadds.slash
  rw [Tree.withRest]
  split
  · exact hjoined
  · split
    · exact List.forall_mem_append.mpr ⟨hstart, hjoined⟩
    · exact List.forall_mem_append.mpr ⟨List.forall_mem_append.mpr ⟨hstart, hseparator⟩, hjoined⟩

/-- The place that a text leads to is made of the code points of the text. -/
theorem ofText (htext : Text.IsMadeOf P text) :
    ∀ name ∈ Location.ofText t.workingDirectory text, Text.IsMadeOf P name := by
  intro name hname
  rw [Location.ofText] at hname
  rcases mem_walk hname with hname | hname
  · split at hname
    · exact hadds.working name hname
    · cases hname
  · exact isMadeOf_of_pieces htext name hname

end Adds

/-! ## Resolutions -/

theorem madeOf_kept (hadds : t.Adds P) : (madeOf P).Kept t where
  root := List.forall_mem_nil _
  above := hadds.above
  child hpath hpiece _ _ _ := Path.IsMadeOf.child hpath hpiece
  target hlink := isMadeOf_of_pieces (hadds.target hlink)
  text := hadds.pathText
  withRest := hadds.withRest
  refused hpath hcheck := .inr ⟨_, hadds.pathText hpath, hcheck⟩
  tooDeep := .inl rfl

/-- The real place of a text is made of the code points of the text, or the system is asked
about a text that is made of them and cannot be asked about it. -/
theorem realPlace_isMadeOf (hadds : t.Adds P) (htext : Text.IsMadeOf P text) :
    (∀ place, t.realPlace text = .ok place → ∀ name ∈ place, Text.IsMadeOf P name) ∧
      ∀ fault, t.realPlace text = .error fault → FailsFor P fault := by
  have hstart : Path.IsMadeOf P (startPath text) := by
    rw [startPath]
    split <;> simp [Path.IsMadeOf]
  have hends : (madeOf P).AtEnd
      (t.resolveWithin resolveDepth [] (startPath text) (Path.pieces text)) :=
    (madeOf_kept hadds).resolveWithin resolveDepth (by simp [Followed.All]) hstart
      (isMadeOf_of_pieces htext)
  rw [realPlace_eq]
  split
  · next hfails =>
    rw [hfails] at hends
    refine ⟨by simp, fun fault hfault => ?_⟩
    cases hfault
    exact hends
  · next hlooped =>
    rw [hlooped] at hends
    refine ⟨fun place hplace => ?_, by simp⟩
    cases hplace
    exact hadds.ofText hends
  · next resolved followed hresolved =>
    rw [hresolved] at hends
    refine ⟨fun place hplace => ?_, by simp⟩
    cases hplace
    refine hadds.ofText ?_
    rw [reachedText]
    split
    · simp [Text.IsMadeOf]
    · exact hadds.pathText hends.1

/-- A path has no entry because the system cannot be asked about it, or because of what the
system says. -/
theorem status_error_cases {followLast : Bool} (h : t.status followLast text = .error fault) :
    checkPath text = .error fault ∨ ∃ error, fault = .system error text ∧
      (t.find followLast text = .error error ∨ error = .noEntry) := by
  rw [status] at h
  cases hcheck : checkPath text with
  | error fault' =>
    rw [hcheck] at h
    cases h
    exact .inl rfl
  | ok =>
    rw [hcheck] at h
    simp only [bind, Except.bind] at h
    split at h
    · next error hfind =>
      cases h
      exact .inr ⟨error, rfl, .inl hfind⟩
    · cases h
      exact .inr ⟨.noEntry, rfl, .inr rfl⟩
    · cases h

/-- The ways in which a path can fail to resolve. -/
theorem resolve_error_cases (hadds : t.Adds P) (hpath : Text.IsMadeOf P path.text)
    (h : t.resolve path = .error fault) :
    FailsFor P fault ∨ ∃ place, fault = .linkLoop (Location.text place) ∧
      t.find true (Location.text place) = .error .tooManyLinks := by
  obtain ⟨hplace, hfails⟩ := realPlace_isMadeOf hadds hpath
  rw [resolve] at h
  cases hreal : t.realPlace path.text with
  | error fault =>
    rw [hreal] at h
    cases h
    exact .inl (hfails fault hreal)
  | ok place =>
    have hmade := isMadeOf_location hadds.slash (hplace place hreal)
    rw [hreal] at h
    simp only at h
    split at h
    · next hstatus =>
      cases h
      refine .inr ⟨place, rfl, ?_⟩
      rcases status_error_cases hstatus with hcheck | ⟨error, hsystem, hfind⟩
      · exact absurd rfl (checkPath_error hcheck _ _)
      · cases hsystem
        exact hfind.resolve_right (by simp)
    · cases h
    · cases h
    · next fault' _ hother hstatus =>
      cases h
      rcases status_error_cases hstatus with hcheck | ⟨error, hsystem, -⟩
      · exact .inl (.inr ⟨_, hmade, hcheck⟩)
      · exact absurd hsystem (hother error _)

end Tree

end ProseCompiler
