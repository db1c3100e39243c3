import ProseCompiler.Proofs.Watch.Origins

/-!
# When a start fails

A watcher that cannot be started is meant to stay as it was: idle, without an observer that
runs, and with no run dispatched (`Undone`).  That is so exactly if the start fails for want
of its root: `failed_start_undone_iff`.  Once the root has been found the watcher is
watching, and nothing that hinders it then is undone: an observer that refuses, a pattern
for names that is none, a directory or a file that cannot be looked at, or a document that
cannot be resolved (`Hindrance`).
-/

namespace ProseCompiler.Watcher

variable {setup : Setup} {tree : Tree} {refusal : Refusal} {path : Path} {root : Location}
  {w : Watcher} {fault : Fault} {found : List (List Text)} {reports : List Report}

/-- The directory that a start is made on. -/
def findRoot (tree : Tree) (path : Path) : Except Fault Location :=
  match tree.resolve path with
  | .error fault => .error fault
  | .ok root =>
    match tree.isDirectory (Location.text root) with
    | .error fault => .error fault
    | .ok false => .error (.noDirectory (Location.text root))
    | .ok true => .ok root

/-- The watcher as a start leaves it, whatever comes of the start then. -/
def watchingOn (w : Watcher) (root : Location) : Watcher :=
  { w with phase := .watching, root := some root, isObserving := true }

/-- An idle watcher is set on its root as soon as that is found. -/
theorem start_of_idle (hidle : w.phase = .idle) (setup : Setup) (tree : Tree) (refusal : Refusal)
    (path : Path) :
    w.start setup tree refusal path =
      match findRoot tree path with
      | .error fault => ((w, []), .error (.unexpected fault))
      | .ok root =>
        ((observe setup tree refusal root (w.watchingOn root)).1,
          (observe setup tree refusal root (w.watchingOn root)).2.mapError .unexpected) := by
  rw [start, if_neg (not_not.mpr hidle)]
  unfold findRoot
  cases tree.resolve path with
  | error fault => rfl
  | ok root =>
    simp only
    cases tree.isDirectory (Location.text root) with
    | error fault => rfl
    | ok isDirectory => cases isDirectory <;> rfl

/-! ## What hinders a watcher on its root -/

/-- What can fail once the root has been found: the observer, the search for documents, or a
document that was found. -/
inductive Hindrance (setup : Setup) (tree : Tree) (refusal : Refusal) (root : Location)
    (fault : Fault) : Prop
  | schedule (hrefusal : refusal (.schedule (Location.text root)) = some fault)
  | observer (hrefusal : refusal .start = some fault)
  | search (hscans : setup.scansFirst = true)
      (hsearch : tree.search root (namePattern setup) = .error fault)
  | file {found : List (List Text)} {parts : List Text} (hscans : setup.scansFirst = true)
      (hsearch : tree.search root (namePattern setup) = .ok found) (hparts : parts ∈ found)
      (hfile : tree.isFile (Tree.pathBelow root parts) = .error fault)
  | document {found : List (List Text)} {parts : List Text} (hscans : setup.scansFirst = true)
      (hsearch : tree.search root (namePattern setup) = .ok found) (hparts : parts ∈ found)
      (hfile : tree.isFile (Tree.pathBelow root parts) = .ok true)
      (hdocument : documentAt tree root (Path.text ⟨.relative, parts⟩) = .error fault)

/-- An event fails only if its path cannot be resolved. -/
theorem documentAt_of_handleEvent {kind text : Text} (hroot : w.root = some root)
    (h : w.handleEvent setup tree kind text = .error fault) :
    documentAt tree root text = .error fault := by
  unfold handleEvent at h
  rw [hroot, Option.getD_some] at h
  split at h
  · split at h
    · next hdocument =>
      cases h
      exact hdocument
    · cases h
  · cases h

/-- Additions fail at a file that cannot be looked at, or that cannot be resolved. -/
theorem handleAdditions_error (hroot : w.root = some root)
    (h : (handleAdditions setup tree root w reports found).2 = .error fault) :
    ∃ parts ∈ found, tree.isFile (Tree.pathBelow root parts) = .error fault ∨
      tree.isFile (Tree.pathBelow root parts) = .ok true ∧
        documentAt tree root (Path.text ⟨.relative, parts⟩) = .error fault := by
  induction found generalizing w reports with
  | nil => cases h
  | cons parts rest ih =>
    have hlater {w' : Watcher} {reports' : List Report} (hroot' : w'.root = some root)
        (h : (handleAdditions setup tree root w' reports' rest).2 = .error fault) :=
      (ih hroot' h).imp fun _ hparts => And.imp_left (List.mem_cons_of_mem parts) hparts
    unfold handleAdditions at h
    split at h
    · next hfile =>
      cases h
      exact ⟨parts, List.mem_cons_self, .inl hfile⟩
    · exact hlater hroot h
    · next hfile =>
      split at h
      · next hevent =>
        cases h
        exact ⟨parts, List.mem_cons_self, .inr ⟨hfile, documentAt_of_handleEvent hroot hevent⟩⟩
      · next hevent => exact hlater ((handleEvent_keeps hevent).root.trans hroot) h

/-- What goes wrong on the root is a hindrance. -/
theorem hindrance_of_observe (hroot : w.root = some root)
    (h : (observe setup tree refusal root w).2 = .error fault) :
    Hindrance setup tree refusal root fault := by
  cases hschedule : refusal (.schedule (Location.text root)) with
  | some cause =>
    simp only [observe, hschedule] at h
    cases h
    exact .schedule hschedule
  | none =>
    cases hstart : refusal .start with
    | some cause =>
      simp only [observe, hschedule, hstart] at h
      cases h
      exact .observer hstart
    | none =>
      simp only [observe, hschedule, hstart, scan] at h
      cases hscans : setup.scansFirst with
      | false =>
        rw [hscans] at h
        cases h
      | true =>
        rw [hscans, if_pos rfl] at h
        cases hsearch : tree.search root (namePattern setup) with
        | error cause =>
          rw [hsearch] at h
          cases h
          exact .search hscans hsearch
        | ok found =>
          rw [hsearch] at h
          obtain ⟨parts, hparts, hfile | ⟨hfile, hdocument⟩⟩ := handleAdditions_error hroot h
          · exact .file hscans hsearch hparts hfile
          · exact .document hscans hsearch hparts hfile hdocument

theorem scan_root (setup : Setup) (tree : Tree) (root : Location) (w : Watcher) :
    (scan setup tree root w).1.1.root = w.root :=
  scan_induction (P := fun w effect => effect.1.root = w.root) (fun _ => rfl)
    (fun hfirst hsecond => hsecond.trans hfirst) (fun _ _ _ _ h => (handleEvent_keeps h).root) w

theorem observe_root (setup : Setup) (tree : Tree) (refusal : Refusal) (root : Location)
    (w : Watcher) : (observe setup tree refusal root w).1.1.root = w.root := by
  unfold observe
  simp only
  split
  · rfl
  · split
    · rfl
    · exact scan_root setup tree root w

/-- An observer that refuses nothing has been started. -/
theorem start_mem_observerCalls (hschedule : refusal (.schedule (Location.text root)) = none)
    (hstart : refusal .start = none) (w : Watcher) :
    .start ∈ observerCalls (observe setup tree refusal root w).1.2 := by
  simp only [observe, hschedule, hstart, observerCalls_append]
  simp [observerCalls, Report.observer?]

/-! ## Failed starts -/

/-- A step that left nothing behind: the watcher can be started again, an observer that was
started has been stopped, and nothing was dispatched. -/
def Undone (refusal : Refusal) (effect : Effect) : Prop :=
  effect.1.phase = .idle ∧
    (.start ∈ observerCalls effect.2 → refusal .start = none → .stop ∈ observerCalls effect.2) ∧
    dispatches effect.2 = []

/-- A start of an idle watcher that fails leaves nothing behind if and only if it fails for
want of its root, and then it changes nothing at all.  After any other failure, which is one
of those listed, the watcher is watching its root, is refused when it is started again, and
has an observer; if that refused nothing it runs and is not stopped. -/
theorem failed_start_undone_iff {problem : Problem} (hidle : w.phase = .idle)
    (hfailed : (w.start setup tree refusal path).2 = .error problem) :
    let effect := (w.start setup tree refusal path).1
    (Undone refusal effect ↔ ∃ fault, findRoot tree path = .error fault) ∧
      (∀ fault, findRoot tree path = .error fault →
        effect = (w, []) ∧ problem = .unexpected fault) ∧
      ∀ root, findRoot tree path = .ok root →
        (∃ fault, problem = .unexpected fault ∧ Hindrance setup tree refusal root fault) ∧
          effect.1.phase = .watching ∧ effect.1.root = some root ∧ effect.1.isObserving = true ∧
          (∀ tree refusal path, effect.1.start setup tree refusal path =
            ((effect.1, []), .error (.reported (.watcherState "watching" "start")))) ∧
          (refusal (.schedule (Location.text root)) = none → refusal .start = none →
            .start ∈ observerCalls effect.2 ∧ .stop ∉ observerCalls effect.2) := by
  have hstart := start_of_idle hidle setup tree refusal path
  cases hfound : findRoot tree path with
  | error fault =>
    simp only [hfound] at hstart
    rw [hstart] at hfailed ⊢
    refine ⟨iff_of_true ⟨hidle, by simp [observerCalls], rfl⟩ ⟨fault, rfl⟩, ?_, ?_⟩
    · rintro _ ⟨⟩
      exact ⟨rfl, (Except.error.inj hfailed).symm⟩
    · rintro _ ⟨⟩
  | ok root =>
    simp only [hfound] at hstart
    rw [hstart] at hfailed ⊢
    obtain ⟨hphase, hobserving, hrunning⟩ :=
      observe_life setup tree refusal root (w.watchingOn root)
    refine ⟨iff_of_false (fun hundone => ?_) (by simp), by simp, ?_⟩
    · cases hphase.symm.trans hundone.1
    · rintro _ ⟨⟩
      refine ⟨?_, hphase, observe_root setup tree refusal root _, hobserving, ?_, ?_⟩
      · cases hresult : (observe setup tree refusal root (w.watchingOn root)).2 with
        | ok =>
          rw [hresult] at hfailed
          cases hfailed
        | error fault =>
          rw [hresult] at hfailed
          exact ⟨fault, (Except.error.inj hfailed).symm, hindrance_of_observe rfl hresult⟩
      · intro tree' refusal' path'
        have hphase : (observe setup tree refusal root (w.watchingOn root)).1.1.phase = .watching :=
          hphase
        rw [start, if_pos (by rw [hphase]; decide), hphase]
        rfl
      · exact fun hschedule hgoing => ⟨start_mem_observerCalls hschedule hgoing _, hrunning⟩

/-! ## An extension that is no pattern -/

/-- Documents end in a dot and two stars, which no pattern for names holds. -/
def starredSetup : Setup := { sampleSetup with extension := ".**", scansFirst := true }

def starredProblem : Problem :=
  .unexpected (.badValue "Invalid pattern: '**' can only be an entire path component")

theorem starredTree_root : findRoot sampleTree (Path.ofText "/w") = .ok ["w"] := by decide +kernel

theorem starred_start_fails :
    ((new 1).start starredSetup sampleTree .never (Path.ofText "/w")).2 = .error starredProblem := by
  have hobserve : (observe starredSetup sampleTree .never ["w"] ((new 1).watchingOn ["w"])).2 =
      .error (.badValue "Invalid pattern: '**' can only be an entire path component") := by
    decide +kernel
  rw [start_of_idle rfl, starredTree_root]
  simp only [hobserve]
  rfl

/-- The failed start leaves something behind. -/
theorem starred_start_is_not_undone :
    ((new 1).start starredSetup sampleTree .never (Path.ofText "/w")).2 = .error starredProblem ∧
      ¬Undone .never ((new 1).start starredSetup sampleTree .never (Path.ofText "/w")).1 := by
  refine ⟨starred_start_fails, fun hundone => ?_⟩
  have hphase : ((new 1).start starredSetup sampleTree .never (Path.ofText "/w")).1.1.phase =
      .watching := by decide +kernel
  cases hphase.symm.trans hundone.1

/-- What it leaves behind: a watcher that watches, and an observer that runs. -/
theorem starred_start_leaves_observer :
    let effect := ((new 1).start starredSetup sampleTree .never (Path.ofText "/w")).1
    effect.1.phase = .watching ∧ effect.1.isObserving = true ∧
      .start ∈ observerCalls effect.2 ∧ .stop ∉ observerCalls effect.2 := by
  obtain ⟨-, -, hwatching⟩ := failed_start_undone_iff rfl starred_start_fails
  obtain ⟨-, hphase, -, hobserving, -, hobserver⟩ := hwatching ["w"] starredTree_root
  exact ⟨hphase, hobserving, hobserver rfl rfl⟩

end ProseCompiler.Watcher
