import ProseCompiler.Proofs.Document.Target
import ProseCompiler.Proofs.Files.Search
import ProseCompiler.Proofs.Watch.Starting

/-!
# What a start takes up

A watcher that scans its root as it starts is meant to take up every document there whose
addition it would take if it were told of it, and nothing else.  Two things decide that: the
search for names with a star and the extension, for which the extension is a pattern, and the
watcher itself, for which it is a text.  What is in flight after a start is what both of them
take, and that is all that the watcher takes as soon as the extension matches itself as a
pattern behind a star: `scan_takes_up`.
-/

namespace ProseCompiler.Watcher

variable {setup : Setup} {tree : Tree} {refusal : Refusal} {path : Path} {root : Location}
  {w : Watcher} {found : List (List Text)} {reports : List Report} {parts : List Text}
  {document other : Location}

/-! ## Additions -/

/-- A path below the root at which a file stands whose addition is taken, and the document
that it stands for. -/
structure Addition (setup : Setup) (tree : Tree) (root : Location) (parts : List Text)
    (document : Location) : Prop where
  isFile : tree.isFile (Tree.pathBelow root parts) = .ok true
  extension : Text.endsWith (Path.text ⟨.relative, parts⟩) setup.extension = true
  resolved : documentAt tree root (Path.text ⟨.relative, parts⟩) = .ok document

/-- What a dispatch puts in flight is its document. -/
theorem dispatch_isInFlight_iff (w : Watcher) (document : Location) :
    (w.dispatch document).1.1.isInFlight other = true ↔
      w.isInFlight other = true ∨ other = document := by
  unfold dispatch
  split
  · next hflight =>
    refine ⟨.inl, ?_⟩
    rintro (h | rfl)
    · exact h
    · exact hflight
  · rw [isInFlight, List.any_append, Bool.or_eq_true, ← isInFlight, List.any_cons, List.any_nil,
      Bool.or_false, beq_iff_eq, eq_comm (a := document)]

/-- The phase and the root that a watcher has while it scans. -/
structure Scans (w : Watcher) (root : Location) : Prop where
  phase : w.phase = .watching
  root : w.root = some root

theorem Scans.accepts_iff (hscans : w.Scans root) {text : Text} :
    w.accepts setup added text = true ↔ Text.endsWith text setup.extension = true := by
  simp [Watcher.accepts_iff, hscans.phase]

/-- An addition that goes through puts in flight the document for which it is taken. -/
theorem handleEvent_takes (hscans : w.Scans root) {text : Text} {effect : Effect}
    {run : Option Run} (h : w.handleEvent setup tree added text = .ok (effect, run)) :
    effect.1.Scans root ∧
      (Text.endsWith text setup.extension = true →
        ∃ document, documentAt tree root text = .ok document) ∧
      ∀ other, effect.1.isInFlight other = true ↔ w.isInFlight other = true ∨
        Text.endsWith text setup.extension = true ∧ documentAt tree root text = .ok other := by
  refine ⟨⟨(handleEvent_steady h).phase.trans hscans.phase,
    (handleEvent_keeps h).root.trans hscans.root⟩, ?_⟩
  rw [← hscans.accepts_iff]
  by_cases haccepts : w.accepts setup added text = true
  · rw [handleEvent, if_pos haccepts, hscans.root, Option.getD_some] at h
    cases hdocument : documentAt tree root text with
    | error fault =>
      rw [hdocument] at h
      cases h
    | ok document =>
      have hdispatch := fun other => @dispatch_isInFlight_iff other w document
      rcases hresult : w.dispatch document with ⟨⟨w', reports⟩, run'⟩
      rw [hresult] at hdispatch
      rw [hdocument] at h
      simp only [hresult] at h
      cases h
      refine ⟨fun _ => ⟨document, rfl⟩, fun other => ?_⟩
      rw [hdispatch, Except.ok.injEq, eq_comm (a := other)]
      simp only [haccepts, true_and]
  · rw [handleEvent, if_neg haccepts] at h
    cases h
    simp [haccepts]

/-- Going on behind a path whose addition goes through, if it is taken. -/
theorem handleAdditions_cons_takes (hscans : w.Scans root) {rest : List (List Text)}
    (h : (handleAdditions setup tree root w reports (parts :: rest)).2 = .ok ()) :
    ∃ w' reports', handleAdditions setup tree root w reports (parts :: rest) =
        handleAdditions setup tree root w' reports' rest ∧
      w'.Scans root ∧
      (∀ document, w'.isInFlight document = true ↔
        w.isInFlight document = true ∨ Addition setup tree root parts document) ∧
      (tree.isFile (Tree.pathBelow root parts) = .ok true →
        Text.endsWith (Path.text ⟨.relative, parts⟩) setup.extension = true →
        ∃ document, Addition setup tree root parts document) := by
  rw [handleAdditions] at h ⊢
  cases hfile : tree.isFile (Tree.pathBelow root parts) with
  | error fault =>
    rw [hfile] at h
    cases h
  | ok isFile =>
    cases isFile with
    | false =>
      have hnone : ∀ document, ¬Addition setup tree root parts document := fun document hother =>
        absurd (hfile.symm.trans hother.isFile) (by simp)
      exact ⟨w, reports, rfl, hscans, by simp [hnone], by simp⟩
    | true =>
      cases hevent : w.handleEvent setup tree added (Path.text ⟨.relative, parts⟩) with
      | error fault =>
        simp only [hfile, hevent] at h
        cases h
      | ok result =>
        obtain ⟨⟨w', shown⟩, run⟩ := result
        obtain ⟨hscans', hdocument, hstep⟩ := handleEvent_takes hscans hevent
        have haddition : ∀ document, Addition setup tree root parts document ↔
            Text.endsWith (Path.text ⟨.relative, parts⟩) setup.extension = true ∧
              documentAt tree root (Path.text ⟨.relative, parts⟩) = .ok document :=
          fun document => ⟨fun h => ⟨h.extension, h.resolved⟩, fun h => ⟨hfile, h.1, h.2⟩⟩
        refine ⟨w', reports ++ shown, rfl, hscans', fun document => ?_, fun _ hextension => ?_⟩
        · rw [hstep, haddition]
        · obtain ⟨document, hresolved⟩ := hdocument hextension
          exact ⟨document, hfile, hextension, hresolved⟩

/-- Additions that go through put in flight the documents for which they are taken, and
nothing else, and no file whose addition is taken is without a document. -/
theorem handleAdditions_takes (hscans : w.Scans root)
    (h : (handleAdditions setup tree root w reports found).2 = .ok ()) :
    (∀ document, (handleAdditions setup tree root w reports found).1.1.isInFlight document = true ↔
      w.isInFlight document = true ∨ ∃ parts ∈ found, Addition setup tree root parts document) ∧
    ∀ parts ∈ found, tree.isFile (Tree.pathBelow root parts) = .ok true →
      Text.endsWith (Path.text ⟨.relative, parts⟩) setup.extension = true →
      ∃ document, Addition setup tree root parts document := by
  induction found generalizing w reports with
  | nil => simp [handleAdditions]
  | cons parts rest ih =>
    obtain ⟨w', reports', hrest, hscans', hstep, hfirst⟩ := handleAdditions_cons_takes hscans h
    rw [hrest] at h ⊢
    obtain ⟨hflight, hall⟩ := ih hscans' h
    refine ⟨fun document => ?_, List.forall_mem_cons.mpr ⟨hfirst, hall⟩⟩
    rw [hflight, hstep, or_assoc, List.exists_mem_cons_iff]

/-- What is dispatched by an event is registered. -/
theorem handleEvent_registers {kind text : Text} {effect : Effect} {run : Option Run}
    (h : w.handleEvent setup tree kind text = .ok (effect, run)) :
    effect.1.inFlight = w.inFlight ++ dispatches effect.2 := by
  unfold handleEvent at h
  split at h
  · split at h
    · cases h
    · next document _ =>
      have hdispatch : (w.dispatch document).1.1.inFlight =
          w.inFlight ++ dispatches (w.dispatch document).1.2 := by
        unfold dispatch
        split <;> simp [dispatches, Report.dispatched?, coalesced, entry]
      rcases hresult : w.dispatch document with ⟨⟨w', reports⟩, run'⟩
      rw [hresult] at h hdispatch
      cases h
      exact hdispatch
  · cases h
    exact (List.append_nil _).symm

theorem scan_registers (setup : Setup) (tree : Tree) (root : Location) (w : Watcher) :
    (scan setup tree root w).1.1.inFlight =
      w.inFlight ++ dispatches (scan setup tree root w).1.2 := by
  refine scan_induction (P := fun w effect => effect.1.inFlight = w.inFlight ++ dispatches effect.2)
    (fun w => (List.append_nil _).symm) (fun {w w' w'' reports more} hfirst hsecond => ?_)
    (fun _ _ _ _ h => handleEvent_registers h) w
  rw [dispatches_append, ← List.append_assoc, ← hfirst]
  exact hsecond

/-! ## Names with an extension -/

/-- A text that ends with something in which a code point is not ends with it behind the
last such code point. -/
theorem suffix_of_not_mem {c : CodePoint} {ending before after : Text} (hc : c ∉ ending)
    (h : ending <:+ before ++ c :: after) : ending <:+ after := by
  obtain ⟨start, hstart⟩ := h
  rcases List.append_eq_append_iff.mp hstart with ⟨rest, -, hending⟩ | ⟨rest, -, hending⟩
  · exact absurd (hending ▸ List.mem_append_right rest List.mem_cons_self) hc
  · cases rest with
    | nil =>
      rw [List.nil_append] at hending
      exact absurd (hending ▸ List.mem_cons_self) hc
    | cons d rest => exact ⟨rest, (List.cons.inj hending).2.symm⟩

/-- The text of a path below a directory is its names. -/
theorem text_concat (above : List Text) (name : Text) :
    Path.text ⟨.relative, above ++ [name]⟩ = Text.joinWith "/" (above ++ [name]) := by
  rw [Path.text, if_neg (by simp)]
  rfl

/-- A path below a directory ends with an extension without slashes only if its last name
does. -/
theorem endsWith_name {ending : Text} (hslash : ('/' : CodePoint) ∉ ending) {above : List Text}
    {name : Text} (h : Text.endsWith (Path.text ⟨.relative, above ++ [name]⟩) ending = true) :
    ending <:+ name := by
  rw [text_concat] at h
  replace h := List.isSuffixOf_iff_suffix.mp h
  by_cases habove : above = []
  · rwa [habove] at h
  · rw [Text.joinWith_concat _ habove, List.append_assoc] at h
    exact suffix_of_not_mem hslash h

/-! ## Starts -/

/-- A file below the root, links to files followed and links to directories not, whose
addition a watcher takes. -/
structure Awaits (setup : Setup) (tree : Tree) (root : Location) (w : Watcher) (parts : List Text) :
    Prop where
  isBelow : ∃ node, tree.Entry root parts node
  isFile : tree.isFile (Tree.pathBelow root parts) = .ok true
  isAccepted : w.accepts setup added (Path.text ⟨.relative, parts⟩) = true

/-- What is in flight are the documents of the files with a property that a watcher awaits:
all of them, and no others. -/
structure TakesUp (setup : Setup) (tree : Tree) (root : Location) (w : Watcher)
    (property : List Text → Prop) : Prop where
  all : ∀ {parts}, Awaits setup tree root w parts → property parts →
    ∃ document, documentAt tree root (Path.text ⟨.relative, parts⟩) = .ok document ∧
      w.isInFlight document = true
  only : ∀ {document}, w.isInFlight document = true →
    ∃ parts, Awaits setup tree root w parts ∧ property parts ∧
      documentAt tree root (Path.text ⟨.relative, parts⟩) = .ok document

theorem namePattern_eq (setup : Setup) : namePattern setup = ('*' : CodePoint) :: setup.extension := rfl

/-- An observation that goes through is a scan that goes through. -/
theorem scan_of_observe (h : (observe setup tree refusal root w).2 = .ok ()) :
    (scan setup tree root w).2 = .ok () ∧
      (observe setup tree refusal root w).1.1 = (scan setup tree root w).1.1 ∧
      dispatches (observe setup tree refusal root w).1.2 = dispatches (scan setup tree root w).1.2 := by
  cases hschedule : refusal (.schedule (Location.text root)) with
  | some cause =>
    simp only [observe, hschedule] at h
    cases h
  | none =>
    cases hstart : refusal .start with
    | some cause =>
      simp only [observe, hschedule, hstart] at h
      cases h
    | none =>
      simp only [observe, hschedule, hstart] at h ⊢
      exact ⟨h, trivial, rfl⟩

/-- The directory that a start is made on can be searched. -/
theorem isBase_of_findRoot (hform : tree.WellFormed) (hplaces : tree.HasDistinctPlaces)
    (h : findRoot tree path = .ok root) : tree.IsBase root := by
  unfold findRoot at h
  split at h
  · cases h
  · next found hresolve =>
    split at h
    · cases h
    · cases h
    · next hdirectory =>
      cases h
      refine ⟨hform, hplaces, Tree.resolve_isClean
        (hform.isClean hform.workingDirectory_isDirectory) hresolve, ?_⟩
      exact Tree.isDirectory_eq_true_iff.mp hdirectory

theorem TakesUp.of_forall {property : List Text → Prop} (h : TakesUp setup tree root w property)
    (hproperty : ∀ parts, Awaits setup tree root w parts → property parts) :
    TakesUp setup tree root w fun _ => True where
  all := fun hparts _ => h.all hparts (hproperty _ hparts)
  only := by
    intro document hdocument
    obtain ⟨parts, hparts, -, hresolved⟩ := h.only hdocument
    exact ⟨parts, hparts, trivial, hresolved⟩

theorem Awaits.name (h : Awaits setup tree root w parts) (hbase : tree.IsBase root)
    (hslash : ('/' : CodePoint) ∉ setup.extension) : setup.extension <:+ Location.name parts := by
  have hextension := (accepts_iff.mp h.isAccepted).2.2
  cases parts using List.reverseRecOn with
  | nil =>
    obtain ⟨place, content, hstatus⟩ := Tree.isFile_eq_true_iff.mp h.isFile
    obtain ⟨d, hdirectory⟩ := hbase.isDirectory
    rw [Tree.pathBelow, List.append_nil, hdirectory] at hstatus
    cases hstatus
  | append_singleton above name =>
    rw [Location.name, List.getLast?_concat, Option.getD_some]
    exact endsWith_name hslash hextension

/-- A scan that goes through takes up what a watcher awaits and the search finds. -/
theorem takesUp_of_scan (hbase : tree.IsBase root) (hwatching : w.Scans root)
    (hempty : w.inFlight = []) (hscans : setup.scansFirst = true)
    (hne : setup.extension ≠ "*") (hslash : ('/' : CodePoint) ∉ setup.extension)
    (h : (scan setup tree root w).2 = .ok ()) :
    TakesUp setup tree root (scan setup tree root w).1.1 fun parts =>
      NamePart.matchName (NamePart.ofText (namePattern setup)) (Location.name parts) = true := by
  have hwatching' : (scan setup tree root w).1.1.Scans root :=
    ⟨(scan_steady setup tree root w).phase.trans hwatching.phase,
      (scan_root setup tree root w).trans hwatching.root⟩
  have hnone : ∀ document, ¬w.isInFlight document = true := by simp [isInFlight, hempty]
  have haccepts : ∀ {text}, (scan setup tree root w).1.1.accepts setup added text = true ↔
      Text.endsWith text setup.extension = true := hwatching'.accepts_iff
  cases hsearch : tree.search root (namePattern setup) with
  | error fault =>
    rw [scan, if_pos hscans, hsearch] at h
    cases h
  | ok found =>
    have hscan : scan setup tree root w = handleAdditions setup tree root w [] found := by
      rw [scan, if_pos hscans, hsearch]
    rw [hscan] at h haccepts ⊢
    obtain ⟨hflight, hresolved⟩ := handleAdditions_takes hwatching h
    have hmem := fun parts hfile => @Tree.mem_search_iff tree root parts found setup.extension hbase
      hslash hne hsearch hfile
    constructor
    · intro parts hparts hmatch
      have hfound := (hmem parts hparts.isFile).mpr ⟨hparts.isBelow, hmatch⟩
      obtain ⟨document, hdocument⟩ :=
        hresolved parts hfound hparts.isFile (haccepts.mp hparts.isAccepted)
      exact ⟨document, hdocument.resolved, (hflight document).mpr (.inr ⟨parts, hfound, hdocument⟩)⟩
    · intro document hdocument
      rcases (hflight document).mp hdocument with hbefore | ⟨parts, hfound, haddition⟩
      · exact absurd hbefore (hnone document)
      · obtain ⟨hbelow, hmatch⟩ := (hmem parts haddition.isFile).mp hfound
        exact ⟨parts, ⟨hbelow, haddition.isFile, haccepts.mpr haddition.extension⟩, hmatch,
          haddition.resolved⟩

/-- A start that goes through has dispatched what is in flight, and that is what the watcher
awaits and the search finds.  If the extension as a pattern behind a star matches itself,
then it is all that the watcher awaits. -/
theorem scan_takes_up (hform : tree.WellFormed) (hplaces : tree.HasDistinctPlaces)
    (hidle : w.phase = .idle) (hempty : w.inFlight = []) (hscans : setup.scansFirst = true)
    (hdot : setup.extension.head? = some ('.' : CodePoint))
    (hslash : ('/' : CodePoint) ∉ setup.extension)
    (hstarted : (w.start setup tree refusal path).2 = .ok ()) :
    let effect := (w.start setup tree refusal path).1
    let pattern := NamePart.ofText (namePattern setup)
    ∃ root, findRoot tree path = .ok root ∧ effect.1.inFlight = dispatches effect.2 ∧
      TakesUp setup tree root effect.1 (fun parts =>
        NamePart.matchName pattern (Location.name parts) = true) ∧
      (NamePart.matchName pattern setup.extension = true →
        TakesUp setup tree root effect.1 fun _ => True) := by
  have hstart := start_of_idle hidle setup tree refusal path
  cases hfound : findRoot tree path with
  | error fault =>
    simp only [hfound] at hstart
    rw [hstart] at hstarted
    cases hstarted
  | ok root =>
    simp only [hfound] at hstart
    have hbase := isBase_of_findRoot hform hplaces hfound
    have hobserved : (observe setup tree refusal root (w.watchingOn root)).2 = .ok () := by
      rw [hstart] at hstarted
      cases h : (observe setup tree refusal root (w.watchingOn root)).2 with
      | error fault =>
        rw [h] at hstarted
        cases hstarted
      | ok => rfl
    obtain ⟨hscanned, hwatcher, hdispatches⟩ := scan_of_observe hobserved
    have hne : setup.extension ≠ "*" := by
      intro heq
      rw [heq] at hdot
      exact absurd hdot (by decide)
    have htakes := takesUp_of_scan hbase (w := w.watchingOn root) ⟨rfl, rfl⟩ hempty hscans hne hslash
      hscanned
    have hregisters := scan_registers setup tree root (w.watchingOn root)
    have hbefore : (w.watchingOn root).inFlight = [] := hempty
    rw [hbefore, List.nil_append] at hregisters
    simp only [hstart]
    rw [hwatcher, hdispatches]
    refine ⟨root, rfl, hregisters, htakes, fun hmatch => htakes.of_forall fun parts hparts => ?_⟩
    obtain ⟨start, hname⟩ := hparts.name hbase hslash
    rw [← hname]
    exact NamePart.matchName_star_append hmatch start

/-! ## An extension that does not match itself -/

/-- A start with an observer that refuses nothing takes the additions that a search finds. -/
theorem start_of_search (hidle : w.phase = .idle) (hroot : findRoot tree path = .ok root)
    (hscans : setup.scansFirst = true) (hsearch : tree.search root (namePattern setup) = .ok found) :
    let result := handleAdditions setup tree root (w.watchingOn root) [] found
    (w.start setup tree .never path).1.1 = result.1.1 ∧
      (w.start setup tree .never path).2 = result.2.mapError .unexpected := by
  have hscan : scan setup tree root (w.watchingOn root) =
      handleAdditions setup tree root (w.watchingOn root) [] found := by
    rw [scan, if_pos hscans, hsearch]
  rw [start_of_idle hidle, hroot]
  simp only [observe, Refusal.never, hscan, and_self]

theorem sampleTree_wellFormed : sampleTree.WellFormed := .of_entries (by decide) rfl

def scanningSetup : Setup := { sampleSetup with scansFirst := true }

theorem search_sampleTree : sampleTree.search ["w"] (namePattern scanningSetup) = .ok [["a.gpt"]] := by
  have hextension : NamePart.matchName (NamePart.ofText (namePattern scanningSetup))
      scanningSetup.extension = true := NamePart.matchName_star_self (by decide)
  have hmatch : NamePart.matchName (NamePart.ofText (namePattern scanningSetup)) "a.gpt" = true :=
    NamePart.matchName_star_append hextension "a"
  have hlisting : sampleTree.listing (Tree.pathBelow ["w"] []) = .ok [("a.gpt", .file [])] := rfl
  rw [namePattern_eq] at hmatch ⊢
  rw [Tree.search_of_one_file (by decide) rfl hlisting, if_pos hmatch]

/-- A document is in flight after a start because it was there. -/
theorem sample_is_taken_up :
    let effect := ((new 1).start scanningSetup sampleTree .never (Path.ofText "/w")).1
    dispatches effect.2 = [⟨0, sampleDocument⟩] ∧
      TakesUp scanningSetup sampleTree ["w"] effect.1 fun _ => True := by
  have hstart := start_of_search (w := new 1) rfl starredTree_root rfl search_sampleTree
  have hadditions : (handleAdditions scanningSetup sampleTree ["w"] ((new 1).watchingOn ["w"]) []
      [["a.gpt"]]).2 = .ok () := by decide +kernel
  obtain ⟨root, hroot, hdispatches, -, htakes⟩ := scan_takes_up sampleTree_wellFormed (by decide)
    rfl rfl rfl (by decide) (by decide) (hstart.2.trans (by rw [hadditions]; rfl))
  obtain rfl : root = ["w"] := Except.ok.inj (hroot.symm.trans starredTree_root)
  refine ⟨?_, htakes (NamePart.matchName_star_self (by decide))⟩
  rw [← hdispatches, hstart.1]
  decide +kernel

/-- The bracket in this extension stands for one letter. -/
def bracketSetup : Setup := { scanningSetup with extension := ".g[p]t" }

def bracketTree : Tree where
  entries := [(["w"], .directory), (["w", "a.g[p]t"], .file [])]
  workingDirectory := []

theorem search_bracketTree : bracketTree.search ["w"] (namePattern bracketSetup) = .ok [] := by
  have hmatch : NamePart.matchName (NamePart.ofText (namePattern bracketSetup)) "a.g[p]t" = false := by
    cbv
  have hlisting : bracketTree.listing (Tree.pathBelow ["w"] []) = .ok [("a.g[p]t", .file [])] := rfl
  rw [namePattern_eq] at hmatch ⊢
  rw [Tree.search_of_one_file (by decide) rfl hlisting, if_neg (by rw [hmatch]; decide)]

/-- A document that is awaited is left out. -/
theorem bracket_is_not_taken_up :
    ((new 1).start bracketSetup bracketTree .never (Path.ofText "/w")).2 = .ok () ∧
      ¬TakesUp bracketSetup bracketTree ["w"]
        ((new 1).start bracketSetup bracketTree .never (Path.ofText "/w")).1.1 fun _ => True := by
  have hroot : findRoot bracketTree (Path.ofText "/w") = .ok ["w"] := by decide +kernel
  obtain ⟨hwatcher, hresult⟩ := start_of_search (w := new 1) rfl hroot rfl search_bracketTree
  refine ⟨hresult, fun htakes => ?_⟩
  rw [hwatcher] at htakes
  have hstatus : bracketTree.status false (Tree.pathBelow ["w"] ["a.g[p]t"]) =
      .ok (["w", "a.g[p]t"], .file []) := by decide +kernel
  have hawaits : Awaits bracketSetup bracketTree ["w"] ((new 1).watchingOn ["w"]) ["a.g[p]t"] :=
    ⟨⟨_, .inside .root (by decide) hstatus⟩, by decide +kernel, by decide⟩
  obtain ⟨document, -, hflight⟩ := htakes.all hawaits trivial
  cases hflight

end ProseCompiler.Watcher
