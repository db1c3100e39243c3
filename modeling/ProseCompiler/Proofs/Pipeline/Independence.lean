import ProseCompiler.Proofs.Pipeline.Outcomes
import ProseCompiler.Proofs.Pipeline.Replay
import ProseCompiler.Proofs.Service.Cookies

/-!
# Documents that do not interfere

Documents are compiled one after the other, each in the tree that the one before
it left.  If no artifact has to do with another document or its artifact, each of
them comes out as if it were compiled alone in the first tree, in whatever order
they are taken.

* `Independent` is what is asked of every two of the documents.
* `Overlaid` is the invariant of the sequence: a tree holds what each of the
  documents so far makes of the first tree alone, and nothing else.  This leaves
  the next document undisturbed, and one more run keeps it (`Overlaid.run`).
* The order of the documents does not show in it, so every order comes to the same
  tree (`Overlaid.unique`).

There are no links in the tree.  A link could lead an artifact to any place.  The
directories of an artifact can be made at once in the first tree, since another
document might make them otherwise.  And no answer sets a cookie, which would go
with all requests that follow (`Jar`).
-/

namespace ProseCompiler

/-- Neither place is the other one or lies in it. -/
def Location.Apart (l m : Location) : Prop := ¬l <+: m ∧ ¬m <+: l

instance (l m : Location) : Decidable (l.Apart m) := inferInstanceAs (Decidable (_ ∧ _))

namespace Pipeline

variable {config : Config} {answer : Request → Answer} {milliseconds : Nat} {tree current : Tree}
  {place other output q : Location} {places order done : List Location}

/-! ## Independent documents -/

/-- The artifact of one document is apart from the other document and from its
artifact. -/
def KeepsOff (config : Config) (tree : Tree) (place other : Location) : Prop :=
  ∀ output ∈ artifact? config tree place,
    output.Apart other ∧ ∀ output' ∈ artifact? config tree other, output.Apart output'

instance (config : Config) (tree : Tree) (place other : Location) :
    Decidable (KeepsOff config tree place other) :=
  inferInstanceAs (Decidable (∀ output ∈ artifact? config tree place,
    output.Apart other ∧ ∀ output' ∈ artifact? config tree other, output.Apart output'))

/-- The artifact of neither document has to do with the other document or its
artifact. -/
def Independent (config : Config) (tree : Tree) (place other : Location) : Prop :=
  KeepsOff config tree place other ∧ KeepsOff config tree other place

instance (config : Config) (tree : Tree) (place other : Location) :
    Decidable (Independent config tree place other) := inferInstanceAs (Decidable (_ ∧ _))

theorem Independent.symm (h : Independent config tree place other) :
    Independent config tree other place :=
  ⟨h.2, h.1⟩

/-- The directories of the artifact of a document can be made at once. -/
def HasReach (config : Config) (tree : Tree) (place : Location) : Prop :=
  ∀ output ∈ artifact? config tree place, IsWithinReach tree output

instance (config : Config) (tree : Tree) (place : Location) :
    Decidable (HasReach config tree place) :=
  inferInstanceAs (Decidable (∀ output ∈ artifact? config tree place, IsWithinReach tree output))

/-! ## Documents in a row -/

section Sequence

variable (config : Config) (service : Service) (milliseconds : Nat) (tree : Tree)

/-- What a document comes to that is compiled alone. -/
def alone (place : Location) : Run :=
  run config service .silent milliseconds [] tree (Path.ofLocation place)

/-- What documents come to that are compiled one after the other. -/
def inTurn (places : List Location) : List Run :=
  runAll config service .silent milliseconds [] tree (places.map Path.ofLocation)

end Sequence

/-- The tree after some runs. -/
def treeAfter (tree : Tree) (runs : List Run) : Tree := runs.foldl (fun _ run => run.tree) tree

/-- The outcome of a document that the system refuses to read. -/
def refused (error : SystemError) (place : Location) : Outcome :=
  .ofError (.unreadable (Location.text place)
    (Fault.message (.system error (Location.text place))))

/-- Two runs of a document send the same and come to the same.  If the document is
missing and one of its names is too long, they may be refused for one or the other
reason. -/
def SameOutcome (place : Location) (first second : Run) : Prop :=
  second.requests = first.requests ∧
    (second.result = first.result ∨
      place.HasLongName ∧ first.requests = [] ∧ first.result = .ok (refused .noEntry place) ∧
        second.result = .ok (refused .nameTooLong place))

/-! ## What documents leave behind -/

/-- A tree holds what each of some documents makes of a first tree alone, and is
like the first tree elsewhere. -/
structure Overlaid (config : Config) (answer : Request → Answer) (milliseconds : Nat)
    (tree : Tree) (done : List Location) (current : Tree) : Prop where
  changed : ∀ place ∈ done, ∀ q,
    (alone config (fun _ => answer) milliseconds tree place).tree.node? q ≠ tree.node? q →
      current.node? q = (alone config (fun _ => answer) milliseconds tree place).tree.node? q
  kept : ∀ q,
    (∀ place ∈ done,
      (alone config (fun _ => answer) milliseconds tree place).tree.node? q = tree.node? q) →
      current.node? q = tree.node? q
  wellFormed : current.WellFormed
  linkFree : current.LinkFree
  workingDirectory_eq : current.workingDirectory = tree.workingDirectory

namespace Overlaid

theorem start (config : Config) (answer : Request → Answer) (milliseconds : Nat)
    (hform : tree.WellFormed) (hfree : tree.LinkFree) :
    Overlaid config answer milliseconds tree [] tree :=
  ⟨fun _ hplace => absurd hplace List.not_mem_nil, fun _ _ => rfl, hform, hfree, rfl⟩

/-- A place that all artifacts so far are apart from is undisturbed. -/
theorem undisturbed (hover : Overlaid config answer milliseconds tree done current)
    (hform : tree.WellFormed) (hfree : tree.LinkFree)
    (hapart : ∀ place ∈ done, ∀ output ∈ artifact? config tree place, output.Apart other) :
    tree.Undisturbed current other := by
  have hway : ∀ q, q <+: other → current.node? q = tree.node? q ∨
      q ≠ other ∧ tree.node? q = none ∧ current.node? q = some .directory := by
    intro q hq
    by_cases hkept : ∀ place ∈ done,
        (alone config (fun _ => answer) milliseconds tree place).tree.node? q = tree.node? q
    · exact .inl (hover.kept q hkept)
    · push Not at hkept
      obtain ⟨place, hplace, hchanged⟩ := hkept
      obtain ⟨output, hartifact, hout, hwhat⟩ := run_changesAlong milliseconds hform hfree hchanged
      obtain ⟨hbelow, habove⟩ := hapart place hplace output hartifact
      rcases hwhat with rfl | ⟨hnone, hdirectory⟩
      · exact absurd hq hbelow
      · refine .inr ⟨?_, hnone, (hover.changed place hplace q hchanged).trans hdirectory⟩
        rintro rfl
        exact habove hout
  refine ⟨fun q hq => (hway q hq).imp_right And.right, ?_⟩
  rcases hway other (List.prefix_refl other) with hsame | ⟨hne, -⟩
  · exact hsame
  · exact absurd rfl hne

/-- Every tree that the same documents leave behind looks the same. -/
theorem unique {current' : Tree} (hover : Overlaid config answer milliseconds tree done current)
    (hover' : Overlaid config answer milliseconds tree order current')
    (hsame : ∀ place, place ∈ order ↔ place ∈ done) (q : Location) :
    current'.node? q = current.node? q := by
  by_cases hkept : ∀ place ∈ done,
      (alone config (fun _ => answer) milliseconds tree place).tree.node? q = tree.node? q
  · have hkept' := hover'.kept q (fun place hplace => hkept place ((hsame place).mp hplace))
    rw [hover.kept q hkept, hkept']
  · push Not at hkept
    obtain ⟨place, hplace, hchanged⟩ := hkept
    rw [hover.changed place hplace q hchanged,
      hover'.changed place ((hsame place).mpr hplace) q hchanged]

/-- Where two independent documents change the same place, both put a directory
there. -/
theorem alone_agree (hform : tree.WellFormed) (hfree : tree.LinkFree)
    (hapart : Independent config tree place other)
    (hfirst : (alone config (fun _ => answer) milliseconds tree place).tree.node? q ≠ tree.node? q)
    (hsecond :
      (alone config (fun _ => answer) milliseconds tree other).tree.node? q ≠ tree.node? q) :
    (alone config (fun _ => answer) milliseconds tree place).tree.node? q =
      (alone config (fun _ => answer) milliseconds tree other).tree.node? q := by
  obtain ⟨output, hartifact, hout, hwhat⟩ := run_changesAlong milliseconds hform hfree hfirst
  obtain ⟨output', hartifact', hout', hwhat'⟩ := run_changesAlong milliseconds hform hfree hsecond
  obtain ⟨hbelow, habove⟩ := (hapart.1 output hartifact).2 output' hartifact'
  rcases hwhat with rfl | ⟨-, hdirectory⟩
  · exact absurd hout' hbelow
  · rcases hwhat' with rfl | ⟨-, hdirectory'⟩
    · exact absurd hout habove
    · exact hdirectory.trans hdirectory'.symm

/-- The next document comes to the same as alone, and changes the tree in the same
way. -/
theorem replays (hover : Overlaid config answer milliseconds tree done current)
    (hform : tree.WellFormed) (hfree : tree.LinkFree) (hclean : place.IsClean)
    (hreach : HasReach config tree place)
    (hapart : ∀ other ∈ done, Independent config tree other place) (earlier : List Request) :
    SameOutcome place (alone config (fun _ => answer) milliseconds tree place)
        (run config (fun _ => answer) .silent milliseconds earlier current
          (Path.ofLocation place)) ∧
      tree.Replays (alone config (fun _ => answer) milliseconds tree place).tree current
        (run config (fun _ => answer) .silent milliseconds earlier current
          (Path.ofLocation place)).tree := by
  have hplace := hover.undisturbed hform hfree
    (fun other hother output hout => ((hapart other hother).1 output hout).1)
  rcases load_undisturbed config hform hfree hover.linkFree hover.workingDirectory_eq
    hclean hplace with hload | ⟨hlong, hmissed, hrefused⟩
  · have houtput : ∀ output, artifact? config tree place = some output →
        tree.Undisturbed current output := fun output hout =>
      hover.undisturbed hform hfree (fun other hother output' hout' =>
        ((hapart other hother).1 output' hout').2 output hout)
    obtain ⟨hrequests, hresult, hreplays⟩ := run_replays milliseconds hform hover.wellFormed hfree
      hover.linkFree hload houtput hreach
    exact ⟨⟨hrequests, .inl hresult⟩, hreplays⟩
  · obtain ⟨htree, hrequests, hresult⟩ := run_of_course config (fun _ => answer) milliseconds []
      tree (Path.ofLocation place) (.unread hmissed)
    obtain ⟨htree', hrequests', hresult'⟩ := run_of_course config (fun _ => answer) milliseconds
      earlier current (Path.ofLocation place) (.unread hrefused)
    rw [alone, htree, htree']
    exact ⟨⟨hrequests'.trans hrequests.symm, .inr ⟨hlong, hrequests, hresult, hresult'⟩⟩,
      .refl tree current⟩

/-- The invariant is kept by one more document. -/
theorem run (hover : Overlaid config answer milliseconds tree done current)
    (hform : tree.WellFormed) (hfree : tree.LinkFree) (hclean : place.IsClean)
    (hreach : HasReach config tree place)
    (hapart : ∀ other ∈ done, Independent config tree other place) (earlier : List Request) :
    Overlaid config answer milliseconds tree (done ++ [place])
      (Pipeline.run config (fun _ => answer) .silent milliseconds earlier current
        (Path.ofLocation place)).tree := by
  obtain ⟨-, hreplays⟩ := hover.replays hform hfree hclean hreach hapart earlier
  refine ⟨fun other hother q hchanged => ?_, fun q hkept => ?_, run_wellFormed hover.wellFormed _,
    run_linkFree milliseconds hover.linkFree,
    (run_workingDirectory milliseconds).trans hover.workingDirectory_eq⟩
  · by_cases hsame :
        (alone config (fun _ => answer) milliseconds tree place).tree.node? q = tree.node? q
    · rcases List.mem_append.mp hother with hother | hother
      · rw [hreplays.kept q hsame, hover.changed other hother q hchanged]
      · rw [List.mem_singleton.mp hother] at hchanged
        exact absurd hsame hchanged
    · rw [hreplays.changed q hsame]
      rcases List.mem_append.mp hother with hother | hother
      · exact (alone_agree hform hfree (hapart other hother) hchanged hsame).symm
      · rw [List.mem_singleton.mp hother]
  · rw [hreplays.kept q (hkept place (by simp)),
      hover.kept q (fun other hother => hkept other (List.mem_append_left _ hother))]

end Overlaid

/-! ## The whole sequence -/

/-- Documents in a row come out as each of them does alone, and leave behind what
each of them does. -/
theorem runAll_overlaid (hform : tree.WellFormed) (hfree : tree.LinkFree)
    (hanswer : ∀ request, (answer request).IsConclusive)
    (hover : Overlaid config answer milliseconds tree done current)
    (hclean : ∀ place ∈ places, place.IsClean)
    (hreach : ∀ place ∈ places, HasReach config tree place)
    (hdone : ∀ other ∈ done, ∀ place ∈ places, Independent config tree other place)
    (hplaces : places.Pairwise (Independent config tree)) (earlier : List Request) :
    List.Forall₂
        (fun place run =>
          SameOutcome place (alone config (fun _ => answer) milliseconds tree place) run)
        places
        (runAll config (fun _ => answer) .silent milliseconds earlier current
          (places.map Path.ofLocation)) ∧
      Overlaid config answer milliseconds tree (done ++ places)
        (treeAfter current (runAll config (fun _ => answer) .silent milliseconds earlier current
          (places.map Path.ofLocation))) := by
  induction places generalizing done current earlier with
  | nil =>
    rw [List.append_nil]
    exact ⟨.nil, hover⟩
  | cons place rest ih =>
    have hplace := hclean place List.mem_cons_self
    have hnear := hreach place List.mem_cons_self
    have hapart : ∀ other ∈ done, Independent config tree other place :=
      fun other hother => hdone other hother place List.mem_cons_self
    obtain ⟨hfirst, hrest⟩ := List.pairwise_cons.mp hplaces
    obtain ⟨hsame, -⟩ := hover.replays hform hfree hplace hnear hapart earlier
    obtain ⟨outcome, hresult⟩ := run_outcome config (fun _ => answer) .silent milliseconds
      earlier current (Path.ofLocation place) hanswer
    rw [List.map_cons, runAll, hresult]
    have hdone' : ∀ other ∈ done ++ [place], ∀ next ∈ rest,
        Independent config tree other next := by
      intro other hother next hnext
      rcases List.mem_append.mp hother with hother | hother
      · exact hdone other hother next (List.mem_cons_of_mem place hnext)
      · rw [List.mem_singleton.mp hother]
        exact hfirst next hnext
    obtain ⟨hothers, hfinal⟩ := ih (hover.run hform hfree hplace hnear hapart earlier)
      (fun next hnext => hclean next (List.mem_cons_of_mem place hnext))
      (fun next hnext => hreach next (List.mem_cons_of_mem place hnext)) hdone' hrest _
    rw [List.append_assoc, List.singleton_append] at hfinal
    exact ⟨.cons hsame hothers, hfinal⟩

/-- What becomes of documents in any order, if the service sees requests as they are made. -/
theorem runAll_of_perm (hform : tree.WellFormed) (hfree : tree.LinkFree)
    (hanswer : ∀ request, (answer request).IsConclusive)
    (hclean : ∀ place ∈ places, place.IsClean)
    (hreach : ∀ place ∈ places, HasReach config tree place)
    (hapart : places.Pairwise (Independent config tree)) (horder : order.Perm places) :
    List.Forall₂
        (fun place run =>
          SameOutcome place (alone config (fun _ => answer) milliseconds tree place) run)
        order (inTurn config (fun _ => answer) milliseconds tree order) ∧
      Overlaid config answer milliseconds tree order
        (treeAfter tree (inTurn config (fun _ => answer) milliseconds tree order)) := by
  have hapart' := (horder.pairwise_iff Independent.symm).mpr hapart
  have hrun := runAll_overlaid hform hfree hanswer
    (Overlaid.start config answer milliseconds hform hfree)
    (fun place hplace => hclean place (horder.mem_iff.mp hplace))
    (fun place hplace => hreach place (horder.mem_iff.mp hplace))
    (fun _ hother => absurd hother List.not_mem_nil) hapart' []
  rwa [List.nil_append] at hrun

/-- Documents of which no artifact has to do with another document or its artifact
are compiled in any order with the same requests, the same outcomes and the same
tree in the end, whatever client they share.  The service is a function of what is
sent to it and sets no cookies. -/
theorem order_is_irrelevant (config : Config) (jar : Jar) (answer : Request → Answer)
    (milliseconds : Nat) (tree : Tree) (places order : List Location) (hform : tree.WellFormed)
    (hfree : tree.LinkFree) (hanswer : ∀ request, (answer request).IsConclusive)
    (hjar : jar.SendsBack) (hunset : ∀ request, ¬(answer request).SetsCookie)
    (hclean : ∀ place ∈ places, place.IsClean)
    (hreach : ∀ place ∈ places, HasReach config tree place)
    (hapart : places.Pairwise (Independent config tree)) (horder : order.Perm places) :
    let service := Service.through (fun _ => answer) jar
    List.Forall₂
        (fun place run => SameOutcome place (alone config service milliseconds tree place) run)
        order (inTurn config service milliseconds tree order) ∧
      (∀ earlier request, jar.sent (fun _ => answer) earlier request = request) ∧
      (∀ q, (treeAfter tree (inTurn config service milliseconds tree order)).node? q =
        (treeAfter tree (inTurn config service milliseconds tree places)).node? q) ∧
      (treeAfter tree (inTurn config service milliseconds tree order)).workingDirectory =
        tree.workingDirectory := by
  rw [Service.through_eq hjar fun _ => hunset]
  obtain ⟨-, hfinal⟩ := runAll_of_perm hform hfree hanswer hclean hreach hapart (.refl places)
  obtain ⟨hsame, hfinal'⟩ := runAll_of_perm hform hfree hanswer hclean hreach hapart horder
  exact ⟨hsame, Jar.sent_eq hjar fun _ => hunset,
    hfinal.unique hfinal' fun _ => horder.mem_iff, hfinal'.workingDirectory_eq⟩

/-! ## A directory that two documents share -/

/-- Two documents for one directory, which is not there. -/
def sharedTree : Tree where
  entries := [(["w"], .directory), (["w", "s.gpt"], .file (sampleOctets "@output: n/x.js\n\nx")),
    (["w", "u.gpt"], .file (sampleOctets "@output: n/y.js\n\ny"))]
  workingDirectory := ["w"]

/-- A document in that directory with a name that no entry can have. -/
def longPlace : Location :=
  ["w", "n", List.replicate 256 ('a' : CodePoint) ++ (".gpt" : Text)]

/-- The three documents, the missing one last. -/
def sharedPlaces : List Location := [["w", "s.gpt"], ["w", "u.gpt"], longPlace]

/-- The answer to every request. -/
def sampleAnswer : Request → Answer := sampleService "\x7b\"content\": \"code\"\x7d" []

/-- The service, through a client that sends cookies back. -/
def sampleClient : Service := Service.through (fun _ => sampleAnswer) Jar.ofLast

theorem sharedTree_wellFormed : sharedTree.WellFormed :=
  .of_entries (by decide +kernel) (by decide +kernel)

theorem sharedTree_linkFree : sharedTree.LinkFree := by
  refine .of_entries ?_
  simp [sharedTree]

theorem sharedPlaces_independent :
    sharedPlaces.Pairwise (Independent sampleConfig sharedTree) := by
  decide +kernel

/-- The three can be taken in the opposite order. -/
theorem shared_directory_in_any_order :
    sharedTree.WellFormed ∧ sharedTree.LinkFree ∧
      (∀ request, (sampleAnswer request).IsConclusive) ∧ Jar.ofLast.SendsBack ∧
      (∀ request, ¬(sampleAnswer request).SetsCookie) ∧
      (∀ place ∈ sharedPlaces, place.IsClean) ∧
      (∀ place ∈ sharedPlaces, HasReach sampleConfig sharedTree place) ∧
      sharedPlaces.Pairwise (Independent sampleConfig sharedTree) ∧
      sharedPlaces.reverse.Perm sharedPlaces ∧
      List.Forall₂
        (fun place run =>
          SameOutcome place (alone sampleConfig sampleClient 0 sharedTree place) run)
        sharedPlaces.reverse
        (inTurn sampleConfig sampleClient 0 sharedTree sharedPlaces.reverse) ∧
      ∀ q, (treeAfter sharedTree
          (inTurn sampleConfig sampleClient 0 sharedTree sharedPlaces.reverse)).node? q =
        (treeAfter sharedTree
          (inTurn sampleConfig sampleClient 0 sharedTree sharedPlaces)).node? q := by
  have hanswer : ∀ request, (sampleAnswer request).IsConclusive := fun _ => trivial
  have hunset : ∀ request, ¬(sampleAnswer request).SetsCookie := fun _ h => h rfl
  have hclean : ∀ place ∈ sharedPlaces, place.IsClean := by decide +kernel
  have hreach : ∀ place ∈ sharedPlaces, HasReach sampleConfig sharedTree place := by
    decide +kernel
  obtain ⟨hsame, -, htree, -⟩ := order_is_irrelevant sampleConfig Jar.ofLast sampleAnswer 0
    sharedTree sharedPlaces sharedPlaces.reverse sharedTree_wellFormed sharedTree_linkFree hanswer
    Jar.ofLast_sendsBack hunset hclean hreach sharedPlaces_independent
    (List.reverse_perm sharedPlaces)
  exact ⟨sharedTree_wellFormed, sharedTree_linkFree, hanswer, Jar.ofLast_sendsBack, hunset, hclean,
    hreach, sharedPlaces_independent, List.reverse_perm sharedPlaces, hsame, htree⟩

/-- A document that brings the directory, and the missing one. -/
def latePlaces : List Location := [["w", "s.gpt"], longPlace]

/-- Two documents that are there. -/
def presentPlaces : List Location := [["w", "s.gpt"], ["w", "u.gpt"]]

/-- The answer to whoever comes for the first time, and is known by a cookie from then on. -/
def onceAnswer (request : Request) : Answer :=
  if request.headers.any fun (name, _) => name = "Cookie" then .response 429 [] []
  else .response 200 [("set-cookie", "known=1; Path=/")]
    (sampleOctets "\x7b\"content\": \"code\"\x7d")

/-- The service of these answers, through a client that sends cookies back. -/
def onceClient : Service := Service.through (fun _ => onceAnswer) Jar.ofLast

/-- The outcome of a document for which the service has no time. -/
def turnedAway : Outcome :=
  .failed "Generation service error (429): " (some "SERVICE_ERROR")

/-- The missing document is refused for its name once the directory is there, and
because it is missing before.  And where an answer sets a cookie, the document that
comes second is turned away, whichever it is. -/
theorem order_shows_in_refusal :
    sharedTree.WellFormed ∧ sharedTree.LinkFree ∧
      (∀ request, (sampleAnswer request).IsConclusive) ∧
      (∀ place ∈ latePlaces, place.IsClean) ∧
      latePlaces.Pairwise (Independent sampleConfig sharedTree) ∧
      latePlaces.reverse.Perm latePlaces ∧
      (inTurn sampleConfig (fun _ => sampleAnswer) 0 sharedTree latePlaces).map Run.result =
        [.ok (.succeeded "/w/n/x.js" "javascript"), .ok (refused .nameTooLong longPlace)] ∧
      (inTurn sampleConfig (fun _ => sampleAnswer) 0 sharedTree latePlaces.reverse).map Run.result =
        [.ok (refused .noEntry longPlace), .ok (.succeeded "/w/n/x.js" "javascript")] ∧
      refused .nameTooLong longPlace ≠ refused .noEntry longPlace ∧
      presentPlaces.Pairwise (Independent sampleConfig sharedTree) ∧
      (inTurn sampleConfig onceClient 0 sharedTree presentPlaces).map Run.result =
        [.ok (.succeeded "/w/n/x.js" "javascript"), .ok turnedAway] ∧
      (inTurn sampleConfig onceClient 0 sharedTree presentPlaces.reverse).map Run.result =
        [.ok (.succeeded "/w/n/y.js" "javascript"), .ok turnedAway] :=
  ⟨sharedTree_wellFormed, sharedTree_linkFree, fun _ => trivial, by decide +kernel,
    by decide +kernel, List.reverse_perm latePlaces, by decide +kernel, by decide +kernel,
    by decide +kernel, by decide +kernel, by decide +kernel, by decide +kernel⟩

end Pipeline

end ProseCompiler
