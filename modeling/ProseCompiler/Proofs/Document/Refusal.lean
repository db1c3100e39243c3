import ProseCompiler.Proofs.Document.Canonical
import ProseCompiler.Proofs.Document.Header
import ProseCompiler.Proofs.Files.Failing
import ProseCompiler.Proofs.Pipeline.Transmission

/-!
# Documents without a target

A document that was read holds no surrogate, so the name of its output can be stored as it
stands (`isStorable_of_output`), unless there is a NUL in it.  That is one of the ways in which
a document can have no target; `Refusal` lists them all.

A document in sight is found, and without a name in its header it has a target.  A name whose
way has an end is resolved to that end just if there is no NUL in it
(`read_document_target`).
-/

namespace ProseCompiler

variable {tree : Tree} {document : Document} {path : Path} {key value text raw : Text}
  {defaultLanguage : Text} {place : Location} {fault : Fault}

/-! ## What a document that was read is made of -/

/-- A text is not given any code points by its settings. -/
theorem Document.mem_raw_of_mem_setting (h : (parse raw).settings.get? key = some value)
    {c : CodePoint} (hc : c ∈ value) : c ∈ raw := by
  rw [parse_settings, get?_foldl_adding] at h
  obtain ⟨before, line, after, rest, hlines, hsets, rfl, -⟩ := h
  have hline : line ∈ Text.lines raw := by
    rw [lines_eq, hlines]
    simp
  have htrim : c ∈ Text.trim line := by
    rw [hsets.trim_eq]
    exact List.mem_cons_of_mem _ (List.mem_append_right _
      (List.mem_cons_of_mem _ (Text.mem_of_mem_trim hc)))
  exact Text.mem_of_mem_splitOn hline (Text.mem_of_mem_trim htrim)

theorem Text.mem_of_mem_unifyNewlinesFrom {afterReturn : Bool} {t : Text} {c : CodePoint}
    (hc : c ∈ unifyNewlinesFrom afterReturn t) : c = newline ∨ c ∈ t := by
  fun_induction unifyNewlinesFrom afterReturn t with
  | case1 => cases hc
  | case2 afterReturn t ih =>
    rcases List.mem_cons.mp hc with rfl | hc
    · exact .inl rfl
    · exact (ih hc).imp_right (List.mem_cons_of_mem _)
  | case3 afterReturn d t hreturn hnewline ih => exact (ih hc).imp_right (List.mem_cons_of_mem _)
  | case4 afterReturn d t hreturn hnewline ih =>
    rcases List.mem_cons.mp hc with rfl | hc
    · exact .inr List.mem_cons_self
    · exact (ih hc).imp_right (List.mem_cons_of_mem _)

namespace Tree

/-- No surrogate is read from a file. -/
theorem not_isSurrogate_of_readText (h : tree.readText path.text = .ok text) :
    ∀ c ∈ text, c.isSurrogate = false := by
  obtain ⟨content, raw, -, hdecode, rfl⟩ := decode_of_readText h
  intro c hc
  rcases Text.mem_of_mem_unifyNewlinesFrom hc with rfl | hc
  · decide
  · exact Utf8.not_isSurrogate_of_decode hdecode c hc

theorem isStorable_of_not_isSurrogate {c : CodePoint} (h : c.isSurrogate = false) :
    IsStorable c := by
  rw [IsStorable, h, Bool.false_and]

/-- The name of the output of a document that was read can be stored. -/
theorem isStorable_of_output (h : tree.readText path.text = .ok text)
    (hvalue : (Document.parse text).output? = some value) : ∀ c ∈ value, IsStorable c := by
  have hsetting := (Document.nonEmpty?_eq_some_iff.mp hvalue).1
  exact fun c hc => isStorable_of_not_isSurrogate
    (not_isSurrogate_of_readText h c (Document.mem_raw_of_mem_setting hsetting hc))

/-- A file whose text was read stands at the end of its path. -/
theorem status_of_readText (h : tree.readText path.text = .ok text) :
    ∃ place content, tree.status true path.text = .ok (place, .file content) := by
  obtain ⟨content, raw, hfile, -, -⟩ := decode_of_readText h
  rw [readFile] at hfile
  split at hfile
  · cases hfile
  · next place content' hstatus =>
    exact ⟨place, content', hstatus⟩
  · cases hfile

/-- The system can be asked about the directory of what a path resolves to. -/
theorem isAskable_of_resolve (h : tree.resolve path = .ok place) :
    ∀ name ∈ Location.parent place, IsAskable name := by
  have hask := isAskable_iff.mpr (checkPath_parent (checkPath_of_resolve h))
  exact fun name hname c hc => hask c (mem_text_iff.mpr (.inr ⟨name, hname, hc⟩))

/-! ## Failing resolutions -/

/-- What can be stored, and is no NUL unless that is granted. -/
def IsGranted (nul : Prop) (c : CodePoint) : Prop := IsStorable c ∧ (c.val = 0 → nul)

variable {nul : Prop}

theorem IsAskable.isGranted (h : IsAskable text) : Text.IsMadeOf (IsGranted nul) text :=
  fun c hc => ⟨(h c hc).1, fun hzero => absurd hzero (h c hc).2⟩

/-- Nothing that stands in a tree holds a NUL. -/
theorem Stored.adds (hform : tree.WellFormed) (hstored : tree.Stored) (nul : Prop) :
    tree.Adds (IsGranted nul) where
  slash := by
    refine ⟨by decide, fun hzero => absurd hzero (by decide)⟩
  dot := by
    refine ⟨by decide, fun hzero => absurd hzero (by decide)⟩
  working := fun name hname =>
    (hstored.names hform.workingDirectory_isDirectory name hname).2.isGranted
  target := fun hnode => (hstored.targets hnode).isGranted

/-- What can be stored fails to be asked about for a NUL. -/
theorem FailsFor.cases (h : FailsFor (IsGranted nul) fault) :
    fault = .tooDeep "maximum recursion depth exceeded" ∨ fault = .embeddedNul ∧ nul := by
  refine h.imp_right ?_
  rintro ⟨text, hmade, hcheck⟩
  by_cases hask : IsAskable text
  · rw [isAskable_iff.mp hask] at hcheck
    cases hcheck
  · have hnul : ∃ c ∈ text, c.val = 0 := by
      by_contra hnone
      exact hask fun c hc => ⟨(hmade c hc).1, fun hzero => hnone ⟨c, hc, hzero⟩⟩
    rw [checkPath_embeddedNul (fun c hc => (hmade c hc).1) hnul, Except.error.injEq] at hcheck
    obtain ⟨c, hc, hzero⟩ := hnul
    exact ⟨hcheck.symm, (hmade c hc).2 hzero⟩

end Tree

/-! ## Documents without a target -/

theorem Location.IsClean.name_ne_nil (hclean : place.IsClean) (hne : place ≠ []) :
    (Path.ofLocation place).name ≠ [] := by
  have hlast : (Path.ofLocation place).name = place.getLast hne := by
    rw [Path.name, Path.ofLocation, List.getLast?_eq_some_getLast hne, Option.getD_some]
  rw [hlast]
  exact (hclean _ (List.getLast_mem hne)).1

namespace Target

/-- Why a document that was read can have no target: the name of its output holds a NUL, the
system finds too many links where a path leads, links lie too deep inside one another, or the
document, which has to give the output its name, is taken for the root. -/
inductive Refusal (tree : Tree) (document : Document) (path : Path) : Fault → Prop where
  | nul {name : Text} (hname : document.output? = some name) (hnul : ∃ c ∈ name, c.val = 0) :
      Refusal tree document path .embeddedNul
  | loop {place : Location}
      (hloop : tree.find true (Location.text place) = .error .tooManyLinks) :
      Refusal tree document path (.linkLoop (Location.text place))
  | deep : Refusal tree document path (.tooDeep "maximum recursion depth exceeded")
  | nameless (hroot : tree.resolve path = .ok []) (hsilent : document.output? = none) :
      Refusal tree document path (.emptyName "/")

/-- A target is refused because the document is not found, or because its output is not. -/
theorem resolve_error_cases (h : resolve tree document path defaultLanguage = .error fault) :
    tree.resolve path = .error fault ∨ ∃ place, tree.resolve path = .ok place ∧
      outputOf tree document place (languageOf document defaultLanguage) = .error fault := by
  rw [resolve] at h
  cases hplace : tree.resolve path with
  | error fault' =>
    rw [hplace] at h
    cases h
    exact .inl rfl
  | ok place =>
    rw [hplace] at h
    simp only at h
    split at h
    · next houtput =>
      cases h
      exact .inr ⟨place, rfl, houtput⟩
    · cases h

/-- A document has a target if the output is found. -/
theorem resolve_of_outputOf {output : Location} (hplace : tree.resolve path = .ok place)
    (houtput : outputOf tree document place (languageOf document defaultLanguage) = .ok output) :
    resolve tree document path defaultLanguage =
      .ok ⟨languageOf document defaultLanguage, output⟩ := by
  rw [resolve, hplace]
  simp only [houtput]

theorem refusal_of_error (hform : tree.WellFormed) (hstored : tree.Stored)
    (hread : tree.readText path.text = .ok text)
    (h : resolve tree (Document.parse text) path defaultLanguage = .error fault) :
    Refusal tree (Document.parse text) path fault := by
  have hworking := hform.isClean hform.workingDirectory_isDirectory
  rcases resolve_error_cases h with hpath | ⟨place, hplace, houtput⟩
  · -- The document itself is found, so the system can be asked about its path.
    obtain ⟨found, content, hstatus⟩ := Tree.status_of_readText hread
    have hask : Tree.IsAskable path.text :=
      Tree.isAskable_iff.mpr (Tree.status_eq_ok_iff.mp hstatus).1
    rcases Tree.resolve_error_cases (hstored.adds hform False) hask.isGranted hpath with
      hfails | ⟨place, rfl, hloop⟩
    · rcases hfails.cases with rfl | ⟨-, hfalse⟩
      · exact .deep
      · exact hfalse.elim
    · exact .loop hloop
  · cases hname : (Document.parse text).output? with
    | none =>
      rw [outputOf, hname] at houtput
      simp only [Path.withSuffix] at houtput
      split at houtput
      · next hempty =>
        have hroot : place = [] := by
          by_contra hne
          exact (Tree.resolve_isClean hworking hplace).name_ne_nil hne hempty
        subst hroot
        cases houtput
        exact .nameless hplace hname
      · cases houtput
    | some name =>
      rw [outputOf, hname] at houtput
      simp only at houtput
      have hdirectory := Tree.isAskable_of_resolve hplace
      have hmade : Text.IsMadeOf (Tree.IsGranted (∃ c ∈ name, c.val = 0))
          ((Path.ofLocation (Location.parent place)).join (Path.ofText name)).text := by
        have hadds := hstored.adds hform (∃ c ∈ name, c.val = 0)
        refine (Tree.forall_mem_join_iff hadds.slash hadds.dot
          fun part hpart => (hdirectory part hpart).isGranted).mpr fun c hc => ?_
        exact ⟨Tree.isStorable_of_output hread hname c hc, fun hzero => ⟨c, hc, hzero⟩⟩
      rcases Tree.resolve_error_cases (hstored.adds hform _) hmade houtput with
        hfails | ⟨place, rfl, hloop⟩
      · rcases hfails.cases with rfl | ⟨rfl, hnul⟩
        · exact .deep
        · exact .nul hname hnul
      · exact .loop hloop

/-! ## Documents in sight -/

section InSight

variable {name : Text} {n : Nat} {q : Path}

/-- Without a name in its header a document has a target, as it has a name itself. -/
theorem exists_target_of_silent (hplace : tree.resolve path = .ok place) (hne : place ≠ [])
    (hworking : tree.workingDirectory.IsClean) (hsilent : document.output? = none) :
    ∃ target, resolve tree document path defaultLanguage = .ok target := by
  have hname := (Tree.resolve_isClean hworking hplace).name_ne_nil hne
  obtain ⟨output, houtput⟩ : ∃ output,
      outputOf tree document place (languageOf document defaultLanguage) = .ok output := by
    rw [outputOf, hsilent]
    simp only [Path.withSuffix, if_neg hname]
    exact ⟨_, rfl⟩
  exact ⟨_, resolve_of_outputOf hplace houtput⟩

/-- A name whose way has an end is resolved to it, or has a NUL in it. -/
theorem outputOf_of_trail (hform : tree.WellFormed) (hstored : tree.Stored)
    (hplace : tree.resolve path = .ok place) (hlinks : tree.Unlinked place)
    (hname : document.output? = some name) (hstorable : ∀ c ∈ name, Tree.IsStorable c)
    (htrail : tree.Trail n (Tree.linkStart ⟨.root, Location.parent place⟩ name)
      (Path.pieces name) q)
    (hdepth : n < Tree.resolveDepth) (language : Text) :
    ((∀ c ∈ name, c.val ≠ 0) → outputOf tree document place language = .ok (tree.placeOf q)) ∧
      ((∃ c ∈ name, c.val = 0) →
        outputOf tree document place language = .error .embeddedNul) := by
  have hclean : (Location.parent place).IsClean := (Tree.resolve_isClean
    (hform.isClean hform.workingDirectory_isDirectory) hplace).parent
  have habove : tree.Unlinked (Location.parent place) := hlinks.of_longer (List.dropLast_prefix _)
  have hdirectory := Tree.isAskable_of_resolve hplace
  have hjoined := (Tree.trail_join_iff habove hclean).mpr htrail
  have hask := @Tree.isAskable_join_iff _ name hdirectory
  rw [outputOf, hname]
  constructor
  · intro hzero
    have hall : Tree.IsAskable name := fun c hc => ⟨hstorable c hc, hzero c hc⟩
    exact Tree.resolve_of_trail hform hstored hjoined hdepth (hask.mpr hall)
  · rintro ⟨c, hc, hzero⟩
    have hunaskable : ¬Tree.IsAskable name := fun hall => (hall c hc).2 hzero
    obtain ⟨fault, hfails, hfault⟩ := Tree.resolve_unaskable hform hstored hjoined hdepth
      (mt hask.mp hunaskable)
    have hmade : ∀ c ∈ ((Path.ofLocation (Location.parent place)).join
        (Path.ofText name)).text, Tree.IsStorable c :=
      (Tree.forall_mem_join_iff (by decide) (by decide)
        fun part hpart c hc => (hdirectory part hpart c hc).1).mpr hstorable
    rw [hfault hmade] at hfails
    exact hfails

end InSight

/-- What becomes of a document that was read.  Its target, if it has one, is a clean place, and
there is a reason for each of its errors (`Refusal`).  A document in sight is found.  Without a
name in its header it has a target; with one whose way has an end, the target is that end if
there is no NUL in the name, and the NUL is refused otherwise. -/
theorem read_document_target (hform : tree.WellFormed) (hstored : tree.Stored)
    (hread : tree.readText path.text = .ok text) (defaultLanguage : Text) :
    (∀ target, resolve tree (Document.parse text) path defaultLanguage = .ok target →
      target.output.IsClean) ∧
    (∀ fault, resolve tree (Document.parse text) path defaultLanguage = .error fault →
      Refusal tree (Document.parse text) path fault) ∧
    (tree.InSight path → ∃ place, tree.resolve path = .ok place ∧
      ((Document.parse text).output? = none →
        ∃ target, resolve tree (Document.parse text) path defaultLanguage = .ok target) ∧
      ∀ name n q, (Document.parse text).output? = some name →
        tree.Trail n (Tree.linkStart ⟨.root, Location.parent place⟩ name) (Path.pieces name) q →
        n < Tree.resolveDepth →
        ((∀ c ∈ name, c.val ≠ 0) →
          resolve tree (Document.parse text) path defaultLanguage =
            .ok ⟨languageOf (Document.parse text) defaultLanguage, tree.placeOf q⟩) ∧
        ((∃ c ∈ name, c.val = 0) →
          resolve tree (Document.parse text) path defaultLanguage = .error .embeddedNul)) := by
  have hworking := hform.isClean hform.workingDirectory_isDirectory
  refine ⟨fun target => resolve_isClean hworking, fun fault => refusal_of_error hform hstored hread,
    fun hsight => ?_⟩
  obtain ⟨place, content, hfile⟩ := Tree.status_of_readText hread
  have hplace := Tree.resolve_of_status hform hstored hfile hsight
  have hnode : tree.node? place = some (.file content) :=
    (Tree.node?_of_find (Tree.status_eq_ok_iff.mp hfile).2).symm
  have hne : place ≠ [] := by
    rintro rfl
    cases hnode
  refine ⟨place, hplace, exists_target_of_silent hplace hne hworking,
    fun name n q hname htrail hdepth => ?_⟩
  obtain ⟨hfound, hrefused⟩ := outputOf_of_trail hform hstored hplace
    (hform.unlinked hnode (by simp)) hname (Tree.isStorable_of_output hread hname) htrail hdepth
    (languageOf (Document.parse text) defaultLanguage)
  refine ⟨fun hzero => resolve_of_outputOf hplace (hfound hzero), fun hnul => ?_⟩
  rw [resolve, hplace]
  simp only [hrefused hnul]

/-! ## An output behind a link, and names that are refused -/

/-- A directory with a link to another one and a link to itself, and with a document. -/
def linkedOutputTree (header : Text) : Tree where
  entries := [(["w"], .directory), (["w", "src"], .directory), (["w", "in"], .link "src"),
    (["w", "loop"], .link "loop"), (["w", "a.gpt"], .file (header.flatMap Utf8.ofCodePoint))]
  workingDirectory := ["w"]

/-- A header that names an output behind the link. -/
def linkedHeader : Text := "@output: in/b.js\n\nx"

/-- The way of that output goes through the link. -/
theorem trail_linkedHeader : (linkedOutputTree linkedHeader).Trail 1
    (Tree.linkStart ⟨.root, Location.parent ["w", "a.gpt"]⟩ "in/b.js") (Path.pieces "in/b.js")
    ⟨.root, ["w", "src", "b.js"]⟩ := by
  have hlink : (linkedOutputTree linkedHeader).node? ["w", "in"] = some (.link "src") := by
    decide +kernel
  have hdirectory : (linkedOutputTree linkedHeader).node? ["w", "src"] = some .directory := by
    decide +kernel
  have houtput : (linkedOutputTree linkedHeader).node? ["w", "src", "b.js"] = none := by
    decide +kernel
  have hbehind : (linkedOutputTree linkedHeader).Trail 0 (Tree.linkStart ⟨.root, ["w"]⟩ "src")
      (Path.pieces "src") ⟨.root, ["w", "src"]⟩ := by
    refine .name (by decide) (fun target htarget => ?_) .arrived
    cases hdirectory.symm.trans htarget
  refine .link (by decide) hlink (by decide) hbehind (.name (by decide) (fun target htarget => ?_)
    .arrived)
  cases houtput.symm.trans htarget

/-- A document whose output stands behind a link is compiled to the place there. -/
theorem linked_output_is_found :
    (linkedOutputTree linkedHeader).WellFormed ∧ (linkedOutputTree linkedHeader).Stored ∧
      (linkedOutputTree linkedHeader).readText (Path.ofText "/w/a.gpt").text = .ok linkedHeader ∧
      resolve (linkedOutputTree linkedHeader) (Document.parse linkedHeader)
        (Path.ofText "/w/a.gpt") "javascript" = .ok ⟨"javascript", ["w", "src", "b.js"]⟩ := by
  have hform : (linkedOutputTree linkedHeader).WellFormed :=
    .of_entries (by decide +kernel) (by decide +kernel)
  have hstored : (linkedOutputTree linkedHeader).Stored := .of_entries (by decide +kernel)
  have hread : (linkedOutputTree linkedHeader).readText (Path.ofText "/w/a.gpt").text =
      .ok linkedHeader := by
    decide +kernel
  have hsight : (linkedOutputTree linkedHeader).InSight (Path.ofText "/w/a.gpt") :=
    Tree.inSight_of_entries (by decide +kernel) (by decide +kernel)
  obtain ⟨-, -, hfound⟩ := read_document_target hform hstored hread "javascript"
  obtain ⟨place, hplace, -, hnamed⟩ := hfound hsight
  have hdocument : (linkedOutputTree linkedHeader).resolve (Path.ofText "/w/a.gpt") =
      .ok ["w", "a.gpt"] := by
    decide +kernel
  obtain rfl : place = ["w", "a.gpt"] := by
    rw [hplace, Except.ok.injEq] at hdocument
    exact hdocument
  obtain ⟨hends, -⟩ := hnamed "in/b.js" 1 _ (by decide +kernel) trail_linkedHeader (by decide)
  have hvalue := hends (by decide)
  exact ⟨hform, hstored, hread, hvalue⟩

/-- A header with a NUL in the name of the output. -/
def nulHeader : Text := "@output: a\x00b.js\n\nx"

/-- A header that names the link to itself. -/
def loopHeader : Text := "@output: loop\n\nx"

/-- Documents that were read, and have no target: one for a NUL in the name of the output, and
one for a link that leads back into itself. -/
theorem nul_and_loop_are_refused :
    (linkedOutputTree nulHeader).WellFormed ∧
      (linkedOutputTree nulHeader).readText (Path.ofText "a.gpt").text = .ok nulHeader ∧
      (¬∃ target, resolve (linkedOutputTree nulHeader) (Document.parse nulHeader)
        (Path.ofText "a.gpt") "javascript" = .ok target) ∧
      (linkedOutputTree loopHeader).WellFormed ∧
      (linkedOutputTree loopHeader).readText (Path.ofText "a.gpt").text = .ok loopHeader ∧
      ¬∃ target, resolve (linkedOutputTree loopHeader) (Document.parse loopHeader)
        (Path.ofText "a.gpt") "javascript" = .ok target := by
  have hnul : (resolve (linkedOutputTree nulHeader) (Document.parse nulHeader)
      (Path.ofText "a.gpt") "javascript").toOption = none := by
    decide +kernel
  have hloop : (resolve (linkedOutputTree loopHeader) (Document.parse loopHeader)
      (Path.ofText "a.gpt") "javascript").toOption = none := by
    decide +kernel
  refine ⟨.of_entries (by decide +kernel) (by decide +kernel), by decide +kernel, ?_,
    .of_entries (by decide +kernel) (by decide +kernel), by decide +kernel, ?_⟩
  · rintro ⟨target, htarget⟩
    rw [htarget] at hnul
    cases hnul
  · rintro ⟨target, htarget⟩
    rw [htarget] at hloop
    cases hloop

end Target

end ProseCompiler
