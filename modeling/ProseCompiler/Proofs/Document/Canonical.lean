import ProseCompiler.Proofs.Document.Scaffold
import ProseCompiler.Proofs.Files.Joining

/-!
# Where a document compiles to

The target of a document tells its language in lower case and names its output by a clean
place.  Without a name in the header the output stands beside the document, under the
document's name with another suffix (`Path.Splits`).  A name in the header is walked from the
document's directory as long as no link stands on the way.

How a document is spelled makes no difference: whatever path leads to it, through links as
well, the target is the same (`target_is_canonical`).  That is so for paths in sight.  A link
that stands deeper than the system can look a path up is not seen by a resolution, while the
document behind it can still be reached by another way (`spelling_beyond_sight_matters`).
-/

namespace ProseCompiler

/-! ## Suffixes -/

namespace Text

variable {separator : CodePoint} {t before after : Text}

theorem eq_of_cutAt? (h : cutAt? separator t = some (before, after)) :
    t = before ++ separator :: after ∧ separator ∉ before := by
  induction t generalizing before with
  | nil => cases h
  | cons c t ih =>
    rw [cutAt?] at h
    split at h
    · next hc =>
      cases h
      exact ⟨by rw [hc, List.nil_append], List.not_mem_nil⟩
    · next hc =>
      obtain ⟨⟨first, rest⟩, hcut, heq⟩ := Option.map_eq_some_iff.mp h
      cases heq
      obtain ⟨rfl, hfirst⟩ := ih hcut
      exact ⟨rfl, List.not_mem_cons_of_ne_of_not_mem (Ne.symm hc) hfirst⟩

theorem eq_of_cutAtLast? (h : cutAtLast? separator t = some (before, after)) :
    t = before ++ separator :: after ∧ separator ∉ after := by
  obtain ⟨⟨first, rest⟩, hcut, heq⟩ := Option.map_eq_some_iff.mp h
  cases heq
  obtain ⟨hreverse, hfirst⟩ := eq_of_cutAt? hcut
  refine ⟨?_, fun hmem => hfirst (List.mem_reverse.mp hmem)⟩
  rw [← List.reverse_reverse t, hreverse]
  simp

end Text

namespace Path

/-- A name is a stem and a suffix behind its last dot, and neither of them is empty. -/
structure Splits (name stem suffix : Text) : Prop where
  name_eq : name = stem ++ ("." ++ suffix)
  stem_ne_nil : stem ≠ []
  suffix_ne_nil : suffix ≠ []
  dot_not_mem : ('.' : CodePoint) ∉ suffix

theorem Splits.stemOf {name stem suffix : Text} (h : Splits name stem suffix) :
    stemOf name = stem := by
  rw [h.name_eq]
  exact stemOf_append h.stem_ne_nil h.suffix_ne_nil h.dot_not_mem

/-- A name that has no suffix is its own stem. -/
theorem stemOf_of_not_splits {name : Text} (h : ∀ stem suffix, ¬Splits name stem suffix) :
    stemOf name = name := by
  have hsuffix : suffixOf name = [] := by
    rw [suffixOf]
    split
    · next before after hcut =>
      obtain ⟨hname, hdot⟩ := Text.eq_of_cutAtLast? hcut
      exact if_neg fun hboth => h before after ⟨hname, hboth.1, hboth.2, hdot⟩
    · rfl
  rw [stemOf, hsuffix, List.length_nil, Nat.sub_zero, List.take_length]

end Path

/-! ## Settings -/

theorem Document.nonEmpty?_eq_some_iff {settings : Settings} {key value : Text} :
    nonEmpty? settings key = some value ↔ settings.get? key = some value ∧ value ≠ [] := by
  rw [nonEmpty?, Option.filter_eq_some_iff]
  simp

theorem Document.nonEmpty?_eq_none_iff {settings : Settings} {key : Text} :
    nonEmpty? settings key = none ↔ settings.get? key = none ∨ settings.get? key = some [] := by
  rw [nonEmpty?]
  cases settings.get? key with
  | none => simp
  | some value => simp

namespace Target

variable {tree : Tree} {document : Document} {path : Path} {defaultLanguage language : Text}
  {place resolved output : Location} {target : Target} {content : Bytes}

/-! ## Targets -/

/-- The parts that a target is made of. -/
theorem parts_of_resolve (h : resolve tree document path defaultLanguage = .ok target) :
    ∃ resolved, tree.resolve path = .ok resolved ∧
      target.language = languageOf document defaultLanguage ∧
      outputOf tree document resolved target.language = .ok target.output := by
  rw [resolve] at h
  cases hresolved : tree.resolve path with
  | error fault =>
    rw [hresolved] at h
    cases h
  | ok resolved =>
    rw [hresolved] at h
    simp only at h
    split at h
    · cases h
    · next houtput =>
      cases h
      exact ⟨resolved, rfl, rfl, houtput⟩

/-- Documents at one place have one target. -/
theorem resolve_of_same_place {other : Path} (h : tree.resolve other = tree.resolve path)
    (document : Document) (defaultLanguage : Text) :
    resolve tree document other defaultLanguage = resolve tree document path defaultLanguage := by
  rw [resolve, resolve, h]

/-- An output that the header names is where the name leads from the document's directory, if
no link stands on the way. -/
theorem outputOf_of_plain {name : Text} (hform : tree.WellFormed) (hstored : tree.Stored)
    (hresolved : resolved.IsClean) (hname : document.output? = some name)
    (hplain : tree.IsPlainWay []
      ((if Path.anchorOf name = .relative then Location.parent resolved else []) ++
        Path.pieces name))
    (h : outputOf tree document resolved language = .ok output) :
    output = Location.ofText (Location.parent resolved) name := by
  have hclean : (Location.parent resolved).IsClean := hresolved.parent
  have hslash : ∀ part ∈ ((Path.ofLocation (Location.parent resolved)).join
      (Path.ofText name)).parts, ('/' : CodePoint) ∉ part := Tree.slash_not_mem_join hclean
  have habsolute := Tree.join_isAbsolute (Location.parent resolved) (Path.ofText name)
  have hparts := Tree.join_parts (Location.parent resolved) name
  rw [outputOf, hname] at h
  simp only at h
  generalize (Path.ofLocation (Location.parent resolved)).join (Path.ofText name) = joined
    at h hslash habsolute hparts
  have hpieces : ∀ piece ∈ (if Path.anchorOf name = .relative then Location.parent resolved
      else []) ++ Path.pieces name, ('/' : CodePoint) ∉ piece := by
    intro piece hpiece
    rcases List.mem_append.mp hpiece with hpiece | hpiece
    · split at hpiece
      · exact (hclean piece hpiece).2.2.2
      · cases hpiece
    · exact Path.not_mem_of_mem_pieces hpiece
  have hwalked := Tree.trail_of_plain hpieces .nil hplain
  have hend : Location.walk [] ((if Path.anchorOf name = .relative then Location.parent resolved
      else []) ++ Path.pieces name) = Location.ofText (Location.parent resolved) name := by
    rw [Location.walk_append, Location.ofText]
    split
    · rw [Tree.walk_of_isClean hclean, List.nil_append]
    · rfl
  rw [hend] at hwalked
  have htrail : tree.Trail 0 (Tree.startPath joined.text) (Path.pieces joined.text)
      ⟨.root, Location.ofText (Location.parent resolved) name⟩ := by
    rw [Tree.trail_text_iff habsolute hslash, hparts, ← Tree.trail_busy_iff, Path.busy_append,
      Path.busy_busy, ← Path.busy_append, Tree.trail_busy_iff]
    exact hwalked
  have hdepth : 0 < Tree.resolveDepth := by decide
  by_cases hask : Tree.IsAskable joined.text
  · have hplace := Tree.resolve_of_trail hform hstored htrail hdepth hask
    rw [h, Except.ok.injEq] at hplace
    rw [hplace, Tree.placeOf_root (Location.ofText_isClean hclean name)]
  · obtain ⟨fault, hfails, -⟩ := Tree.resolve_unaskable hform hstored htrail hdepth hask
    rw [h] at hfails
    cases hfails

/-- Without a name in the header the output stands beside the document. -/
theorem outputOf_of_none (hnone : document.output? = none)
    (h : outputOf tree document resolved language = .ok output) :
    output = Location.parent resolved ++
      [Path.stemOf (Location.name resolved) ++ ("." ++ Language.extension language)] := by
  rw [outputOf, hnone] at h
  simp only [Path.withSuffix] at h
  split at h
  · cases h
  · cases h
    rfl

/-- What a document compiles to is told by its header and by the place of the document.  The
language is the one of the header, or else the default one, trimmed and in lower case.  The
output is a clean place: where the name of the header leads from the document's directory, if
no link stands on the way, and without such a name the place beside the document with the
extension of the language for a suffix.  All paths in sight of one document have one target,
and so has the path of its place. -/
theorem target_is_canonical (hform : tree.WellFormed) (hstored : tree.Stored)
    (hfile : tree.status true path.text = .ok (place, .file content)) :
    (∀ target, resolve tree document path defaultLanguage = .ok target →
      (∀ language, document.settings.get? "language" = some language → language ≠ [] →
        target.language = (Text.trim language).lower) ∧
      (document.settings.get? "language" = none ∨ document.settings.get? "language" = some [] →
        target.language = (Text.trim defaultLanguage).lower) ∧
      target.output.IsClean ∧
      Path.ofText (Location.text target.output) = Path.ofLocation target.output ∧
      ∃ resolved, tree.resolve path = .ok resolved ∧
        (∀ name, document.settings.get? "output" = some name → name ≠ [] →
          tree.IsPlainWay [] ((if Path.anchorOf name = .relative then Location.parent resolved
            else []) ++ Path.pieces name) →
          target.output = Location.ofText (Location.parent resolved) name) ∧
        (document.settings.get? "output" = none ∨ document.settings.get? "output" = some [] →
          (∀ stem suffix, Path.Splits (Location.name resolved) stem suffix →
            target.output = Location.parent resolved ++
              [stem ++ ("." ++ Language.extension target.language)]) ∧
          ((∀ stem suffix, ¬Path.Splits (Location.name resolved) stem suffix) →
            target.output = Location.parent resolved ++
              [Location.name resolved ++ ("." ++ Language.extension target.language)]))) ∧
    (tree.InSight path →
      tree.resolve path = .ok place ∧ tree.Unlinked place ∧
      resolve tree document (Path.ofLocation place) defaultLanguage =
        resolve tree document path defaultLanguage ∧
      ∀ other node, tree.status true other.text = .ok (place, node) → tree.InSight other →
        resolve tree document other defaultLanguage =
          resolve tree document path defaultLanguage) := by
  constructor
  · intro target htarget
    obtain ⟨resolved, hresolved, hlanguage, houtput⟩ := parts_of_resolve htarget
    have hresolvedClean : resolved.IsClean := Tree.resolve_isClean
      (hform.isClean hform.workingDirectory_isDirectory) hresolved
    have hclean : target.output.IsClean := outputOf_isClean
      (hform.isClean hform.workingDirectory_isDirectory) hresolvedClean houtput
    refine ⟨fun language hgiven hne => ?_, fun hmissing => ?_, hclean, Path.ofText_location hclean,
      resolved, hresolved, fun name hgiven hne hplain => ?_, fun hmissing => ?_⟩
    · have hasked : document.language? = some language :=
        Document.nonEmpty?_eq_some_iff.mpr ⟨hgiven, hne⟩
      rw [hlanguage, languageOf, hasked, Option.getD_some, Language.normal]
    · have hasked : document.language? = none := Document.nonEmpty?_eq_none_iff.mpr hmissing
      rw [hlanguage, languageOf, hasked, Option.getD_none, Language.normal]
    · exact outputOf_of_plain hform hstored hresolvedClean
        (Document.nonEmpty?_eq_some_iff.mpr ⟨hgiven, hne⟩) hplain houtput
    · have hbeside := outputOf_of_none (Document.nonEmpty?_eq_none_iff.mpr hmissing) houtput
      refine ⟨fun stem suffix hsplits => ?_, fun hsplits => ?_⟩
      · rw [hbeside, hsplits.stemOf]
      · rw [hbeside, Path.stemOf_of_not_splits hsplits]
  · intro hsight
    have hplace := Tree.resolve_of_status hform hstored hfile hsight
    have hnode : tree.node? place = some (.file content) :=
      (Tree.node?_of_find (Tree.status_eq_ok_iff.mp hfile).2).symm
    have hlinks : tree.Unlinked place := hform.unlinked hnode (by simp)
    have hself : tree.resolve (Path.ofLocation place) = .ok place :=
      Tree.resolve_of_unlinked hform hstored hlinks (hform.isClean hnode)
        (Tree.checkPath_of_resolve hplace)
    refine ⟨hplace, hlinks, resolve_of_same_place (hself.trans hplace.symm) document defaultLanguage,
      fun other node hother hotherSight => ?_⟩
    have hotherPlace := Tree.resolve_of_status hform hstored hother hotherSight
    exact resolve_of_same_place (hotherPlace.trans hplace.symm) document defaultLanguage

/-! ## A document behind a link, and one beyond sight -/

/-- A document that can be reached through a link to its directory. -/
def linkedDocumentTree : Tree where
  entries := [(["w"], .directory), (["w", "src"], .directory),
    (["w", "src", "hello.v2.gpt"], .file []), (["w", "in"], .link "src")]
  workingDirectory := ["w"]

theorem linkedDocumentTree_wellFormed : linkedDocumentTree.WellFormed :=
  .of_entries (by decide +kernel) (by decide +kernel)

theorem linkedDocumentTree_stored : linkedDocumentTree.Stored := .of_entries (by decide +kernel)

/-- By a way that goes through the link twice the document compiles to the same output as by
its own path. -/
theorem linked_document_is_canonical :
    linkedDocumentTree.status true (Path.ofText "/w/in/../in/hello.v2.gpt").text =
        .ok (["w", "src", "hello.v2.gpt"], .file []) ∧
      linkedDocumentTree.InSight (Path.ofText "/w/in/../in/hello.v2.gpt") ∧
      resolve linkedDocumentTree (Document.parse "@language: Python\n\nPrint hello")
        (Path.ofText "/w/in/../in/hello.v2.gpt") "go" =
          .ok ⟨"python", ["w", "src", "hello.v2.py"]⟩ ∧
      resolve linkedDocumentTree (Document.parse "@language: Python\n\nPrint hello")
        (Path.ofLocation ["w", "src", "hello.v2.gpt"]) "go" =
          .ok ⟨"python", ["w", "src", "hello.v2.py"]⟩ ∧
      Path.ofText (Location.text ["w", "src", "hello.v2.py"]) =
        Path.ofLocation ["w", "src", "hello.v2.py"] := by
  have hfile : linkedDocumentTree.status true (Path.ofText "/w/in/../in/hello.v2.gpt").text =
      .ok (["w", "src", "hello.v2.gpt"], .file []) := by
    decide +kernel
  have hsight : linkedDocumentTree.InSight (Path.ofText "/w/in/../in/hello.v2.gpt") :=
    Tree.inSight_of_entries (by decide +kernel) (by decide +kernel)
  have hresolve : resolve linkedDocumentTree (Document.parse "@language: Python\n\nPrint hello")
      (Path.ofText "/w/in/../in/hello.v2.gpt") "go" =
        .ok ⟨"python", ["w", "src", "hello.v2.py"]⟩ := by
    decide +kernel
  obtain ⟨htarget, hspelling⟩ := @target_is_canonical linkedDocumentTree
    (Document.parse "@language: Python\n\nPrint hello") _ "go" _ _
    linkedDocumentTree_wellFormed linkedDocumentTree_stored hfile
  obtain ⟨-, -, -, hwritten, -⟩ := htarget _ hresolve
  obtain ⟨-, -, hself, -⟩ := hspelling hsight
  exact ⟨hfile, hsight, hresolve, hself.trans hresolve, hwritten⟩

/-- A name of 63 code points and 252 octets. -/
def longName : Text := List.replicate 63 (CodePoint.ofNat 0x10000)

/-- A directory whose path can be looked up, while those of the entries in it are too long for
that.  One of them is a link to a document, and the directory has a link to it as well. -/
def deepTree : Tree where
  entries := [(List.replicate 17 longName, .link "/f.gpt"), (["f.gpt"], .file []),
    (["a"], .link (Location.text (List.replicate 16 longName)))] ++
      (List.range 16).map fun n => (List.replicate (n + 1) longName, .directory)
  workingDirectory := []

/-- Through the link to the deep directory the system finds the document, and the resolution
does not see the second link: the output of this spelling stands beside that link. -/
theorem spelling_beyond_sight_matters :
    deepTree.WellFormed ∧ deepTree.Stored ∧
      deepTree.status true (Path.ofLocation ["f.gpt"]).text = .ok (["f.gpt"], .file []) ∧
      deepTree.status true (Path.ofLocation ["a", longName]).text = .ok (["f.gpt"], .file []) ∧
      resolve deepTree (Document.parse "x") (Path.ofLocation ["f.gpt"]) "javascript" =
        .ok ⟨"javascript", ["f.js"]⟩ ∧
      resolve deepTree (Document.parse "x") (Path.ofLocation ["a", longName]) "javascript" =
        .ok ⟨"javascript", List.replicate 16 longName ++ [longName ++ ".js"]⟩ ∧
      resolve deepTree (Document.parse "x") (Path.ofLocation ["a", longName]) "javascript" ≠
        resolve deepTree (Document.parse "x") (Path.ofLocation ["f.gpt"]) "javascript" := by
  have hdocument : resolve deepTree (Document.parse "x") (Path.ofLocation ["f.gpt"])
      "javascript" = .ok ⟨"javascript", ["f.js"]⟩ := by
    decide +kernel
  have hbeyond : resolve deepTree (Document.parse "x") (Path.ofLocation ["a", longName])
      "javascript" = .ok ⟨"javascript", List.replicate 16 longName ++ [longName ++ ".js"]⟩ := by
    decide +kernel
  refine ⟨.of_entries (by decide +kernel) (by decide +kernel), .of_entries (by decide +kernel),
    by decide +kernel, by decide +kernel, hdocument, hbeyond, ?_⟩
  rw [hdocument, hbeyond]
  simp

end Target

end ProseCompiler
