import ProseCompiler.Document.Template
import ProseCompiler.Proofs.Document.Target
import ProseCompiler.Proofs.Files.Unlinked
import ProseCompiler.Proofs.Text.Case

/-!
# Scaffolded documents

A template that is filled in with a name and a language is read back as just these
settings and the sentence to fill in (`parse_render`), and it is compiled to the file of
that name beside the document.  That is also where a document of the same name goes that
does not name its output.

There is one condition that the template itself does not make: the system has to be able
to store the name.  `scaffold_compiles_to_its_name` has the result with this condition,
and `unstorable_scaffold_is_refused` a name without it.
-/

namespace ProseCompiler

/-! ## What a template is filled in with -/

namespace Template

/-- A name and a language that leave a template as it is: the language is trimmed and not
empty, and neither goes over several lines or leads elsewhere. -/
structure Fits (stem language : Text) : Prop where
  language_ne_nil : language ≠ []
  language_trimmed : Text.trim language = language
  language_line : Text.newline ∉ language
  stem_start : Text.trimLeft stem = stem
  stem_line : Text.newline ∉ stem
  stem_slash : ('/' : CodePoint) ∉ stem
  stem_nul : ∀ c ∈ stem, c.val ≠ 0

instance (stem language : Text) : Decidable (Fits stem language) :=
  decidable_of_iff
    (language ≠ [] ∧ Text.trim language = language ∧ Text.newline ∉ language ∧
      Text.trimLeft stem = stem ∧ Text.newline ∉ stem ∧ ('/' : CodePoint) ∉ stem ∧
      ∀ c ∈ stem, c.val ≠ 0)
    ⟨fun ⟨h₁, h₂, h₃, h₄, h₅, h₆, h₇⟩ => ⟨h₁, h₂, h₃, h₄, h₅, h₆, h₇⟩,
      fun ⟨h₁, h₂, h₃, h₄, h₅, h₆, h₇⟩ => ⟨h₁, h₂, h₃, h₄, h₅, h₆, h₇⟩⟩

/-- The name of the file that a scaffolded document is compiled to. -/
def artifact (stem language : Text) : Text := stem ++ ("." ++ Language.extension language)

/-- A scaffolded document without the line that names its output. -/
def renderLanguage (language : Text) : Text := "@language: " ++ language ++ "\n\n" ++ body

end Template

/-- What an extension is made of. -/
theorem Language.mem_extension {language : Text} {c : CodePoint} (hc : c ∈ extension language) :
    c.isBlank = false ∧ c ≠ Text.newline ∧ Tree.IsStorable c ∧ c.val ≠ 0 := by
  have hall : ∀ name ∈ plainExtension :: extensions.map Prod.snd, ∀ c ∈ name,
      c.isBlank = false ∧ c ≠ Text.newline ∧ Tree.IsStorable c ∧ c.val ≠ 0 := by
    decide
  exact hall _ (mem_extensions_or_plain language) c hc

variable {stem language : Text}

theorem Template.artifact_ne_nil (stem language : Text) : artifact stem language ≠ [] := by
  simp [artifact]

theorem Template.Fits.newline_not_mem_artifact (h : Fits stem language) :
    Text.newline ∉ artifact stem language := by
  rw [artifact, List.mem_append, List.mem_append, not_or, not_or]
  exact ⟨h.stem_line, by decide, fun hmem => (Language.mem_extension hmem).2.1 rfl⟩

/-- An artifact's name is trimmed: its stem starts with no blank, and its extension has
none. -/
theorem Template.Fits.trim_artifact (h : Fits stem language) :
    Text.trim (artifact stem language) = artifact stem language := by
  obtain ⟨hne, -, -⟩ := Language.extension_plain language
  have hextension : Text.trimRight (Language.extension language) = Language.extension language :=
    Text.trimRight_eq_self_iff.mpr fun c hc =>
      (Language.mem_extension (List.mem_of_getLast? hc)).1
  have hdotted := Text.trimRight_append (s := ".") hne hextension
  refine Text.trim_eq_self_iff.mpr
    ⟨Text.trimLeft_eq_self_iff.mpr fun c hc => ?_, Text.trimRight_append (by simp) hdotted⟩
  cases stem with
  | nil =>
    cases hc
    decide
  | cons d rest => exact Text.trimLeft_eq_self_iff.mp h.stem_start c hc

/-! ## Reading a template -/

namespace Document

/-- A line with a key and a trimmed value is a setting. -/
theorem classify_setting {key value : Text} (hkey : key ≠ [])
    (hword : ∀ c ∈ key, c.isWordPart = true) (hvalue : value ≠ [])
    (htrimmed : Text.trim value = value) :
    classify (('@' : CodePoint) :: (key ++ (':' : CodePoint) :: (' ' : CodePoint) :: value)) =
      .setting key value := by
  let start : Text := ('@' : CodePoint) :: (key ++ [(':' : CodePoint), (' ' : CodePoint)])
  have hsplit : ('@' : CodePoint) :: (key ++ (':' : CodePoint) :: (' ' : CodePoint) :: value) =
      start ++ value := by simp [start]
  have hline : Text.trim (start ++ value) = start ++ value := by
    refine Text.trim_eq_self_iff.mpr
      ⟨Text.trimLeft_eq_self_iff.mpr fun c hc => ?_, Text.trimRight_append hvalue ?_⟩
    · cases hc
      decide
    · exact (Text.trim_eq_self_iff.mp htrimmed).2
  have hstop : (key ++ (':' : CodePoint) :: (' ' : CodePoint) :: value).takeWhile
      CodePoint.isWordPart = key := by
    rw [List.takeWhile_append_of_pos hword, List.takeWhile_cons_of_neg (by decide),
      List.append_nil]
  have hsetting : setting? (key ++ (':' : CodePoint) :: (' ' : CodePoint) :: value) =
      some (key, value) := by
    rw [setting?, hstop]
    simp only [List.drop_left, true_and]
    rw [if_pos hkey, Text.trim_cons_blank (by decide), htrimmed]
  rw [classify, hsplit, hline, ← hsplit]
  simp only [if_true, hsetting]

/-- The lines of a header, and what they say. -/
theorem headerFrom_setting {settings : Settings} {key value : Text} (hkey : key ≠ [])
    (hword : ∀ c ∈ key, c.isWordPart = true) (hvalue : value ≠ [])
    (htrimmed : Text.trim value = value) (rest : List Text) :
    headerFrom settings
        ((('@' : CodePoint) :: (key ++ (':' : CodePoint) :: (' ' : CodePoint) :: value)) :: rest) =
      headerFrom (settings.put key value) rest := by
  rw [headerFrom, classify_setting hkey hword hvalue htrimmed]

end Document

namespace Template

/-- The line that names the language. -/
def languageLine (language : Text) : Text :=
  ('@' : CodePoint) :: ("language" ++ (':' : CodePoint) :: (' ' : CodePoint) :: language)

/-- The line that names the output. -/
def outputLine (output : Text) : Text :=
  ('@' : CodePoint) :: ("output" ++ (':' : CodePoint) :: (' ' : CodePoint) :: output)

theorem render_eq (stem language : Text) :
    render stem language =
      languageLine language ++ Text.newline ::
        (outputLine (artifact stem language) ++ Text.newline :: ([] ++ Text.newline :: body)) := by
  have hlanguage : ("@language: " : Text) =
      ('@' : CodePoint) :: ("language" ++ [(':' : CodePoint), (' ' : CodePoint)]) := by decide
  have houtput : ("\n@output: " : Text) =
      Text.newline :: ('@' : CodePoint) :: ("output" ++ [(':' : CodePoint), (' ' : CodePoint)]) := by
    decide
  have hend : ("\n\n" : Text) = [Text.newline, Text.newline] := by decide
  unfold render languageLine outputLine artifact
  rw [hlanguage, houtput, hend]
  generalize body = rest
  simp only [List.append_assoc, List.cons_append, List.nil_append]

theorem renderLanguage_eq (language : Text) :
    renderLanguage language =
      languageLine language ++ Text.newline :: ([] ++ Text.newline :: body) := by
  have hlanguage : ("@language: " : Text) =
      ('@' : CodePoint) :: ("language" ++ [(':' : CodePoint), (' ' : CodePoint)]) := by decide
  have hend : ("\n\n" : Text) = [Text.newline, Text.newline] := by decide
  unfold renderLanguage languageLine
  rw [hlanguage, hend]
  generalize body = rest
  simp only [List.append_assoc, List.cons_append, List.nil_append]

theorem newline_not_mem_languageLine (h : Text.newline ∉ language) :
    Text.newline ∉ languageLine language := by
  have hkey : Text.newline ∉ ("language" : Text) := by decide
  simp only [languageLine, List.mem_cons, List.mem_append, not_or]
  exact ⟨by decide, hkey, by decide, by decide, h⟩

theorem newline_not_mem_outputLine {output : Text} (h : Text.newline ∉ output) :
    Text.newline ∉ outputLine output := by
  have hkey : Text.newline ∉ ("output" : Text) := by decide
  simp only [outputLine, List.mem_cons, List.mem_append, not_or]
  exact ⟨by decide, hkey, by decide, by decide, h⟩

/-- The sentence to fill in comes back from its lines. -/
theorem unlines_body : Text.unlines (Text.lines body) = body := by
  decide +kernel

end Template

/-- A blank line ends a header that has a setting. -/
theorem Document.headerFrom_blank {settings : Settings} (h : settings ≠ []) (rest : List Text) :
    headerFrom settings ([] :: rest) = (settings, some rest) := by
  cases settings with
  | nil => exact absurd rfl h
  | cons => rfl

/-- A template is read as its language and its artifact, and the sentence to fill in. -/
theorem parse_render (h : Template.Fits stem language) :
    Document.parse (Template.render stem language) =
      { raw := Template.render stem language
        settings := [("language", language), ("output", Template.artifact stem language)]
        instructions := Template.body } := by
  have hlines : Text.lines (Template.render stem language) =
      Template.languageLine language :: Template.outputLine (Template.artifact stem language) ::
        [] :: Text.lines Template.body := by
    rw [Template.render_eq, Text.lines,
      Text.splitOn_append_cons_self (Template.newline_not_mem_languageLine h.language_line),
      Text.splitOn_append_cons_self (Template.newline_not_mem_outputLine h.newline_not_mem_artifact),
      Text.splitOn_append_cons_self List.not_mem_nil, Text.lines]
  have hheader : Document.headerFrom [] (Text.lines (Template.render stem language)) =
      (([("language", language), ("output", Template.artifact stem language)] : Settings),
        some (Text.lines Template.body)) := by
    rw [hlines, Template.languageLine, Template.outputLine,
      Document.headerFrom_setting (by decide) (by decide) h.language_ne_nil h.language_trimmed,
      Document.headerFrom_setting (by decide) (by decide) (Template.artifact_ne_nil stem language)
        h.trim_artifact]
    exact Document.headerFrom_blank (List.cons_ne_nil _ _) _
  rw [Document.parse, hheader]
  simp only [Option.map_some, Option.getD_some, Template.unlines_body]

/-- So is one that does not name its output, but for that. -/
theorem parse_renderLanguage (h : Template.Fits stem language) :
    Document.parse (Template.renderLanguage language) =
      { raw := Template.renderLanguage language
        settings := [("language", language)]
        instructions := Template.body } := by
  have hlines : Text.lines (Template.renderLanguage language) =
      Template.languageLine language :: [] :: Text.lines Template.body := by
    rw [Template.renderLanguage_eq, Text.lines,
      Text.splitOn_append_cons_self (Template.newline_not_mem_languageLine h.language_line),
      Text.splitOn_append_cons_self List.not_mem_nil, Text.lines]
  have hheader : Document.headerFrom [] (Text.lines (Template.renderLanguage language)) =
      (([("language", language)] : Settings), some (Text.lines Template.body)) := by
    rw [hlines, Template.languageLine,
      Document.headerFrom_setting (by decide) (by decide) h.language_ne_nil h.language_trimmed]
    exact Document.headerFrom_blank (List.cons_ne_nil _ _) _
  rw [Document.parse, hheader]
  simp only [Option.map_some, Option.getD_some, Template.unlines_body]

/-! ## The target of a scaffolded document -/

theorem Path.ofText_of_isName {name : Text} (h : Path.IsName name) :
    Path.ofText name = ⟨.relative, [name]⟩ := by
  obtain ⟨hempty, hhere, -, hslash⟩ := h
  have hanchor : Path.anchorOf name = .relative := by
    obtain ⟨c, rest, rfl⟩ := List.exists_cons_of_ne_nil hempty
    have hc : c ≠ ('/' : CodePoint) := fun heq => hslash (heq ▸ List.mem_cons_self)
    simp [Path.anchorOf, hc]
  rw [Path.ofText, hanchor, Path.pieces, Text.splitOn_of_not_mem hslash]
  simp [hempty, hhere]

theorem Text.cutAt?_append {separator : CodePoint} {before after : Text}
    (hbefore : separator ∉ before) :
    Text.cutAt? separator (before ++ separator :: after) = some (before, after) := by
  induction before with
  | nil => simp [Text.cutAt?]
  | cons c before ih =>
    rw [List.mem_cons, not_or] at hbefore
    simp [Text.cutAt?, Ne.symm hbefore.1, ih hbefore.2]

/-- The text before and after a separator that does not come again. -/
theorem Text.cutAtLast?_append {separator : CodePoint} {before after : Text}
    (hafter : separator ∉ after) :
    Text.cutAtLast? separator (before ++ separator :: after) = some (before, after) := by
  have hreverse : (before ++ separator :: after).reverse =
      after.reverse ++ separator :: before.reverse := by simp
  rw [Text.cutAtLast?, hreverse, Text.cutAt?_append (by simpa using hafter)]
  simp

/-- A name that ends in a suffix is its stem and the suffix. -/
theorem Path.stemOf_append {suffix : Text} (hstem : stem ≠ []) (hsuffix : suffix ≠ [])
    (hdot : ('.' : CodePoint) ∉ suffix) : stemOf (stem ++ ("." ++ suffix)) = stem := by
  have hcut : Text.cutAtLast? '.' (stem ++ ("." ++ suffix)) = some (stem, suffix) :=
    Text.cutAtLast?_append hdot
  have hlast : suffixOf (stem ++ ("." ++ suffix)) = ([('.' : CodePoint)] : Text) ++ suffix := by
    rw [suffixOf, hcut]
    exact if_pos ⟨hstem, hsuffix⟩
  have hlength : (stem ++ ("." ++ suffix)).length -
      (([('.' : CodePoint)] : Text) ++ suffix).length = stem.length := by
    have hdotted : (("." : String) : Text).length = 1 := rfl
    simp only [List.length_append, hdotted, List.length_singleton]
    omega
  rw [stemOf, hlast, hlength, List.take_left]

section Target

variable {tree : Tree} {path : Path} {place : Location} {defaultLanguage : Text}

/-- A document that names a trimmed language is compiled to it. -/
theorem Target.languageOf_eq {document : Document} (hgiven : document.language? = some language)
    (htrimmed : Text.trim language = language) :
    languageOf document defaultLanguage = language.lower := by
  rw [languageOf, hgiven, Option.getD_some, Language.normal_of_trimmed htrimmed]

/-- A scaffolded document is compiled to what the name of its artifact leads to from its
directory. -/
theorem resolve_render (h : Template.Fits stem language) (hplace : tree.resolve path = .ok place) :
    Target.resolve tree (Document.parse (Template.render stem language)) path defaultLanguage =
      (tree.resolve (Path.ofLocation
        (Location.parent place ++ [Template.artifact stem language]))).map
        (Target.mk language.lower) := by
  have hname := Path.isName_extension h.stem_slash language
  have hlanguage : Target.languageOf (Document.parse (Template.render stem language))
      defaultLanguage = language.lower :=
    Target.languageOf_eq (by simp [parse_render h, Document.language?, Document.nonEmpty?,
      Settings.get?, h.language_ne_nil]) h.language_trimmed
  have houtput : (Document.parse (Template.render stem language)).output? =
      some (Template.artifact stem language) := by
    simp [parse_render h, Document.output?, Document.nonEmpty?, Settings.get?, List.lookup_cons,
      Template.artifact_ne_nil]
  rw [Target.resolve, hplace]
  simp only [hlanguage, Target.outputOf, houtput]
  rw [Template.artifact, Path.ofText_of_isName hname]
  have hjoin : (Path.ofLocation (Location.parent place)).join
      ⟨.relative, [stem ++ ("." ++ Language.extension language)]⟩ =
        Path.ofLocation (Location.parent place ++ [stem ++ ("." ++ Language.extension language)]) :=
    rfl
  rw [hjoin]
  cases tree.resolve (Path.ofLocation
    (Location.parent place ++ [stem ++ ("." ++ Language.extension language)])) <;> rfl

/-- Without a line that names it, the output is the document's own name with the extension
of its language. -/
theorem resolve_renderLanguage (h : Template.Fits stem language)
    (hplace : tree.resolve path = .ok place) {suffix : Text} (hstem : stem ≠ [])
    (hsuffix : suffix ≠ []) (hdot : ('.' : CodePoint) ∉ suffix)
    (hname : Location.name place = stem ++ ("." ++ suffix)) :
    Target.resolve tree (Document.parse (Template.renderLanguage language)) path defaultLanguage =
      .ok ⟨language.lower, Location.parent place ++ [Template.artifact stem language]⟩ := by
  have hlanguage : Target.languageOf (Document.parse (Template.renderLanguage language))
      defaultLanguage = language.lower :=
    Target.languageOf_eq (by simp [parse_renderLanguage h, Document.language?,
      Document.nonEmpty?, Settings.get?, h.language_ne_nil]) h.language_trimmed
  have houtput : (Document.parse (Template.renderLanguage language)).output? = none := by
    simp [parse_renderLanguage h, Document.output?, Document.nonEmpty?, Settings.get?,
      List.lookup_cons]
  have hlast : (Path.ofLocation place).name = stem ++ ("." ++ suffix) := hname
  have hne : (Path.ofLocation place).name ≠ [] := by
    rw [hlast]
    simp [hstem]
  have hextension : Language.extension language.lower = Language.extension language := by
    rw [← Language.normal_of_trimmed h.language_trimmed,
      Language.extension_normal h.language_trimmed]
  rw [Target.resolve, hplace]
  simp only [hlanguage, Target.outputOf, houtput]
  rw [Path.withSuffix, if_neg hne, hlast, Path.stemOf_append hstem hsuffix hdot, hextension]
  rfl

/-- A scaffolded document behind no link is compiled to the artifact beside it, if the
system can store the artifact's name. -/
theorem resolve_render_of_unlinked (h : Template.Fits stem language)
    (hworking : tree.workingDirectory.IsClean) (hplace : tree.resolve path = .ok place)
    (habove : tree.Unlinked (Location.parent place))
    (hlink : ∀ target,
      tree.node? (Location.parent place ++ [Template.artifact stem language]) ≠
        some (.link target)) :
    Target.resolve tree (Document.parse (Template.render stem language)) path defaultLanguage =
      (Tree.checkPath (Location.text
        (Location.parent place ++ [Template.artifact stem language]))).map
        fun _ => ⟨language.lower, Location.parent place ++ [Template.artifact stem language]⟩ := by
  have hclean : (Location.parent place ++ [Template.artifact stem language]).IsClean :=
    (Tree.resolve_isClean hworking hplace).parent.concat
      (Path.isName_extension h.stem_slash language)
  rw [resolve_render h hplace,
    Tree.resolve_ofLocation hclean (habove.concat hlink)
      (Tree.checkPath_parent (Tree.checkPath_of_resolve hplace))]
  cases Tree.checkPath _ <;> rfl

/-- The name of an artifact can be stored if its stem can. -/
theorem Template.Fits.checkPath_artifact (h : Fits stem language) {directory : Location}
    (hdirectory : Tree.checkPath (Location.text directory) = .ok ()) :
    Tree.checkPath (Location.text (directory ++ [artifact stem language])) = .ok () ↔
      ∀ c ∈ stem, Tree.IsStorable c := by
  rw [Tree.checkPath_concat_eq_ok_iff hdirectory]
  constructor
  · intro hall c hc
    exact (hall c (List.mem_append_left _ hc)).1
  · intro hall c hc
    rcases List.mem_append.mp hc with hc | hc
    · exact ⟨hall c hc, h.stem_nul c hc⟩
    rcases List.mem_append.mp hc with hc | hc
    · cases List.mem_singleton.mp hc
      decide
    · exact (Language.mem_extension hc).2.2

/-- A scaffolded document says its language and its artifact, and is compiled to what the
name of the artifact leads to from its directory.  Behind no link that is the artifact
itself, also for the document that does not name it, just if the system can store
every code point of the stem. -/
theorem scaffold_compiles_to_its_name (h : Template.Fits stem language)
    (hworking : tree.workingDirectory.IsClean) (hplace : tree.resolve path = .ok place)
    (defaultLanguage : Text) :
    Document.parse (Template.render stem language) =
        { raw := Template.render stem language
          settings := [("language", language), ("output", Template.artifact stem language)]
          instructions := Template.body } ∧
      Target.resolve tree (Document.parse (Template.render stem language)) path defaultLanguage =
        (tree.resolve (Path.ofLocation
          (Location.parent place ++ [Template.artifact stem language]))).map
          (Target.mk language.lower) ∧
      (tree.Unlinked (Location.parent place) →
        (∀ target, tree.node? (Location.parent place ++ [Template.artifact stem language]) ≠
          some (.link target)) →
        ((∃ c ∈ stem, ¬Tree.IsStorable c) →
          ∃ error, Target.resolve tree (Document.parse (Template.render stem language)) path
            defaultLanguage = .error (.unencodable error)) ∧
        ((∀ c ∈ stem, Tree.IsStorable c) →
          Target.resolve tree (Document.parse (Template.render stem language)) path
              defaultLanguage =
            .ok ⟨language.lower, Location.parent place ++ [Template.artifact stem language]⟩ ∧
          ∀ suffix : Text, stem ≠ [] → suffix ≠ [] → ('.' : CodePoint) ∉ suffix →
            Location.name place = stem ++ ("." ++ suffix) →
            Target.resolve tree (Document.parse (Template.renderLanguage language)) path
                defaultLanguage =
              Target.resolve tree (Document.parse (Template.render stem language)) path
                defaultLanguage)) := by
  refine ⟨parse_render h, resolve_render h hplace, fun habove hlink => ⟨?_, ?_⟩⟩
  · rintro ⟨c, hc, hbad⟩
    have hmem : c ∈ Location.text (Location.parent place ++ [Template.artifact stem language]) :=
      Tree.mem_text_iff.mpr (.inr ⟨_, List.mem_concat_self, List.mem_append_left _ hc⟩)
    obtain ⟨error, herror⟩ := Tree.checkPath_unencodable ⟨c, hmem, hbad⟩
    exact ⟨error, by rw [resolve_render_of_unlinked h hworking hplace habove hlink, herror]; rfl⟩
  · intro hall
    have hcheck := (h.checkPath_artifact
      (Tree.checkPath_parent (Tree.checkPath_of_resolve hplace))).mpr hall
    have hresolve : Target.resolve tree (Document.parse (Template.render stem language)) path
        defaultLanguage =
          .ok ⟨language.lower, Location.parent place ++ [Template.artifact stem language]⟩ := by
      rw [resolve_render_of_unlinked h hworking hplace habove hlink, hcheck]
      rfl
    refine ⟨hresolve, fun suffix hstem hsuffix hdot hname => ?_⟩
    rw [hresolve]
    exact resolve_renderLanguage h hplace hstem hsuffix hdot hname

end Target

/-! ## A name with dots, and one that cannot be stored -/

/-- A directory with a document in it. -/
def scaffoldTree : Tree where
  entries := [(["w"], .directory), (["w", "a.b.gpt"], .file [])]
  workingDirectory := ["w"]

theorem scaffoldTree_wellFormed : scaffoldTree.WellFormed :=
  .of_entries (by decide +kernel) (by decide +kernel)

/-- A name with a dot and a language in mixed case, beside a document of that name. -/
theorem dotted_scaffold_compiles_to_its_name :
    Target.resolve scaffoldTree (Document.parse (Template.render "a.b" "Python"))
        (Path.ofText "a.b.gpt") "javascript" = .ok ⟨"python", ["w", "a.b.py"]⟩ ∧
      Target.resolve scaffoldTree (Document.parse (Template.renderLanguage "Python"))
        (Path.ofText "a.b.gpt") "javascript" = .ok ⟨"python", ["w", "a.b.py"]⟩ := by
  have hdocument : scaffoldTree.node? ["w", "a.b.gpt"] = some (.file []) := by decide
  have hunlinked : scaffoldTree.Unlinked (Location.parent ["w", "a.b.gpt"]) :=
    (scaffoldTree_wellFormed.unlinked hdocument (by simp)).of_longer (List.dropLast_prefix _)
  have hartifact : scaffoldTree.node? (Location.parent ["w", "a.b.gpt"] ++
      [Template.artifact "a.b" "Python"]) = none := by
    decide +kernel
  have hfits : Template.Fits "a.b" "Python" := by decide +kernel
  have hplace : scaffoldTree.resolve (Path.ofText "a.b.gpt") = .ok ["w", "a.b.gpt"] := by
    decide +kernel
  obtain ⟨-, -, hbehind⟩ := scaffold_compiles_to_its_name hfits
    (scaffoldTree_wellFormed.isClean scaffoldTree_wellFormed.workingDirectory_isDirectory)
    hplace "javascript"
  obtain ⟨-, hstored⟩ := hbehind hunlinked fun target htarget => by
    rw [hartifact] at htarget
    cases htarget
  obtain ⟨hnamed, hplain⟩ := hstored (by decide)
  have hvalue : (⟨Text.lower "Python", Location.parent ["w", "a.b.gpt"] ++
      [Template.artifact "a.b" "Python"]⟩ : Target) = ⟨"python", ["w", "a.b.py"]⟩ := by
    decide +kernel
  rw [hvalue] at hnamed
  exact ⟨hnamed, (hplain "gpt" (by decide) (by decide) (by decide) (by decide)).trans hnamed⟩

/-- A stem that is half of a pair fits a template, but nothing can be stored under its name:
its document has no target. -/
theorem unstorable_scaffold_is_refused :
    Template.Fits [CodePoint.ofNat 0xD800] "python" ∧
      scaffoldTree.resolve (Path.ofText "/w/docs/a.gpt") = .ok ["w", "docs", "a.gpt"] ∧
      scaffoldTree.node? ["w", "docs", Template.artifact [CodePoint.ofNat 0xD800] "python"] =
        none ∧
      ¬∃ target, Target.resolve scaffoldTree
        (Document.parse (Template.render [CodePoint.ofNat 0xD800] "python"))
        (Path.ofText "/w/docs/a.gpt") "python" = .ok target := by
  refine ⟨by decide +kernel, by decide +kernel, by decide +kernel, ?_⟩
  rintro ⟨target, htarget⟩
  have hrefused : (Target.resolve scaffoldTree
      (Document.parse (Template.render [CodePoint.ofNat 0xD800] "python"))
      (Path.ofText "/w/docs/a.gpt") "python").toOption = none := by
    decide +kernel
  rw [htarget] at hrefused
  cases hrefused

end ProseCompiler
