import ProseCompiler.Document.Target
import ProseCompiler.Proofs.Files.Path

/-!
# Output files

The output file of a document is a clean location, whatever the header asks for:
a resolved path is one, and the extension of a language makes a name out of any
stem.
-/

namespace ProseCompiler

/-! ## Resolved paths -/

namespace Tree

variable {t : Tree} {place : Location}

theorem realPlace_isClean {text : Text} (hworking : t.workingDirectory.IsClean)
    (h : t.realPlace text = .ok place) : place.IsClean := by
  rw [realPlace] at h
  split at h
  · cases h
  · cases h
    exact Location.ofText_isClean hworking _
  · cases h
    exact Location.ofText_isClean hworking _

/-- What a path resolves to is the real place of its text. -/
theorem realPlace_of_resolve {path : Path} (h : t.resolve path = .ok place) :
    t.realPlace path.text = .ok place := by
  rw [resolve] at h
  split at h
  · cases h
  · next real hreal =>
    rw [hreal]
    split at h
    · cases h
    · exact h
    · exact h
    · cases h

/-- A path resolves to a clean location. -/
theorem resolve_isClean {path : Path} (hworking : t.workingDirectory.IsClean)
    (h : t.resolve path = .ok place) : place.IsClean :=
  realPlace_isClean hworking (realPlace_of_resolve h)

end Tree

/-! ## Extensions -/

theorem Language.mem_extensions_or_plain (language : Text) :
    extension language ∈ plainExtension :: extensions.map Prod.snd := by
  rw [extension]
  cases hlookup : extensions.lookup (normal language) with
  | none => exact List.mem_cons_self
  | some found =>
    obtain ⟨before, after, heq, -⟩ := List.lookup_eq_some_iff.mp hlookup
    refine List.mem_cons_of_mem _ (List.mem_map.mpr ⟨(normal language, found), ?_, rfl⟩)
    rw [heq]
    exact List.mem_append_right _ List.mem_cons_self

/-- An extension is not empty and holds neither a dot nor a slash. -/
theorem Language.extension_plain (language : Text) :
    extension language ≠ [] ∧ ('.' : CodePoint) ∉ extension language ∧
      ('/' : CodePoint) ∉ extension language := by
  have hall : ∀ name ∈ plainExtension :: extensions.map Prod.snd,
      name ≠ [] ∧ ('.' : CodePoint) ∉ name ∧ ('/' : CodePoint) ∉ name := by
    decide
  exact hall _ (mem_extensions_or_plain language)

/-- Whatever stands before the dot of an extension, the whole is a name. -/
theorem Path.isName_extension {stem : Text} (hstem : ('/' : CodePoint) ∉ stem)
    (language : Text) : Path.IsName (stem ++ ("." ++ Language.extension language)) := by
  obtain ⟨hne, hdot, hslash⟩ := Language.extension_plain language
  obtain ⟨c, rest, hextension⟩ := List.exists_cons_of_ne_nil hne
  have hc : c ≠ ('.' : CodePoint) := fun h => hdot (by rw [hextension, h]; exact List.mem_cons_self)
  have hmem : c ∈ stem ++ ("." ++ Language.extension language) := by
    simp [hextension]
  have hdots : ∀ dots : Text, (∀ d ∈ dots, d = ('.' : CodePoint)) →
      stem ++ ("." ++ Language.extension language) ≠ dots := by
    rintro dots hall rfl
    exact hc (hall c hmem)
  refine ⟨hdots [] (by simp), hdots _ (by decide), hdots _ (by decide), ?_⟩
  rw [List.mem_append, List.mem_append, not_or, not_or]
  exact ⟨hstem, by decide, hslash⟩

/-- The last name of a clean location holds no slash. -/
theorem Location.IsClean.slash_not_mem_name {l : Location} (hclean : l.IsClean) :
    ('/' : CodePoint) ∉ (Path.ofLocation l).name := by
  rw [Path.name, Path.ofLocation]
  cases hlast : l.getLast? with
  | none => simp
  | some name => exact (hclean name (List.mem_of_getLast? hlast)).2.2.2

namespace Target

variable {tree : Tree} {document : Document} {language : Text} {output : Location}

/-- The output file stands at a clean location. -/
theorem outputOf_isClean {place : Location} (hworking : tree.workingDirectory.IsClean)
    (hplace : place.IsClean) (h : outputOf tree document place language = .ok output) :
    output.IsClean := by
  rw [outputOf] at h
  split at h
  · exact Tree.resolve_isClean hworking h
  · rw [Path.withSuffix] at h
    split at h
    · cases h
    · cases h
      have hstem : ('/' : CodePoint) ∉ Path.stemOf (Path.ofLocation place).name :=
        fun hmem => hplace.slash_not_mem_name (List.mem_of_mem_take hmem)
      exact hplace.parent.concat (Path.isName_extension hstem language)

theorem resolve_isClean {path : Path} {defaultLanguage : Text} {target : Target}
    (hworking : tree.workingDirectory.IsClean)
    (h : resolve tree document path defaultLanguage = .ok target) : target.output.IsClean := by
  rw [resolve] at h
  cases hplace : tree.resolve path with
  | error fault =>
    rw [hplace] at h
    cases h
  | ok place =>
    rw [hplace] at h
    simp only at h
    split at h
    · cases h
    · next houtput =>
      cases h
      exact outputOf_isClean hworking (Tree.resolve_isClean hworking hplace) houtput

end Target

end ProseCompiler
