import Mathlib.Data.List.Induction
import Mathlib.Data.List.TakeWhile
import ProseCompiler.Document.Header
import ProseCompiler.Proofs.Keyed
import ProseCompiler.Proofs.Text.Pieces

/-!
# What a header says, and where it ends

The header of a text is described here without the way in which it is read.

* `headerLines` are the lines from the first one on that start with an at sign.  A setting
  has the value that the last of these lines gives it, and nothing else of a text makes a
  setting: `settings_tell_last_lines`.
* `HasHeader` says of a text that such lines, one of which sets something, and a blank line
  stand before the rest of it.  Just then the instructions are that rest, and otherwise they
  are the whole text: `instructions_stand_behind_header`.
-/

namespace ProseCompiler

/-- The value that was put last counts, and other keys keep theirs. -/
theorem Settings.get?_put (settings : Settings) (key value other : Text) :
    (settings.put key value).get? other =
      if other = key then some value else settings.get? other := by
  rw [get?, get?, ← lookup_put settings key other value, put]

theorem Settings.put_ne_nil (settings : Settings) (key value : Text) :
    settings.put key value ≠ [] := by
  cases settings with
  | nil => simp [put]
  | cons setting settings =>
    rw [put]
    split <;> simp

/-- A key is there if it has a value. -/
theorem Settings.mem_keys_iff {settings : Settings} {key : Text} :
    key ∈ settings.map Prod.fst ↔ ∃ value, settings.get? key = some value := by
  rw [← Option.isSome_iff_exists, get?, List.lookup_isSome_iff, List.mem_map]
  simp only [beq_iff_eq, @eq_comm _ key]

namespace Document

variable {settings : Settings} {line key rest value raw blank body : Text}
  {header lines more : List Text}

/-! ## Lines -/

/-- A line that can belong to a header: blanks around it aside, it starts with an at sign. -/
def IsMarked (line : Text) : Prop := (Text.trim line).head? = some ('@' : CodePoint)

instance (line : Text) : Decidable (IsMarked line) :=
  inferInstanceAs (Decidable ((Text.trim line).head? = some ('@' : CodePoint)))

/-- Blanks around it aside, a line is an at sign, a key, a colon and something more. -/
structure Sets (line key rest : Text) : Prop where
  key_ne_nil : key ≠ []
  key_word : ∀ c ∈ key, c.isWordPart = true
  trim_eq : Text.trim line = ('@' : CodePoint) :: (key ++ (':' : CodePoint) :: rest)

theorem Sets.rest_eq {rest' : Text} (h : Sets line key rest) (h' : Sets line key rest') :
    rest = rest' := by
  have hsame := h.trim_eq.symm.trans h'.trim_eq
  exact (List.cons.inj (List.append_cancel_left (List.cons.inj hsame).2)).2

theorem IsMarked.exists_trim (h : IsMarked line) :
    ∃ t, Text.trim line = ('@' : CodePoint) :: t := by
  obtain ⟨t, ht⟩ := List.head?_eq_some_iff.mp h
  exact ⟨t, ht⟩

theorem not_isMarked_of_blank (h : Text.trim line = []) : ¬IsMarked line := by
  rw [IsMarked, h]
  nofun

/-- No colon belongs to a key, so it is known where the key ends. -/
theorem setting?_eq_some_iff {t : Text} :
    setting? t = some (key, value) ↔
      key ≠ [] ∧ (∀ c ∈ key, c.isWordPart = true) ∧
        ∃ rest, t = key ++ (':' : CodePoint) :: rest ∧ value = Text.trim rest := by
  constructor
  · intro h
    have hsplit : t.takeWhile CodePoint.isWordPart ++
        t.drop (t.takeWhile CodePoint.isWordPart).length = t :=
      List.prefix_iff_eq_append.mp (List.takeWhile_prefix _)
    rw [setting?] at h
    split at h
    · next c rest hdrop =>
      split at h
      · next hcolon =>
        obtain ⟨rfl, hkey⟩ := hcolon
        cases h
        rw [hdrop] at hsplit
        exact ⟨hkey, fun c hc => List.mem_takeWhile_imp hc, rest, hsplit.symm, rfl⟩
      · cases h
    · cases h
  · rintro ⟨hkey, hword, rest, rfl, rfl⟩
    have hstop : (key ++ (':' : CodePoint) :: rest).takeWhile CodePoint.isWordPart = key := by
      rw [List.takeWhile_append_of_pos hword, List.takeWhile_cons_of_neg (by decide),
        List.append_nil]
    rw [setting?, hstop]
    simp only [List.drop_left, true_and]
    exact if_pos hkey

theorem classify_eq_setting_iff :
    classify line = .setting key value ↔ ∃ rest, Sets line key rest ∧ value = Text.trim rest := by
  constructor
  · intro h
    rw [classify] at h
    split at h
    · cases h
    · next c t htrim =>
      split at h
      · next hc =>
        subst hc
        split at h
        · next hsetting =>
          cases h
          obtain ⟨hkey, hword, rest, rfl, rfl⟩ := setting?_eq_some_iff.mp hsetting
          exact ⟨rest, ⟨hkey, hword, htrim⟩, rfl⟩
        · cases h
      · cases h
  · rintro ⟨rest, ⟨hkey, hword, htrim⟩, rfl⟩
    rw [classify, htrim]
    simp only [if_true, setting?_eq_some_iff.mpr ⟨hkey, hword, rest, rfl, rfl⟩]

theorem classify_of_unset (hmarked : IsMarked line) (hunset : ∀ key rest, ¬Sets line key rest) :
    classify line = .malformed := by
  obtain ⟨t, htrim⟩ := hmarked.exists_trim
  cases hsetting : setting? t with
  | some found =>
    obtain ⟨hkey, hword, rest, rfl, -⟩ := setting?_eq_some_iff.mp hsetting
    exact absurd ⟨hkey, hword, htrim⟩ (hunset found.1 rest)
  | none =>
    rw [classify, htrim]
    simp only [if_true, hsetting]

theorem classify_of_blank (h : Text.trim line = []) : classify line = .blank := by
  rw [classify, h]

theorem classify_of_prose (hmarked : ¬IsMarked line) (hblank : Text.trim line ≠ []) :
    classify line = .prose := by
  obtain ⟨c, t, htrim⟩ := List.exists_cons_of_ne_nil hblank
  have hc : c ≠ ('@' : CodePoint) := by
    rintro rfl
    exact hmarked (by rw [IsMarked, htrim]; rfl)
  rw [classify, htrim]
  exact if_neg hc

/-! ## What lines set -/

/-- The settings with what a line sets, if it sets anything. -/
def adding (settings : Settings) (line : Text) : Settings :=
  match classify line with
  | .setting key value => settings.put key value
  | _ => settings

theorem adding_of_sets (h : Sets line key rest) :
    adding settings line = settings.put key (Text.trim rest) := by
  rw [adding, classify_eq_setting_iff.mpr ⟨rest, h, rfl⟩]

theorem adding_of_unset (h : ∀ key rest, ¬Sets line key rest) :
    adding settings line = settings := by
  rw [adding]
  split
  · next key value hsetting =>
    obtain ⟨rest, hsets, -⟩ := classify_eq_setting_iff.mp hsetting
    exact absurd hsets (h key rest)
  · rfl

theorem get?_adding_of_sets (h : Sets line key rest) :
    (adding settings line).get? key = some (Text.trim rest) := by
  rw [adding_of_sets h, Settings.get?_put, if_pos rfl]

/-- A line that does not set a key leaves it alone, whatever else the line sets. -/
theorem get?_adding_of_not_sets (h : ∀ rest, ¬Sets line key rest) :
    (adding settings line).get? key = settings.get? key := by
  by_cases hother : ∃ other rest, Sets line other rest
  · obtain ⟨other, rest, hsets⟩ := hother
    have hne : key ≠ other := by
      rintro rfl
      exact h rest hsets
    rw [adding_of_sets hsets, Settings.get?_put, if_neg hne]
  · rw [adding_of_unset fun other rest hsets => hother ⟨other, rest, hsets⟩]

/-- The last of some lines that sets a key sets it to a value. -/
def LastSets (lines : List Text) (key value : Text) : Prop :=
  ∃ before line after rest, lines = before ++ line :: after ∧ Sets line key rest ∧
    value = Text.trim rest ∧ ∀ later ∈ after, ∀ rest, ¬Sets later key rest

theorem not_lastSets_nil : ¬LastSets [] key value := by
  rintro ⟨before, line, after, rest, hlines, -⟩
  simp at hlines

/-- A line that sets a key behind other lines decides its value. -/
theorem lastSets_concat_of_sets (h : Sets line key rest) :
    LastSets (lines ++ [line]) key value ↔ value = Text.trim rest := by
  constructor
  · rintro ⟨before, other, after, rest', hlines, hsets, rfl, hlast⟩
    rcases List.eq_nil_or_concat' after with rfl | ⟨after, last, rfl⟩
    · obtain ⟨-, hother⟩ := List.append_inj' hlines rfl
      cases hother
      rw [hsets.rest_eq h]
    · have hlines' : lines ++ [line] = (before ++ other :: after) ++ [last] := by
        rw [hlines, List.append_assoc, List.cons_append]
      obtain ⟨-, hline⟩ := List.append_inj' hlines' rfl
      cases hline
      exact absurd h (hlast line List.mem_concat_self rest)
  · rintro rfl
    exact ⟨lines, line, [], rest, rfl, h, rfl, nofun⟩

/-- A line that does not set a key does not change which line is the last to set it. -/
theorem lastSets_concat_of_not_sets (h : ∀ rest, ¬Sets line key rest) :
    LastSets (lines ++ [line]) key value ↔ LastSets lines key value := by
  constructor
  · rintro ⟨before, other, after, rest, hlines, hsets, hvalue, hlast⟩
    rcases List.eq_nil_or_concat' after with rfl | ⟨after, last, rfl⟩
    · obtain ⟨-, hother⟩ := List.append_inj' hlines rfl
      cases hother
      exact absurd hsets (h rest)
    · have hlines' : lines ++ [line] = (before ++ other :: after) ++ [last] := by
        rw [hlines, List.append_assoc, List.cons_append]
      obtain ⟨rfl, -⟩ := List.append_inj' hlines' rfl
      exact ⟨before, other, after, rest, rfl, hsets, hvalue,
        fun later hlater => hlast later (List.mem_append_left _ hlater)⟩
  · rintro ⟨before, other, after, rest, rfl, hsets, hvalue, hlast⟩
    refine ⟨before, other, after ++ [line], rest, by simp, hsets, hvalue, fun later hlater => ?_⟩
    rcases List.mem_append.mp hlater with hlater | hlater
    · exact hlast later hlater
    · rw [List.mem_singleton.mp hlater]
      exact h

/-- A key has the value that the last line that sets it gives it. -/
theorem get?_foldl_adding (lines : List Text) (key value : Text) :
    (lines.foldl adding []).get? key = some value ↔ LastSets lines key value := by
  induction lines using List.reverseRecOn with
  | nil => exact iff_of_false nofun not_lastSets_nil
  | append_singleton lines line ih =>
    rw [List.foldl_append, List.foldl_cons, List.foldl_nil]
    by_cases hsets : ∃ rest, Sets line key rest
    · obtain ⟨rest, hsets⟩ := hsets
      rw [get?_adding_of_sets hsets, lastSets_concat_of_sets hsets, Option.some.injEq, eq_comm]
    · have hnot : ∀ rest, ¬Sets line key rest := fun rest h => hsets ⟨rest, h⟩
      rw [get?_adding_of_not_sets hnot, lastSets_concat_of_not_sets hnot, ih]

/-- If any line sets a key, there is a last one. -/
theorem exists_lastSets_iff :
    (∃ value, LastSets lines key value) ↔ ∃ line ∈ lines, ∃ rest, Sets line key rest := by
  constructor
  · rintro ⟨value, before, line, after, rest, rfl, hsets, -⟩
    exact ⟨line, List.mem_append_right _ List.mem_cons_self, rest, hsets⟩
  · rintro ⟨line, hline, rest, hsets⟩
    induction lines using List.reverseRecOn with
    | nil => cases hline
    | append_singleton lines last ih =>
      by_cases hlast : ∃ rest, Sets last key rest
      · obtain ⟨rest', hlast⟩ := hlast
        exact ⟨Text.trim rest', (lastSets_concat_of_sets hlast).mpr rfl⟩
      · have hnot : ∀ rest, ¬Sets last key rest := fun rest h => hlast ⟨rest, h⟩
        rcases List.mem_append.mp hline with hline | hline
        · obtain ⟨value, hvalue⟩ := ih hline
          exact ⟨value, (lastSets_concat_of_not_sets hnot).mpr hvalue⟩
        · rw [List.mem_singleton.mp hline] at hsets
          exact absurd hsets (hnot rest)

theorem foldl_adding_ne_nil (hsettings : settings ≠ []) (lines : List Text) :
    lines.foldl adding settings ≠ [] := by
  induction lines generalizing settings with
  | nil => exact hsettings
  | cons line lines ih =>
    refine ih ?_
    rw [adding]
    split
    · exact settings.put_ne_nil _ _
    · exact hsettings

/-- Lines make a setting if one of them sets something. -/
theorem foldl_adding_eq_nil_iff :
    lines.foldl adding [] = [] ↔ ∀ line ∈ lines, ∀ key rest, ¬Sets line key rest := by
  induction lines with
  | nil => simp
  | cons line lines ih =>
    rw [List.foldl_cons, List.forall_mem_cons]
    by_cases hsets : ∃ key rest, Sets line key rest
    · obtain ⟨key, rest, hsets⟩ := hsets
      rw [adding_of_sets hsets]
      exact iff_of_false (foldl_adding_ne_nil (Settings.put_ne_nil [] key _) lines)
        fun h => h.1 key rest hsets
    · have hunset : ∀ key rest, ¬Sets line key rest := fun key rest h => hsets ⟨key, rest, h⟩
      rw [adding_of_unset hunset, ih, and_iff_right hunset]

theorem nodup_keys_foldl_adding (hsettings : (settings.map Prod.fst).Nodup) (lines : List Text) :
    ((lines.foldl adding settings).map Prod.fst).Nodup := by
  induction lines generalizing settings with
  | nil => exact hsettings
  | cons line lines ih =>
    refine ih ?_
    rw [adding]
    split
    · rw [Settings.put]
      exact nodup_keys_put _ _ hsettings
    · exact hsettings

/-! ## How far a header is read -/

theorem headerFrom_of_marked (h : IsMarked line) (settings : Settings) (more : List Text) :
    headerFrom settings (line :: more) = headerFrom (adding settings line) more := by
  by_cases hsets : ∃ key rest, Sets line key rest
  · obtain ⟨key, rest, hsets⟩ := hsets
    rw [headerFrom, classify_eq_setting_iff.mpr ⟨rest, hsets, rfl⟩, adding_of_sets hsets]
  · have hunset : ∀ key rest, ¬Sets line key rest := fun key rest h => hsets ⟨key, rest, h⟩
    rw [headerFrom, classify_of_unset h hunset, adding_of_unset hunset]

/-- All lines that start with an at sign are read, whether they set something or not. -/
theorem headerFrom_append (h : ∀ line ∈ header, IsMarked line) (settings : Settings)
    (more : List Text) :
    headerFrom settings (header ++ more) = headerFrom (header.foldl adding settings) more := by
  induction header generalizing settings with
  | nil => rfl
  | cons line header ih =>
    rw [List.cons_append, headerFrom_of_marked (h line List.mem_cons_self),
      ih fun other hother => h other (List.mem_cons_of_mem line hother)]
    rfl

/-- Reading stops at another line, which ends the header if it is blank and something was
set. -/
theorem headerFrom_of_not_marked (h : ¬IsMarked line) (settings : Settings) (more : List Text) :
    headerFrom settings (line :: more) =
      (settings, if Text.trim line = [] ∧ settings ≠ [] then some more else none) := by
  by_cases hblank : Text.trim line = []
  · rw [headerFrom, classify_of_blank hblank]
    cases settings <;> simp [hblank]
  · rw [headerFrom, classify_of_prose h hblank]
    simp [hblank]

/-- The lines of a text from the first one on that start with an at sign. -/
def headerLines (raw : Text) : List Text :=
  (Text.lines raw).takeWhile fun line => decide (IsMarked line)

/-- The lines behind them. -/
def otherLines (raw : Text) : List Text :=
  (Text.lines raw).dropWhile fun line => decide (IsMarked line)

theorem isMarked_of_mem_headerLines (h : line ∈ headerLines raw) : IsMarked line := by
  simpa using List.mem_takeWhile_imp h

theorem lines_eq (raw : Text) : Text.lines raw = headerLines raw ++ otherLines raw :=
  List.takeWhile_append_dropWhile.symm

theorem not_isMarked_of_otherLines (h : otherLines raw = line :: more) : ¬IsMarked line := by
  have hhead := List.head?_dropWhile_not (fun line => decide (IsMarked line)) (Text.lines raw)
  rw [← otherLines, h] at hhead
  simpa using hhead

/-- Lines that start with an at sign, in front of one that does not, are the header lines. -/
theorem headerLines_eq (hheader : ∀ line ∈ header, IsMarked line) (hline : ¬IsMarked line)
    (hlines : Text.lines raw = header ++ line :: more) : headerLines raw = header := by
  rw [headerLines, hlines, List.takeWhile_append_of_pos (by simpa using hheader),
    List.takeWhile_cons_of_neg (by simpa using hline), List.append_nil]

/-- The header lines alone make the settings. -/
theorem parse_settings (raw : Text) :
    (parse raw).settings = (headerLines raw).foldl adding [] := by
  have hread : (headerFrom [] (Text.lines raw)).1 = (headerLines raw).foldl adding [] := by
    rw [lines_eq, headerFrom_append fun line => isMarked_of_mem_headerLines]
    cases hother : otherLines raw with
    | nil => rfl
    | cons line more => rw [headerFrom_of_not_marked (not_isMarked_of_otherLines hother)]
  exact hread

/-- What the settings of a document are: a key has the value that the last header line that
sets it gives it, and no key comes twice.  Whatever follows the header lines of a text, its
settings are the same. -/
theorem settings_tell_last_lines (raw : Text) :
    (∀ key value, (parse raw).settings.get? key = some value ↔
      ∃ before line after rest, headerLines raw = before ++ line :: after ∧
        Sets line key rest ∧ value = Text.trim rest ∧
        ∀ later ∈ after, ∀ rest, ¬Sets later key rest) ∧
      (∀ key, key ∈ (parse raw).settings.map Prod.fst ↔
        ∃ line ∈ headerLines raw, ∃ rest, Sets line key rest) ∧
      ((parse raw).settings.map Prod.fst).Nodup ∧
      ∀ other, headerLines other = headerLines raw →
        (parse other).settings = (parse raw).settings := by
  rw [parse_settings]
  refine ⟨fun key value => get?_foldl_adding _ key value, fun key => ?_,
    @nodup_keys_foldl_adding [] List.nodup_nil _, fun other hsame => ?_⟩
  · rw [Settings.mem_keys_iff]
    simp only [get?_foldl_adding, exists_lastSets_iff]
  · rw [parse_settings, hsame]

/-! ## Where a header ends -/

/-- Lines with the line feed that ends each. -/
def ended (lines : List Text) : Text := lines.flatMap (· ++ [Text.newline])

/-- A text starts with lines that start with an at sign, one of which sets something, and a
blank line, behind which stands `body`.  The text may end with the blank line. -/
structure HasHeader (raw : Text) (header : List Text) (blank body : Text) : Prop where
  isMarked : ∀ line ∈ header, IsMarked line
  sets : ∃ line ∈ header, ∃ key rest, Sets line key rest
  isBlank : Text.trim blank = []
  isLine : ∀ line ∈ header ++ [blank], Text.newline ∉ line
  text : raw = ended header ++ blank ++ Text.newline :: body ∨
    raw = ended header ++ blank ∧ body = []

theorem lines_ended_append (h : ∀ line ∈ header, Text.newline ∉ line) (t : Text) :
    Text.lines (ended header ++ t) = header ++ Text.lines t := by
  induction header with
  | nil => rfl
  | cons line header ih =>
    have hsplit : ended (line :: header) ++ t = line ++ Text.newline :: (ended header ++ t) := by
      simp [ended]
    rw [hsplit, Text.lines, Text.splitOn_append_cons_self (h line List.mem_cons_self),
      ← Text.lines, ih fun other hother => h other (List.mem_cons_of_mem line hother)]
    rfl

theorem unlines_append_cons (header : List Text) (line : Text) (more : List Text) :
    Text.unlines (header ++ line :: more) = ended header ++ Text.unlines (line :: more) := by
  induction header with
  | nil => rfl
  | cons first header ih =>
    obtain ⟨next, others, hnext⟩ := List.exists_cons_of_ne_nil
      (List.append_ne_nil_of_right_ne_nil header (List.cons_ne_nil line more))
    have hended : ended (first :: header) = first ++ [Text.newline] ++ ended header := by
      simp [ended]
    rw [hended, List.append_assoc, ← ih, hnext, List.cons_append, hnext, Text.unlines,
      Text.joinWith_cons_cons, ← Text.unlines]

/-- The lines of a text that has a header. -/
theorem HasHeader.exists_lines (h : HasHeader raw header blank body) :
    ∃ more, Text.lines raw = header ++ blank :: more ∧ body = Text.unlines more := by
  have hheader : ∀ line ∈ header, Text.newline ∉ line := fun line hline =>
    h.isLine line (List.mem_append_left _ hline)
  have hblank : Text.newline ∉ blank := h.isLine blank List.mem_concat_self
  rcases h.text with hraw | ⟨hraw, hbody⟩
  · refine ⟨Text.lines body, ?_, (Text.joinWith_splitOn Text.newline body).symm⟩
    rw [hraw, List.append_assoc, lines_ended_append hheader, Text.lines,
      Text.splitOn_append_cons_self hblank, ← Text.lines]
  · refine ⟨[], ?_, hbody⟩
    rw [hraw, lines_ended_append hheader, Text.lines, Text.splitOn_of_not_mem hblank]

/-- A text has a header if its lines are such. -/
theorem hasHeader_of_lines (hmarked : ∀ line ∈ header, IsMarked line)
    (hsets : ∃ line ∈ header, ∃ key rest, Sets line key rest) (hblank : Text.trim blank = [])
    (hlines : Text.lines raw = header ++ blank :: more) :
    HasHeader raw header blank (Text.unlines more) := by
  refine ⟨hmarked, hsets, hblank, fun line hline => ?_, ?_⟩
  · have hmem : line ∈ Text.lines raw := by
      rw [hlines]
      rcases List.mem_append.mp hline with hline | hline
      · exact List.mem_append_left _ hline
      · rw [List.mem_singleton.mp hline]
        exact List.mem_append_right _ List.mem_cons_self
    exact Text.not_mem_of_mem_splitOn hmem
  · have hraw : raw = ended header ++ Text.unlines (blank :: more) := by
      rw [← unlines_append_cons, ← hlines]
      exact (Text.joinWith_splitOn Text.newline raw).symm
    cases more with
    | nil => exact .inr ⟨hraw, rfl⟩
    | cons next more =>
      left
      rw [hraw, Text.unlines, Text.joinWith_cons_cons, ← Text.unlines]
      simp

/-- The instructions of a text with a header are what stands behind it. -/
theorem HasHeader.instructions (h : HasHeader raw header blank body) :
    (parse raw).instructions = body := by
  obtain ⟨more, hlines, rfl⟩ := h.exists_lines
  have hne : header.foldl adding [] ≠ [] := by
    intro hnil
    obtain ⟨line, hline, key, rest, hsets⟩ := h.sets
    exact foldl_adding_eq_nil_iff.mp hnil line hline key rest hsets
  have hread : (headerFrom [] (Text.lines raw)).2 = some more := by
    rw [hlines, headerFrom_append h.isMarked,
      headerFrom_of_not_marked (not_isMarked_of_blank h.isBlank), if_pos ⟨h.isBlank, hne⟩]
  rw [parse]
  simp only [hread, Option.map_some, Option.getD_some]

/-- Without a header the whole text is the instructions. -/
theorem instructions_of_no_header (h : ¬∃ header blank body, HasHeader raw header blank body) :
    (parse raw).instructions = raw := by
  have hread : (headerFrom [] (Text.lines raw)).2 = none := by
    rw [lines_eq, headerFrom_append fun line => isMarked_of_mem_headerLines]
    cases hother : otherLines raw with
    | nil => rfl
    | cons line more =>
      rw [headerFrom_of_not_marked (not_isMarked_of_otherLines hother)]
      refine if_neg fun ⟨hblank, hne⟩ => h ⟨headerLines raw, line, Text.unlines more, ?_⟩
      have hsets : ∃ line ∈ headerLines raw, ∃ key rest, Sets line key rest := by
        by_contra hnone
        exact hne (foldl_adding_eq_nil_iff.mpr fun line hline key rest hsets =>
          hnone ⟨line, hline, key, rest, hsets⟩)
      exact hasHeader_of_lines (fun line => isMarked_of_mem_headerLines) hsets hblank
        (hother ▸ lines_eq raw)
  rw [parse]
  simp only [hread, Option.map_none, Option.getD_none]

/-- A text has no header if no header line sets anything, if nothing follows the header lines,
or if what follows them is not blank. -/
theorem no_header_iff (raw : Text) :
    (¬∃ header blank body, HasHeader raw header blank body) ↔
      (∀ line ∈ headerLines raw, ∀ key rest, ¬Sets line key rest) ∨
        Text.lines raw = headerLines raw ∨
        ∃ line more, Text.lines raw = headerLines raw ++ line :: more ∧ ¬IsMarked line ∧
          Text.trim line ≠ [] := by
  constructor
  · intro hnone
    by_contra hother
    simp only [not_or, not_exists, not_and] at hother
    obtain ⟨hsets, hfollowed, hblank⟩ := hother
    cases hlines : otherLines raw with
    | nil => exact hfollowed (by rw [lines_eq, hlines, List.append_nil])
    | cons line more =>
      have heq : Text.lines raw = headerLines raw ++ line :: more := hlines ▸ lines_eq raw
      refine hnone ⟨headerLines raw, line, Text.unlines more, hasHeader_of_lines
        (fun line => isMarked_of_mem_headerLines) ?_
        (not_not.mp (hblank line more heq (not_isMarked_of_otherLines hlines))) heq⟩
      by_contra hunset
      exact hsets fun line hline key rest hset => hunset ⟨line, hline, key, rest, hset⟩
  · rintro hcases ⟨header, blank, body, h⟩
    obtain ⟨more, hlines, -⟩ := h.exists_lines
    have heq := headerLines_eq h.isMarked (not_isMarked_of_blank h.isBlank) hlines
    rw [heq, hlines] at hcases
    rcases hcases with hunset | hended | ⟨line, more', hfollows, -, hprose⟩
    · obtain ⟨line, hline, key, rest, hsets⟩ := h.sets
      exact hunset line hline key rest hsets
    · simp at hended
    · cases List.append_cancel_left hfollows
      exact hprose h.isBlank

/-- The instructions of a text stand behind its header if it has one, and are the whole text
otherwise: if no header line sets anything, if nothing follows the header lines, or if what
follows them is not blank.  What is left out are lines that start with an at sign and one
blank line. -/
theorem instructions_stand_behind_header (raw : Text) :
    (parse raw).raw = raw ∧
      (∀ body, (parse raw).instructions = body ↔
        (∃ header blank, HasHeader raw header blank body) ∨
          (¬∃ header blank body, HasHeader raw header blank body) ∧ body = raw) ∧
      ((¬∃ header blank body, HasHeader raw header blank body) ↔
        (∀ line ∈ headerLines raw, ∀ key rest, ¬Sets line key rest) ∨
          Text.lines raw = headerLines raw ∨
          ∃ line more, Text.lines raw = headerLines raw ++ line :: more ∧ ¬IsMarked line ∧
            Text.trim line ≠ []) ∧
      ∃ cut, raw = cut ++ (parse raw).instructions ∧
        (cut = [] ∨ ∃ header blank, (∀ line ∈ header, IsMarked line ∧ Text.newline ∉ line) ∧
          Text.trim blank = [] ∧ Text.newline ∉ blank ∧
          (cut = ended (header ++ [blank]) ∨ cut = ended header ++ blank)) := by
  refine ⟨rfl, fun body => ?_, no_header_iff raw, ?_⟩
  · by_cases hheader : ∃ header blank body, HasHeader raw header blank body
    · simp only [hheader, not_true_eq_false, false_and, or_false]
      obtain ⟨header, blank, body', h⟩ := hheader
      constructor
      · rintro rfl
        rw [h.instructions]
        exact ⟨header, blank, h⟩
      · rintro ⟨header, blank, h⟩
        exact h.instructions
    · simp only [instructions_of_no_header hheader, hheader, not_false_eq_true, true_and]
      refine ⟨fun h => .inr h.symm, fun h => ?_⟩
      rcases h with ⟨header, blank, h⟩ | h
      · exact absurd ⟨header, blank, body, h⟩ hheader
      · exact h.symm
  · by_cases hheader : ∃ header blank body, HasHeader raw header blank body
    · obtain ⟨header, blank, body, h⟩ := hheader
      have hplain : ∀ line ∈ header, IsMarked line ∧ Text.newline ∉ line := fun line hline =>
        ⟨h.isMarked line hline, h.isLine line (List.mem_append_left _ hline)⟩
      have hblank := h.isLine blank List.mem_concat_self
      rw [h.instructions]
      rcases h.text with hraw | ⟨hraw, rfl⟩
      · refine ⟨ended (header ++ [blank]), ?_, .inr ⟨header, blank, hplain, h.isBlank, hblank,
          .inl rfl⟩⟩
        simpa [ended] using hraw
      · exact ⟨ended header ++ blank, by rw [List.append_nil, ← hraw],
          .inr ⟨header, blank, hplain, h.isBlank, hblank, .inr rfl⟩⟩
    · exact ⟨[], (instructions_of_no_header hheader).symm, .inl rfl⟩

/-- A line that sets nothing does not end a header, and the last value of a key counts. -/
example : parse "@to: a\n@nothing\r\n  @to : b\n@to: c \n\t\nprose" =
    { raw := "@to: a\n@nothing\r\n  @to : b\n@to: c \n\t\nprose"
      settings := [("to", "c")]
      instructions := "prose" } := by
  decide +kernel

end Document

end ProseCompiler
