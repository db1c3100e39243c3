import ProseCompiler.Proofs.Files.Relative
import ProseCompiler.Proofs.Watch.Scanning

/-!
# From notifications to documents

The file system tells of a path from the root of the tree, and the watcher is told the way from
its own root to there (`event?_of_notification`).  Whether the event is taken is told by the last
name alone (`endsWith_relativeTo_iff`), and the document that it is taken for is what the path of
the notification resolves to (`resolve_join_relativeTo`).  So no notification of a document is
lost, none is taken for another document, and no other notification does anything
(`notifications_reach_documents`).
-/

namespace ProseCompiler.Watcher

variable {setup : Setup} {tree : Tree} {w : Watcher} {root document workingDirectory : Location}
  {path : Path} {kind text : Text} {n : Notification}

/-! ## Events -/

/-- An event that is taken dispatches its document. -/
theorem handleEvent_of_accepts (hroot : w.root = some root)
    (haccepts : w.accepts setup kind text = true)
    (hdocument : documentAt tree root text = .ok document) :
    w.handleEvent setup tree kind text =
      .ok (((w.dispatch document).1.1,
        [entry .info ("File " ++ kind ++ ": " ++ Location.text document),
          .accepted document (w.standing document)] ++ (w.dispatch document).1.2),
        (w.dispatch document).2) := by
  rw [handleEvent, if_pos haccepts, hroot, Option.getD_some, hdocument]

theorem handleEvent_of_not_accepts (hrefuses : ¬w.accepts setup kind text = true) :
    w.handleEvent setup tree kind text = .ok ((w, []), none) := by
  rw [handleEvent, if_neg hrefuses]

/-! ## Notifications -/

/-- The event of an addition or of a change. -/
def kindOf : Occurrence → Text
  | .created => added
  | _ => changed

/-- Directories, and what is neither an addition nor a change, make no event. -/
theorem event?_eq_none (h : n.occurrence = .other ∨ n.isDirectory = true)
    (workingDirectory root : Location) : n.event? workingDirectory root = .ok none := by
  rw [Notification.event?]
  rcases h with hother | hdirectory
  · rw [hother]
  · cases n.occurrence <;> simp [hdirectory]

/-- Any other notification of a path from the root of the tree makes an event, at the path
from the watched root to there. -/
theorem event?_of_notification (hpath : n.path.decoded = path.text)
    (habsolute : path.anchor ≠ .relative) (hclean : Location.IsClean path.parts)
    (hne : path.parts ≠ []) (hoccurrence : n.occurrence ≠ .other) (hfile : n.isDirectory = false) :
    n.event? workingDirectory root =
      .ok (some (kindOf n.occurrence, Location.relativeTo root path.parts)) := by
  have hplace : Location.ofText workingDirectory n.path.decoded = path.parts := by
    rw [hpath, Tree.ofText_text_of_isAbsolute habsolute hclean hne]
  have hspelled : n.path.decoded ≠ [] := by
    obtain ⟨start, -, htext⟩ := Tree.text_of_isAbsolute habsolute
    have htext' : path.text = start ++ ('/' : CodePoint) :: Text.joinWith "/" path.parts :=
      htext path.parts
    simp [hpath, htext']
  rw [Notification.event?]
  cases hkind : n.occurrence with
  | created | modified => simp [hfile, hspelled, hplace, kindOf]
  | other => exact absurd hkind hoccurrence

/-! ## Extensions -/

/-- The text of a path below a directory ends with its last name. -/
theorem name_suffix_text (above : List Text) (name : Text) :
    name <:+ Path.text ⟨.relative, above ++ [name]⟩ := by
  rw [text_concat]
  by_cases habove : above = []
  · rw [habove]
    exact List.suffix_refl _
  · rw [Text.joinWith_concat _ habove]
    exact List.suffix_append _ _

/-- Whether the path to a place ends with an extension without slashes is told by the name of
the place. -/
theorem endsWith_relativeTo_iff {ending : Text} {target : Location}
    (hslash : ('/' : CodePoint) ∉ ending) (hbeyond : ¬target <+: root) :
    Text.endsWith (Location.relativeTo root target) ending = true ↔
      Text.endsWith (Location.name target) ending = true := by
  obtain ⟨above, last, hparts⟩ : ∃ above last,
      (Location.way root target).parts = above ++ [last] := by
    rcases List.eq_nil_or_concat (Location.way root target).parts with hnone | ⟨above, last, h⟩
    · exact absurd hnone (Location.way_parts_ne_nil hbeyond)
    · exact ⟨above, last, h.trans (List.concat_eq_append ..)⟩
  have hlast : last = Location.name target := by
    rw [← Location.way_name hbeyond, Path.name_of_parts hparts]
  have hway : Location.way root target = ⟨.relative, above ++ [last]⟩ := by
    rw [← hparts]
    rfl
  rw [Location.relativeTo_eq, hway, ← hlast]
  constructor
  · intro hends
    exact List.isSuffixOf_iff_suffix.mpr (endsWith_name hslash hends)
  · intro hends
    have hname : ending <:+ last := List.isSuffixOf_iff_suffix.mp hends
    exact List.isSuffixOf_iff_suffix.mpr (hname.trans (name_suffix_text above last))

/-! ## Documents -/

/-- A directory at the end of its own path is behind no link, and the system can be asked
about it. -/
theorem resolved_root (hform : tree.WellFormed)
    (h : tree.status true (Location.text root) = .ok (root, .directory)) :
    root.IsClean ∧ tree.Unlinked root ∧ Tree.checkPath (Location.text root) = .ok () := by
  obtain ⟨hcheck, hfind⟩ := Tree.status_eq_ok_iff.mp h
  have hnode : tree.node? root = some .directory := (Tree.node?_of_find hfind).symm
  exact ⟨hform.isClean hnode, hform.unlinked hnode (by simp), hcheck⟩

/-- Directories and other occurrences make no event.  Any other notification of a path from
the root of the tree, neither that of the watched root nor one above it, makes an event for
what its own path resolves to.  The event is taken just if the last name of that path has the
extension.  Then it dispatches that document, and otherwise nothing happens. -/
theorem notifications_reach_documents (hform : tree.WellFormed) (hwatching : w.phase = .watching)
    (hroot : w.root = some root)
    (hresolved : tree.status true (Location.text root) = .ok (root, .directory))
    (hslash : ('/' : CodePoint) ∉ setup.extension) (workingDirectory : Location)
    (n : Notification) :
    (n.occurrence = .other ∨ n.isDirectory = true → n.event? workingDirectory root = .ok none) ∧
      ∀ path, n.path.decoded = path.text → path.anchor ≠ .relative →
        Location.IsClean path.parts → ¬path.parts <+: root → n.occurrence ≠ .other →
        n.isDirectory = false →
        ∃ text, n.event? workingDirectory root = .ok (some (kindOf n.occurrence, text)) ∧
          documentAt tree root text = tree.resolve path ∧
          (w.accepts setup (kindOf n.occurrence) text = true ↔
            Text.endsWith path.name setup.extension = true) ∧
          ∀ document, tree.resolve path = .ok document →
            w.handleEvent setup tree (kindOf n.occurrence) text =
              if Text.endsWith path.name setup.extension then
                .ok (((w.dispatch document).1.1,
                  [entry .info ("File " ++ kindOf n.occurrence ++ ": " ++ Location.text document),
                    .accepted document (w.standing document)] ++ (w.dispatch document).1.2),
                  (w.dispatch document).2)
              else .ok ((w, []), none) := by
  refine ⟨fun h => event?_eq_none h workingDirectory root, ?_⟩
  intro path hpath habsolute hclean hbeyond hoccurrence hfile
  obtain ⟨hrootClean, hlinks, hcheck⟩ := resolved_root hform hresolved
  have hne : path.parts ≠ [] := by
    intro hnone
    exact hbeyond (hnone ▸ List.nil_prefix)
  have hreaches : documentAt tree root (Location.relativeTo root path.parts) = tree.resolve path :=
    Tree.resolve_join_relativeTo hrootClean hlinks hcheck habsolute hclean hbeyond
  have hkind : kindOf n.occurrence = added ∨ kindOf n.occurrence = changed := by
    cases n.occurrence with
    | created => exact .inl rfl
    | modified | other => exact .inr rfl
  have haccepts : w.accepts setup (kindOf n.occurrence) (Location.relativeTo root path.parts) =
      true ↔ Text.endsWith path.name setup.extension = true := by
    rw [accepts_iff]
    have hends := endsWith_relativeTo_iff hslash hbeyond
    exact ⟨fun h => hends.mp h.2.2, fun h => ⟨hwatching, hkind, hends.mpr h⟩⟩
  refine ⟨_, event?_of_notification hpath habsolute hclean hne hoccurrence hfile, hreaches,
    haccepts, fun document hdocument => ?_⟩
  split
  · next hends =>
    exact handleEvent_of_accepts hroot (haccepts.mpr hends) (hreaches.trans hdocument)
  · next hends => exact handleEvent_of_not_accepts fun h => hends (haccepts.mp h)

/-- A watched directory, a directory beside it whose name starts with the same letters, and a
link in that one. -/
def siblingTree : Tree where
  entries := [(["w"], .directory), (["w", "doc"], .directory), (["w", "docs"], .directory),
    (["w", "docs", "in"], .link "../src"), (["w", "src"], .directory),
    (["w", "src", "a.gpt"], .file [])]
  workingDirectory := ["w"]

theorem siblingTree_wellFormed : siblingTree.WellFormed := .of_entries (by decide) rfl

def siblingWatcher : Watcher := { new 1 with phase := .watching, root := some ["w", "doc"] }

/-- A change at `/w/docs/in/a.gpt`, told in octets. -/
def siblingChange : Notification where
  occurrence := .modified
  path := .octets [47, 119, 47, 100, 111, 99, 115, 47, 105, 110, 47, 97, 46, 103, 112, 116]
  isDirectory := false

/-- The document behind the link is dispatched. -/
theorem sibling_notification_reaches_document :
    ∃ text, siblingChange.event? ["w"] ["w", "doc"] = .ok (some (changed, text)) ∧
      documentAt siblingTree ["w", "doc"] text = .ok ["w", "src", "a.gpt"] ∧
      siblingWatcher.accepts sampleSetup changed text = true ∧
      ∃ effect, siblingWatcher.handleEvent sampleSetup siblingTree changed text =
        .ok (effect, some ⟨0, ["w", "src", "a.gpt"]⟩) := by
  have hends :
      Text.endsWith (Path.ofText "/w/docs/in/a.gpt").name sampleSetup.extension = true := by
    decide
  have hdocument : siblingTree.resolve (Path.ofText "/w/docs/in/a.gpt") =
      .ok ["w", "src", "a.gpt"] := by
    decide +kernel
  obtain ⟨text, hevent, hreaches, haccepts, hhandled⟩ :=
    (@notifications_reach_documents sampleSetup siblingTree siblingWatcher ["w", "doc"]
      siblingTree_wellFormed rfl rfl (by decide +kernel) (by decide) ["w"] siblingChange).2
      (Path.ofText "/w/docs/in/a.gpt") (by decide +kernel) (by decide) (by decide) (by decide)
      (by decide) rfl
  replace hhandled := hhandled _ hdocument
  rw [if_pos hends] at hhandled
  exact ⟨text, hevent, hreaches.trans hdocument, haccepts.mpr hends, _, hhandled⟩

end ProseCompiler.Watcher
