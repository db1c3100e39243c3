import Mathlib.Data.List.Forall2
import ProseCompiler.Proofs.Files.Names
import ProseCompiler.Proofs.Files.Patterns

/-!
# What a search of a directory finds

`Entry` says what stands below a directory that is searched, links aside.  A search that
goes through visits every directory below the one that it starts from (`visit_of_visitBelow`)
and nothing else (`mem_of_visitBelow`), and takes the names there that match its pattern.
So a file is found if and only if it stands below the directory and its name matches:
`mem_search_iff`.
-/

namespace ProseCompiler

section Lists

variable {α β ε : Type} {xs : List α}

theorem bind_eq_ok_iff {x : Except ε α} {f : α → Except ε β} {b : β} :
    x >>= f = .ok b ↔ ∃ a, x = .ok a ∧ f a = .ok b := by
  cases x <;> simp [bind, Except.bind]

theorem map_eq_ok_iff {x : Except ε α} {f : α → β} {b : β} :
    x.map f = .ok b ↔ ∃ a, x = .ok a ∧ f a = b := by
  cases x <;> simp [Except.map]

/-- Something succeeds for a list if it does for each member. -/
theorem mapM_eq_ok_iff {f : α → Except ε β} {ys : List β} :
    xs.mapM f = .ok ys ↔ List.Forall₂ (fun x y => f x = .ok y) xs ys := by
  induction xs generalizing ys with
  | nil => cases ys <;> simp [pure, Except.pure, List.forall₂_nil_left_iff]
  | cons x xs ih =>
    rw [List.mapM_cons]
    cases hx : f x with
    | error fault => cases ys <;> simp [bind, Except.bind, hx, List.forall₂_nil_right_iff]
    | ok y =>
      cases hxs : xs.mapM f <;> cases ys <;>
        simp [bind, Except.bind, pure, Except.pure, hx, hxs, ← ih, List.forall₂_nil_right_iff]

theorem eq_ok_of_mapM {f : α → Except ε β} {ys : List β} (h : xs.mapM f = .ok ys) {x : α}
    (hx : x ∈ xs) : ∃ y, f x = .ok y := by
  rw [mapM_eq_ok_iff] at h
  induction h with
  | nil => cases hx
  | cons hfirst _ ih =>
    rcases List.mem_cons.mp hx with rfl | hx
    · exact ⟨_, hfirst⟩
    · exact ih hx

theorem mem_flatten_of_mapM {f : α → Except ε (List β)} {found : List (List β)}
    (h : xs.mapM f = .ok found) {y : β} :
    y ∈ found.flatten ↔ ∃ x ∈ xs, ∃ ys, f x = .ok ys ∧ y ∈ ys := by
  rw [mapM_eq_ok_iff] at h
  induction h with
  | nil => simp
  | cons hfirst _ ih => simp [ih, hfirst]

end Lists

namespace Tree

variable {t : Tree} {root d : Location} {parts more p : List Text} {name : Text} {node : Node}
  {entries : List (Text × Node)} {found : List (List Text)}

/-! ## What a directory lists -/

/-- No place has two entries. -/
def HasDistinctPlaces (t : Tree) : Prop := (t.entries.map Prod.fst).Nodup

instance (t : Tree) : Decidable t.HasDistinctPlaces :=
  inferInstanceAs (Decidable (List.Nodup _))

/-- Putting an entry leaves places distinct. -/
theorem HasDistinctPlaces.put (h : t.HasDistinctPlaces) (l : Location) (e : Node) :
    (t.put l e).HasDistinctPlaces := by
  have hput := nodup_keys_put l e h
  unfold Tree.put HasDistinctPlaces
  split at hput <;> split <;> first | exact hput | contradiction

theorem HasDistinctPlaces.node?_eq_some_iff (h : t.HasDistinctPlaces) {l : Location}
    (hl : l ≠ []) : t.node? l = some node ↔ (l, node) ∈ t.entries := by
  rw [node?_of_ne_nil hl]
  unfold HasDistinctPlaces at h
  generalize t.entries = entries at h
  induction entries with
  | nil => simp
  | cons entry entries ih =>
    obtain ⟨m, e⟩ := entry
    rw [List.map_cons, List.nodup_cons] at h
    rw [List.lookup_cons, List.mem_cons]
    by_cases hm : l = m
    · subst hm
      have habsent : (l, node) ∉ entries := fun hmem => h.1 (List.mem_map.mpr ⟨_, hmem, rfl⟩)
      simp [habsent, eq_comm]
    · simp [beq_eq_false_iff_ne.mpr hm, hm, ih h.2]

/-- A directory lists the names of what stands in it. -/
theorem mem_children_iff (hform : t.WellFormed) (hplaces : t.HasDistinctPlaces) :
    (name, node) ∈ t.children d ↔ Path.IsName name ∧ t.node? (d ++ [name]) = some node := by
  have hchild : (name, node) ∈ t.children d ↔
      ∃ m, (m, node) ∈ t.entries ∧ m ≠ [] ∧ m = d ++ [name] := by
    simp only [children, List.mem_filterMap, Prod.exists, Option.ite_none_right_eq_some,
      Option.some.injEq, Prod.mk.injEq]
    constructor
    · rintro ⟨m, e, hentry, ⟨hm, rfl⟩, rfl, rfl⟩
      refine ⟨m, hentry, hm, ?_⟩
      rw [Location.parent, Location.name, List.getLast?_eq_some_getLast hm, Option.getD_some,
        List.dropLast_concat_getLast]
    · rintro ⟨m, hentry, hm, rfl⟩
      exact ⟨_, node, hentry, ⟨hm, List.dropLast_concat⟩, by simp [Location.name], rfl⟩
  rw [hchild]
  constructor
  · rintro ⟨m, hentry, hm, rfl⟩
    have hnode := (hplaces.node?_eq_some_iff hm).mpr hentry
    exact ⟨(hform.isClean hnode).last, hnode⟩
  · rintro ⟨-, hnode⟩
    have hne : d ++ [name] ≠ [] := by simp
    exact ⟨_, (hplaces.node?_eq_some_iff hne).mp hnode, hne, rfl⟩

theorem listing_eq_ok_iff {path : Text} :
    t.listing path = .ok entries ↔
      ∃ place, t.status true path = .ok (place, .directory) ∧ entries = t.children place := by
  rw [listing]
  cases h : t.status true path with
  | error fault => simp
  | ok found =>
    obtain ⟨place, node⟩ := found
    cases node <;> simp [eq_comm]

/-! ## What stands below a directory -/

/-- What stands below a directory, by the names that lead there: all but the last name
directories themselves, and not links to them. -/
inductive Entry (t : Tree) (root : Location) : List Text → Node → Prop
  | root : Entry t root [] .directory
  | inside {parts : List Text} {name : Text} {place : Location} {node : Node}
      (habove : Entry t root parts .directory) (hname : Path.IsName name)
      (hstatus : t.status false (pathBelow root (parts ++ [name])) = .ok (place, node)) :
      Entry t root (parts ++ [name]) node

namespace Entry

theorem above (h : t.Entry root (parts ++ [name]) node) : t.Entry root parts .directory := by
  generalize hparts : parts ++ [name] = whole at h
  cases h with
  | root => simp at hparts
  | inside habove =>
    obtain ⟨rfl, -⟩ := List.append_inj' hparts rfl
    exact habove

theorem status (h : t.Entry root (parts ++ [name]) node) :
    ∃ place, t.status false (pathBelow root (parts ++ [name])) = .ok (place, node) := by
  generalize hparts : parts ++ [name] = whole at h
  cases h with
  | root => simp at hparts
  | inside _ _ hstatus => exact ⟨_, hstatus⟩

theorem isClean (h : t.Entry root parts node) : Location.IsClean parts := by
  induction h with
  | root => exact .nil
  | inside _ hname _ ih => exact ih.concat hname

/-- Everything on the way to an entry is a directory. -/
theorem of_append (hmore : more ≠ []) (h : t.Entry root (parts ++ more) node) :
    t.Entry root parts .directory := by
  induction more using List.reverseRecOn generalizing node with
  | nil => exact absurd rfl hmore
  | append_singleton more name ih =>
    rw [← List.append_assoc] at h
    by_cases hnil : more = []
    · rw [hnil, List.append_nil] at h
      exact h.above
    · exact ih hnil h.above

end Entry

/-- A directory that can be searched, in a tree such as a file system has. -/
structure IsBase (t : Tree) (root : Location) : Prop where
  isWellFormed : t.WellFormed
  hasDistinctPlaces : t.HasDistinctPlaces
  isClean : root.IsClean
  isDirectory : ∃ d, t.status true (Location.text root) = .ok (d, .directory)

theorem pathBelow_append (root : Location) (parts : List Text) (name : Text) :
    pathBelow root (parts ++ [name]) = Location.text (root ++ parts ++ [name]) := by
  rw [pathBelow, List.append_assoc]

namespace IsBase

theorem isClean_append (hbase : t.IsBase root) (h : t.Entry root parts node) :
    Location.IsClean (root ++ parts) := fun name hname =>
  (List.mem_append.mp hname).elim (hbase.isClean name) (h.isClean name)

/-- Every directory below can be listed. -/
theorem listing_of_entry (hbase : t.IsBase root) (h : t.Entry root parts .directory) :
    ∃ entries, t.listing (pathBelow root parts) = .ok entries := by
  have hstatus : ∃ place, t.status true (pathBelow root parts) = .ok (place, .directory) := by
    cases parts using List.reverseRecOn with
    | nil =>
      rw [pathBelow, List.append_nil]
      exact hbase.isDirectory
    | append_singleton parts name =>
      obtain ⟨place, hstatus⟩ := h.status
      obtain ⟨hcheck, hfind⟩ := status_eq_ok_iff.mp hstatus
      exact ⟨place, status_eq_ok_iff.mpr ⟨hcheck, find_true_of_false hfind (by simp)⟩⟩
  obtain ⟨place, hplace⟩ := hstatus
  exact ⟨_, listing_eq_ok_iff.mpr ⟨place, hplace, rfl⟩⟩

/-- What can be looked at under a name that a directory lists is an entry there. -/
theorem entry_of_listed (hbase : t.IsBase root) (h : t.Entry root parts .directory)
    (hlisting : t.listing (pathBelow root parts) = .ok entries) (hlisted : (name, node) ∈ entries)
    {seen : Location × Node} (hseen : t.status true (pathBelow root (parts ++ [name])) = .ok seen) :
    t.Entry root (parts ++ [name]) node := by
  obtain ⟨place, hplace, rfl⟩ := listing_eq_ok_iff.mp hlisting
  obtain ⟨hname, hnode⟩ :=
    (mem_children_iff hbase.isWellFormed hbase.hasDistinctPlaces).mp hlisted
  rw [pathBelow_append] at hseen
  have hstatus := status_of_node? ((hbase.isClean_append h).concat hname) hplace hnode hseen
  rw [← pathBelow_append] at hstatus
  exact .inside h hname hstatus

/-- A directory lists all its entries. -/
theorem listed_of_entry (hbase : t.IsBase root) (h : t.Entry root (parts ++ [name]) node)
    (hlisting : t.listing (pathBelow root parts) = .ok entries) : (name, node) ∈ entries := by
  obtain ⟨place, hplace, rfl⟩ := listing_eq_ok_iff.mp hlisting
  have hclean := hbase.isClean_append h
  rw [← List.append_assoc] at hclean
  obtain ⟨_, hstatus⟩ := h.status
  rw [pathBelow_append] at hstatus
  exact (mem_children_iff hbase.isWellFormed hbase.hasDistinctPlaces).mpr
    ⟨hclean.last, (node?_of_status hclean hplace hstatus).2⟩

end IsBase

/-! ## Visits -/

variable {visit : List Text → Except Fault (List (List Text))} {depth : Nat}

theorem visitBelow_eq_ok_iff :
    t.visitBelow root visit (depth + 1) parts = .ok found ↔
      ∃ here entries inner, visit parts = .ok here ∧
        t.listing (pathBelow root parts) = .ok entries ∧
        ((entries.filter fun (_, node) => node = .directory).mapM fun (name, _) =>
          t.visitBelow root visit depth (parts ++ [name])) = .ok inner ∧
        found = here ++ inner.flatten := by
  simp only [visitBelow, bind_eq_ok_iff, Except.ok.injEq]
  constructor
  · rintro ⟨here, hhere, entries, hlisting, inner, hinner, rfl⟩
    exact ⟨here, entries, inner, hhere, hlisting, hinner, rfl⟩
  · rintro ⟨here, entries, inner, hhere, hlisting, hinner, rfl⟩
    exact ⟨here, hhere, entries, hlisting, inner, hinner, rfl⟩

/-- A visit lists what it visits. -/
theorem status_of_visitBelow
    (h : t.visitBelow root visit depth parts = .ok found) :
    ∃ seen, t.status true (pathBelow root parts) = .ok seen := by
  cases depth with
  | zero => cases h
  | succ depth =>
    obtain ⟨_, _, _, -, hlisting, -⟩ := visitBelow_eq_ok_iff.mp h
    obtain ⟨place, hplace, -⟩ := listing_eq_ok_iff.mp hlisting
    exact ⟨_, hplace⟩

namespace IsBase

/-- A visit that goes through visits every directory below. -/
theorem visit_of_visitBelow (hbase : t.IsBase root)
    (hfound : t.visitBelow root visit depth parts = .ok found)
    (hmore : t.Entry root (parts ++ more) .directory) :
    ∃ here, visit (parts ++ more) = .ok here ∧ here ⊆ found := by
  induction depth generalizing parts more found with
  | zero => cases hfound
  | succ depth ih =>
    obtain ⟨here, entries, inner, hhere, hlisting, hinner, rfl⟩ := visitBelow_eq_ok_iff.mp hfound
    cases more with
    | nil =>
      rw [List.append_nil]
      exact ⟨here, hhere, List.subset_append_left here _⟩
    | cons name more =>
      rw [← List.singleton_append, ← List.append_assoc] at hmore ⊢
      have hentry : t.Entry root (parts ++ [name]) .directory := by
        by_cases hnil : more = []
        · rwa [hnil, List.append_nil] at hmore
        · exact hmore.of_append hnil
      have hlisted : (name, Node.directory) ∈ entries.filter fun (_, node) => node = .directory :=
        List.mem_filter.mpr ⟨hbase.listed_of_entry hentry hlisting, rfl⟩
      obtain ⟨below, hbelow⟩ := eq_ok_of_mapM hinner hlisted
      obtain ⟨there, hthere, hsubset⟩ := ih hbelow hmore
      exact ⟨there, hthere, fun p hp => List.mem_append_right here <|
        (mem_flatten_of_mapM hinner).mpr ⟨_, hlisted, below, hbelow, hsubset hp⟩⟩

/-- A visit that goes through visits nothing but directories below. -/
theorem mem_of_visitBelow (hbase : t.IsBase root) (h : t.Entry root parts .directory)
    (hfound : t.visitBelow root visit depth parts = .ok found) (hp : p ∈ found) :
    ∃ more here, t.Entry root (parts ++ more) .directory ∧ visit (parts ++ more) = .ok here ∧
      p ∈ here := by
  induction depth generalizing parts found with
  | zero => cases hfound
  | succ depth ih =>
    obtain ⟨here, entries, inner, hhere, hlisting, hinner, rfl⟩ := visitBelow_eq_ok_iff.mp hfound
    rcases List.mem_append.mp hp with hp | hp
    · refine ⟨[], here, ?_, ?_, hp⟩ <;> rwa [List.append_nil]
    · obtain ⟨⟨name, node⟩, hlisted, below, hbelow, hp⟩ := (mem_flatten_of_mapM hinner).mp hp
      obtain ⟨hlisted, hnode⟩ := List.mem_filter.mp hlisted
      obtain rfl : node = .directory := of_decide_eq_true hnode
      obtain ⟨seen, hseen⟩ := status_of_visitBelow hbelow
      have hentry := hbase.entry_of_listed h hlisting hlisted hseen
      obtain ⟨more, there, hmore, hthere, hp⟩ := ih hentry hbelow hp
      rw [List.append_assoc] at hmore hthere
      exact ⟨_, there, hmore, hthere, hp⟩

end IsBase

/-! ## Searches for names -/

/-- The last component of a pattern takes the names that match it. -/
theorem mem_select_named {pattern : List NamePart}
    (hlisting : t.listing (pathBelow root parts) = .ok entries)
    (h : t.select root false [.named pattern] parts = .ok found) :
    p ∈ found ↔ ∃ name node, (name, node) ∈ entries ∧ NamePart.matchName pattern name = true ∧
      p = parts ++ [name] := by
  simp only [select, hlisting, bind_eq_ok_iff, Except.ok.injEq, exists_eq_left', List.isEmpty_nil,
    Bool.not_false, Bool.and_self, if_true] at h
  obtain ⟨taken, htaken, rfl⟩ := h
  rw [mem_flatten_of_mapM htaken]
  constructor
  · rintro ⟨⟨name, node⟩, hlisted, ys, hys, hp⟩
    obtain ⟨_, ⟨⟩, hys⟩ := bind_eq_ok_iff.mp hys
    split at hys
    · next hmatch =>
      cases hys
      exact ⟨name, node, hlisted, hmatch, List.mem_singleton.mp hp⟩
    · cases hys
      cases hp
  · rintro ⟨name, node, hlisted, hmatch, rfl⟩
    refine ⟨(name, node), hlisted, [parts ++ [name]], ?_, List.mem_singleton_self _⟩
    simp [hmatch, bind, Except.bind]

variable {ending : Text} {pattern : List NamePart}

/-- A star and an ending are a pattern for names, if they are a pattern. -/
theorem ofText_star {component : PathPart} (hne : ending ≠ "*")
    (h : PathPart.ofText ('*' :: ending) = .ok component) :
    component = .named (NamePart.ofText ('*' :: ending)) := by
  have hstars : ('*' : CodePoint) :: ending ≠ PathPart.anyDirectories :=
    fun heq => hne (List.cons.inj heq).2
  rw [PathPart.ofText, if_neg hstars] at h
  split at h
  · cases h
  · rw [if_pos (by simp)] at h
    exact (Except.ok.inj h).symm

theorem parts_ofText_star (hslash : ('/' : CodePoint) ∉ ending) :
    (Path.ofText ('*' :: ending)).parts = [('*' : CodePoint) :: ending] ∧
      ¬(('*' : CodePoint) :: ending).getLast? = some ('/' : CodePoint) := by
  have hslash' : ('/' : CodePoint) ∉ ('*' : CodePoint) :: ending := by
    rw [List.mem_cons, not_or]
    exact ⟨by decide, hslash⟩
  have hsplit : Path.pieces ('*' :: ending) = [('*' : CodePoint) :: ending] :=
    Text.splitOn_of_not_mem hslash'
  have hhere : ('*' : CodePoint) :: ending ≠ Path.here := fun heq =>
    absurd (List.cons.inj heq).1 (by decide)
  rw [Path.ofText, hsplit]
  exact ⟨by simp [hhere], fun hlast => hslash' (List.mem_of_getLast? hlast)⟩

theorem select_directories (t : Tree) (root : Location) (mustEnter : Bool) (rest : List PathPart)
    (parts : List Text) : t.select root mustEnter (.directories :: rest) parts =
      (t.visitBelow root (t.select root mustEnter rest) searchDepth parts).map List.eraseDups := by
  rw [select]
  cases t.visitBelow root (t.select root mustEnter rest) searchDepth parts <;> rfl

/-- A search for a star and an ending visits what is below its start, takes the names that
match, and sorts them. -/
theorem search_star (hslash : ('/' : CodePoint) ∉ ending)
    (hpattern : PathPart.ofText ('*' :: ending) = .ok (.named pattern)) :
    t.search root ('*' :: ending) =
      (t.visitBelow root (t.select root false [.named pattern]) searchDepth []).map fun visited =>
        sortBelow visited.eraseDups := by
  obtain ⟨hparts, hlast⟩ := parts_ofText_star hslash
  have hcomponents : [('*' : CodePoint) :: ending].mapM PathPart.ofText = .ok [.named pattern] :=
    mapM_eq_ok_iff.mpr (.cons hpattern .nil)
  rw [search, hparts, hcomponents]
  simp only [bind, Except.bind, hlast, decide_false, select_directories]
  cases t.visitBelow root (t.select root false [.named pattern]) searchDepth [] <;> rfl

/-- A directory in which one file stands, and nothing else, is searched by matching its name. -/
theorem search_of_one_file {content : Bytes} (hslash : ('/' : CodePoint) ∉ ending)
    (hpattern : PathPart.ofText ('*' :: ending) = .ok (.named pattern))
    (hlisting : t.listing (pathBelow root []) = .ok [(name, .file content)]) :
    t.search root ('*' :: ending) =
      .ok (if NamePart.matchName pattern name = true then [[name]] else []) := by
  have hvisited : t.visitBelow root (t.select root false [.named pattern]) searchDepth [] =
      .ok (if NamePart.matchName pattern name = true then [[name]] else []) := by
    refine visitBelow_eq_ok_iff.mpr ⟨_, _, [], ?_, hlisting, rfl, (List.append_nil _).symm⟩
    cases hmatch : NamePart.matchName pattern name <;>
      simp [select, hlisting, hmatch, bind, Except.bind, pure, Except.pure]
  rw [search_star hslash hpattern, hvisited]
  cases NamePart.matchName pattern name
  · exact congrArg Except.ok List.mergeSort_nil
  · exact congrArg Except.ok (List.mergeSort_singleton [name])

theorem ofText_of_search (hslash : ('/' : CodePoint) ∉ ending) (hne : ending ≠ "*")
    (h : t.search root ('*' :: ending) = .ok found) :
    PathPart.ofText ('*' :: ending) = .ok (.named (NamePart.ofText ('*' :: ending))) := by
  rw [search, (parts_ofText_star hslash).1] at h
  obtain ⟨components, hcomponents, -⟩ := bind_eq_ok_iff.mp h
  obtain ⟨component, _, hcomponent, -, -⟩ :=
    List.forall₂_cons_left_iff.mp (mapM_eq_ok_iff.mp hcomponents)
  rwa [ofText_star hne hcomponent] at hcomponent

theorem isFile_eq_true_iff {path : Text} :
    t.isFile path = .ok true ↔ ∃ place content, t.status true path = .ok (place, .file content) := by
  rw [isFile, test]
  cases h : t.status true path with
  | error fault => cases hmeans : meansAbsent fault <;> simp [hmeans]
  | ok found =>
    obtain ⟨place, node⟩ := found
    cases node <;> simp

theorem isDirectory_eq_true_iff {path : Text} :
    t.isDirectory path = .ok true ↔ ∃ place, t.status true path = .ok (place, .directory) := by
  rw [isDirectory, test]
  cases h : t.status true path with
  | error fault => cases hmeans : meansAbsent fault <;> simp [hmeans]
  | ok found =>
    obtain ⟨place, node⟩ := found
    cases node <;> simp

/-- A file is found by a search for a star and an ending if and only if it stands below the
directory that is searched and its name matches.  Links to files are followed, and links to
directories are not. -/
theorem mem_search_iff (hbase : t.IsBase root) (hslash : ('/' : CodePoint) ∉ ending)
    (hne : ending ≠ "*") (h : t.search root ('*' :: ending) = .ok found)
    (hfile : t.isFile (pathBelow root parts) = .ok true) :
    parts ∈ found ↔ (∃ node, t.Entry root parts node) ∧
      NamePart.matchName (NamePart.ofText ('*' :: ending)) (Location.name parts) = true := by
  rw [search_star hslash (ofText_of_search hslash hne h)] at h
  obtain ⟨visited, hvisited, rfl⟩ := map_eq_ok_iff.mp h
  obtain ⟨place, content, hstatus⟩ := isFile_eq_true_iff.mp hfile
  rw [sortBelow, List.mem_mergeSort, List.mem_eraseDups]
  constructor
  · intro hparts
    obtain ⟨above, here, habove, hselect, hhere⟩ := hbase.mem_of_visitBelow .root hvisited hparts
    rw [List.nil_append] at habove hselect
    obtain ⟨entries, hlisting⟩ := hbase.listing_of_entry habove
    obtain ⟨name, node, hlisted, hmatch, rfl⟩ := (mem_select_named hlisting hselect).mp hhere
    refine ⟨⟨node, hbase.entry_of_listed habove hlisting hlisted hstatus⟩, ?_⟩
    rwa [Location.name, List.getLast?_concat, Option.getD_some]
  · rintro ⟨⟨node, hentry⟩, hmatch⟩
    cases parts using List.reverseRecOn with
    | nil =>
      obtain ⟨d, hdirectory⟩ := hbase.isDirectory
      rw [pathBelow, List.append_nil, hdirectory] at hstatus
      cases hstatus
    | append_singleton above name =>
      rw [Location.name, List.getLast?_concat, Option.getD_some] at hmatch
      obtain ⟨entries, hlisting⟩ := hbase.listing_of_entry hentry.above
      obtain ⟨here, hselect, hsubset⟩ := hbase.visit_of_visitBelow hvisited
        (show t.Entry root ([] ++ above) .directory from hentry.above)
      exact hsubset ((mem_select_named hlisting hselect).mpr
        ⟨name, node, hbase.listed_of_entry hentry hlisting, hmatch, rfl⟩)

end Tree

end ProseCompiler
