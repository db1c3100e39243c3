import ProseCompiler.Proofs.Files.LinkFree

/-!
# Making directories where no link stands

In a tree without links, `makeAll` takes one step for each name as well:
what comes of a directory depends on what came of the one above it and on what
stands in its place (`makeAll_concat`).

So the tree afterwards is known place by place.  A directory stands at every
place on the way that could be provided and where nothing stood (`IsProvided`),
and nothing else is new.
-/

namespace ProseCompiler.Tree

variable {t t' u : Tree} {l q : Location} {name : Text}
  {reversed : List Text} {fault : Fault}

/-! ## One directory -/

/-- Whatever stands in the place of a directory decides what comes of it. -/
theorem makeOrKeep_of_linkFree (hfree : t.LinkFree) (hclean : l.IsClean) :
    t.makeOrKeep (Location.text l) =
      match checkPath (Location.text l), t.find true (Location.text l) with
      | .error fault, _ => (t, .error fault)
      | .ok (), .error error => (t, .error (.system error (Location.text l)))
      | .ok (), .ok (_, none) => (t.put l .directory, .ok ())
      | .ok (), .ok (_, some .directory) => (t, .ok ())
      | .ok (), .ok (_, some _) => (t, .error (.system .entryExists (Location.text l))) := by
  rw [makeOrKeep, makeDirectory, canEnter, status, find_followLast hfree hclean false true]
  cases hcheck : checkPath (Location.text l) with
  | error fault => simp [bind, Except.bind]
  | ok =>
    cases hfind : t.find true (Location.text l) with
    | error error => simp [bind, Except.bind]
    | ok found =>
      obtain ⟨p, n⟩ := found
      obtain rfl := find_place hfree hclean hfind
      rcases n with _ | content | target | _ <;> simp [bind, Except.bind]

/-- A directory is made where nothing stands, or the tree stays as it is. -/
theorem makeOrKeep_changes (hfree : t.LinkFree) (hclean : l.IsClean) :
    (t.makeOrKeep (Location.text l) = (t.put l .directory, .ok ()) ∧ t.node? l = none) ∨
      (t.makeOrKeep (Location.text l)).1 = t ∧
        ¬((t.makeOrKeep (Location.text l)).2 = .ok () ∧ t.node? l = none) := by
  rw [makeOrKeep_of_linkFree hfree hclean]
  cases checkPath (Location.text l) with
  | error fault => simp
  | ok =>
    cases hfind : t.find true (Location.text l) with
    | error error => simp
    | ok found =>
      obtain ⟨p, n⟩ := found
      obtain rfl := find_place hfree hclean hfind
      have hn := node?_of_find hfind
      rcases n with _ | content | target | _ <;> simp [← hn]

/-- No directory is made at a place that cannot be looked up. -/
theorem makeOrKeep_of_find_error {error : SystemError} (hfree : t.LinkFree) (hclean : l.IsClean)
    (hfind : t.find true (Location.text l) = .error error) :
    (t.makeOrKeep (Location.text l)).2 =
      checkPath (Location.text l) >>= fun _ => .error (.system error (Location.text l)) := by
  rw [makeOrKeep_of_linkFree hfree hclean, hfind]
  cases checkPath (Location.text l) <;> rfl

/-- Only a file keeps a place that can be looked up from being a directory. -/
theorem makeOrKeep_of_find {n : Option Node} (hfree : t.LinkFree) (hclean : l.IsClean)
    (hfind : t.find true (Location.text l) = .ok (l, n)) :
    (t.makeOrKeep (Location.text l)).2 =
      checkPath (Location.text l) >>= fun _ =>
        if t.isFileAt l then .error (.system .entryExists (Location.text l)) else .ok () := by
  have hn := node?_of_find hfind
  rw [makeOrKeep_of_linkFree hfree hclean, hfind, isFileAt, ← hn]
  cases checkPath (Location.text l) with
  | error fault => rfl
  | ok =>
    rcases n with _ | content | target | _
    · rfl
    · rfl
    · exact absurd hn.symm (hfree l target)
    · rfl

/-- What is present, but is no directory, is a file. -/
theorem find_of_makeOrKeep (hfree : t.LinkFree) (hclean : l.IsClean)
    (h : t.makeOrKeep (Location.text l) = (u, .error fault))
    (hpresent : meansPresent fault = true) :
    ∃ content, u.find true (Location.text l) = .ok (l, some (.file content)) := by
  rw [makeOrKeep_of_linkFree hfree hclean] at h
  cases hcheck : checkPath (Location.text l) with
  | error other =>
    rw [hcheck] at h
    cases h
    cases fault with
    | system error path => exact absurd rfl (checkPath_error hcheck error path)
    | _ => cases hpresent
  | ok =>
    rw [hcheck] at h
    cases hfind : t.find true (Location.text l) with
    | error error =>
      rw [hfind] at h
      cases h
      rcases find_error hfree hfind with rfl | rfl | rfl <;> cases hpresent
    | ok found =>
      obtain ⟨p, n⟩ := found
      obtain rfl := find_place hfree hclean hfind
      have hn := node?_of_find hfind
      rw [hfind] at h
      rcases n with _ | content | target | _ <;> cases h
      · exact ⟨content, hfind⟩
      · exact absurd hn.symm (hfree _ target)

/-! ## A directory and those above it -/

/-- What can be reached is provided already, or it is no directory. -/
theorem makeAll_of_canReach (hfree : t.LinkFree) (hclean : l.IsClean)
    (h : t.canReach (Location.text l) = true) :
    ∃ result, t.makeAll l.reverse = (t, result) ∧
      ∀ fault, result = .error fault → meansPresent fault = true := by
  cases l using List.reverseRecOn with
  | nil => exact ⟨.ok (), rfl, fun _ heq => by cases heq⟩
  | append_singleton above name =>
    obtain ⟨hcheck, p, node, hfind⟩ := canReach_iff.mp h
    have habove := canReach_of_canEnter (canEnter_of_find_concat hclean hcheck hfind)
    have hmade := makeOrKeep_of_linkFree hfree hclean
    rw [hcheck, hfind] at hmade
    rw [List.reverse_concat, makeAll, List.reverse_cons, List.reverse_reverse,
      if_pos habove, hmade]
    cases node with
    | directory => exact ⟨_, rfl, fun _ heq => by cases heq⟩
    | file | link => exact ⟨_, rfl, fun _ heq => by cases heq; rfl⟩

theorem makeAll_concat_of_ok (hfree : t.LinkFree) (hclean : (l ++ [name]).IsClean)
    (h : t.makeAll l.reverse = (u, .ok ())) :
    t.makeAll (l ++ [name]).reverse = u.makeOrKeep (Location.text (l ++ [name])) := by
  rw [List.reverse_concat, makeAll, List.reverse_cons, List.reverse_reverse]
  split
  · next hreach =>
    obtain ⟨result, heq, -⟩ := makeAll_of_canReach hfree hclean.of_append hreach
    rw [h] at heq
    cases heq
    rfl
  · rw [h]

theorem makeAll_concat_of_error (hfree : t.LinkFree) (hclean : (l ++ [name]).IsClean)
    (h : t.makeAll l.reverse = (u, .error fault)) :
    t.makeAll (l ++ [name]).reverse =
      if meansPresent fault then u.makeOrKeep (Location.text (l ++ [name]))
      else (u, .error fault) := by
  rw [List.reverse_concat, makeAll, List.reverse_cons, List.reverse_reverse]
  split
  · next hreach =>
    obtain ⟨result, heq, hpresent⟩ := makeAll_of_canReach hfree hclean.of_append hreach
    rw [h] at heq
    cases heq
    rw [if_pos (hpresent fault rfl)]
  · rw [h]

/-! ## Lookups below -/

/-- A directory that is provided is found, and nothing is new below it. -/
theorem find_of_provided (hform : t.WellFormed) (hfree : t.LinkFree) (hclean : l.IsClean)
    (h : t.makeAll l.reverse = (u, .ok ())) :
    u.find true (Location.text l) = .ok (l, some .directory) ∧
      ∀ name, u.node? (l ++ [name]) = t.node? (l ++ [name]) := by
  have hadds := makeAll_adds t l.reverse
  rw [h] at hadds
  rw [← l.reverse_reverse] at hclean
  obtain ⟨d, hfind, hnew⟩ := makeAll_ok hform hclean h
  rw [l.reverse_reverse] at hclean hfind
  obtain rfl := find_place (hadds.linkFree hfree) hclean hfind
  refine ⟨hfind, fun name => ?_⟩
  rcases hadds.same_or_new (d ++ [name]) with hsame | ⟨hnone, hdirectory⟩
  · exact hsame
  · have hlength := (hnew _ hnone (by simp [hdirectory])).length_le
    rw [List.length_append, List.length_singleton] at hlength
    omega

theorem isFileAt_of_provided (hform : t.WellFormed) (hfree : t.LinkFree)
    (hclean : (l ++ [name]).IsClean) (h : t.makeAll l.reverse = (u, .ok ())) :
    u.isFileAt (l ++ [name]) = t.isFileAt (l ++ [name]) := by
  rw [isFileAt, isFileAt, (find_of_provided hform hfree hclean.of_append h).2]

/-- What a lookup below a provided directory comes to. -/
theorem find_below_provided (hform : t.WellFormed) (hfree : t.LinkFree)
    (hclean : (l ++ [name]).IsClean) (h : t.makeAll l.reverse = (u, .ok ())) :
    u.find true (Location.text (l ++ [name])) =
      if nameSize (Location.text (l ++ [name])) > pathLimit ∨ nameSize name > nameLimit then
        .error .nameTooLong
      else .ok (l ++ [name], t.node? (l ++ [name])) := by
  have hadds := makeAll_adds t l.reverse
  rw [h] at hadds
  obtain ⟨hfind, hbelow⟩ := find_of_provided hform hfree hclean.of_append h
  rw [find_concat_of_linkFree (hadds.linkFree hfree) hclean, hfind]
  by_cases hpath : nameSize (Location.text (l ++ [name])) > pathLimit
  · simp only [hpath, true_or, if_true]
  · by_cases hlong : nameSize name > nameLimit
    · simp [hpath, hlong, bind, Except.bind, step]
    · simp [hpath, hlong, bind, Except.bind, step, hbelow]

/-- Something that is present, but not provided, is a file. -/
theorem find_of_present (hfree : t.LinkFree) (hclean : l.IsClean)
    (h : t.makeAll l.reverse = (u, .error fault)) (hpresent : meansPresent fault = true) :
    ∃ content, u.find true (Location.text l) = .ok (l, some (.file content)) := by
  cases l using List.reverseRecOn with
  | nil => cases h
  | append_singleton above name =>
    have hadds := makeAll_adds t above.reverse
    rcases habove : t.makeAll above.reverse with ⟨w, other | _⟩ <;> rw [habove] at hadds
    · rw [makeAll_concat_of_error hfree hclean habove] at h
      split at h
      · exact find_of_makeOrKeep (hadds.linkFree hfree) hclean h hpresent
      · next hother =>
        cases h
        exact absurd hpresent hother
    · rw [makeAll_concat_of_ok hfree hclean habove] at h
      exact find_of_makeOrKeep (hadds.linkFree hfree) hclean h hpresent

/-- Nothing is found below a file. -/
theorem find_below_present (hfree : t.LinkFree) (hclean : (l ++ [name]).IsClean)
    (h : t.makeAll l.reverse = (u, .error fault)) (hpresent : meansPresent fault = true) :
    u.find true (Location.text (l ++ [name])) =
      .error (if nameSize (Location.text (l ++ [name])) > pathLimit then .nameTooLong
        else .notDirectory) := by
  have hadds := makeAll_adds t l.reverse
  rw [h] at hadds
  obtain ⟨content, hfind⟩ := find_of_present hfree hclean.of_append h hpresent
  rw [find_concat_of_linkFree (hadds.linkFree hfree) hclean, hfind]
  split <;> rfl

/-! ## What is provided -/

/-- Whether a directory can be provided depends on the files that stand on the way
to it, and on nothing else in the tree. -/
theorem makeAll_congr (hform : t.WellFormed) (hform' : t'.WellFormed)
    (hfree : t.LinkFree) (hfree' : t'.LinkFree) (hclean : l.IsClean)
    (hfiles : ∀ q, q <+: l → t'.isFileAt q = t.isFileAt q) :
    (t'.makeAll l.reverse).2 = (t.makeAll l.reverse).2 := by
  induction l using List.reverseRecOn with
  | nil => rfl
  | append_singleton l name ih =>
    have hsame := ih hclean.of_append
      (fun q hq => hfiles q (hq.trans (List.prefix_append l [name])))
    have hfile := hfiles _ (List.prefix_refl (l ++ [name]))
    have hadds := makeAll_adds t l.reverse
    have hadds' := makeAll_adds t' l.reverse
    rcases habove : t.makeAll l.reverse with ⟨u, fault | _⟩ <;>
      rcases habove' : t'.makeAll l.reverse with ⟨u', fault' | _⟩ <;>
      rw [habove] at hsame hadds <;> rw [habove'] at hsame hadds' <;> cases hsame
    · rw [makeAll_concat_of_error hfree hclean habove,
        makeAll_concat_of_error hfree' hclean habove']
      by_cases hpresent : meansPresent fault = true
      · have hbelow := find_below_present hfree hclean habove hpresent
        have hbelow' := find_below_present hfree' hclean habove' hpresent
        rw [if_pos hpresent, if_pos hpresent,
          makeOrKeep_of_find_error (hadds.linkFree hfree) hclean hbelow,
          makeOrKeep_of_find_error (hadds'.linkFree hfree') hclean hbelow']
      · rw [if_neg hpresent, if_neg hpresent]
    · have hbelow := find_below_provided hform hfree hclean habove
      have hbelow' := find_below_provided hform' hfree' hclean habove'
      rw [makeAll_concat_of_ok hfree hclean habove,
        makeAll_concat_of_ok hfree' hclean habove']
      by_cases hlong : nameSize (Location.text (l ++ [name])) > pathLimit ∨
          nameSize name > nameLimit
      · rw [if_pos hlong] at hbelow hbelow'
        rw [makeOrKeep_of_find_error (hadds.linkFree hfree) hclean hbelow,
          makeOrKeep_of_find_error (hadds'.linkFree hfree') hclean hbelow']
      · rw [if_neg hlong] at hbelow hbelow'
        rw [makeOrKeep_of_find (hadds.linkFree hfree) hclean hbelow,
          makeOrKeep_of_find (hadds'.linkFree hfree') hclean hbelow',
          isFileAt_of_provided hform hfree hclean habove,
          isFileAt_of_provided hform' hfree' hclean habove', hfile]

/-- A place on the way where nothing stood and a directory can be provided. -/
def IsProvided (t : Tree) (l q : Location) : Prop :=
  q <+: l ∧ (t.makeAll q.reverse).2 = .ok () ∧ t.node? q = none

theorem isProvided_concat :
    t.IsProvided (l ++ [name]) q ↔
      t.IsProvided l q ∨
        q = l ++ [name] ∧ (t.makeAll (l ++ [name]).reverse).2 = .ok () ∧
          t.node? (l ++ [name]) = none := by
  rw [IsProvided, IsProvided, List.prefix_concat_iff, or_and_right, or_comm]
  constructor
  · rintro (habove | ⟨rfl, hlast⟩)
    · exact .inl habove
    · exact .inr ⟨rfl, hlast⟩
  · rintro (habove | ⟨rfl, hlast⟩)
    · exact .inl habove
    · exact .inr ⟨rfl, hlast⟩

/-- One more name puts a directory in its place, or changes nothing. -/
theorem makeAll_concat_changes {result : Except Fault Unit} (hform : t.WellFormed)
    (hfree : t.LinkFree) (hclean : (l ++ [name]).IsClean)
    (h : t.makeAll l.reverse = (u, result)) :
    (t.makeAll (l ++ [name]).reverse = (u.put (l ++ [name]) .directory, .ok ()) ∧
        t.node? (l ++ [name]) = none) ∨
      (t.makeAll (l ++ [name]).reverse).1 = u ∧
        ¬((t.makeAll (l ++ [name]).reverse).2 = .ok () ∧ t.node? (l ++ [name]) = none) := by
  have hadds := makeAll_adds t l.reverse
  rw [h] at hadds
  cases result with
  | ok =>
    rw [makeAll_concat_of_ok hfree hclean h,
      ← (find_of_provided hform hfree hclean.of_append h).2 name]
    exact makeOrKeep_changes (hadds.linkFree hfree) hclean
  | error fault =>
    rw [makeAll_concat_of_error hfree hclean h]
    by_cases hpresent : meansPresent fault = true
    · rw [if_pos hpresent, makeOrKeep_of_linkFree (hadds.linkFree hfree) hclean,
        find_below_present hfree hclean h hpresent]
      cases checkPath (Location.text (l ++ [name])) <;> simp
    · rw [if_neg hpresent]
      simp

/-- Directories stand where they are provided, and nothing else is new. -/
theorem node?_makeAll (hform : t.WellFormed) (hfree : t.LinkFree) (hclean : l.IsClean)
    (q : Location) :
    (t.IsProvided l q → (t.makeAll l.reverse).1.node? q = some .directory) ∧
      (¬t.IsProvided l q → (t.makeAll l.reverse).1.node? q = t.node? q) := by
  induction l using List.reverseRecOn with
  | nil =>
    refine ⟨fun hprovided => ?_, fun _ => rfl⟩
    obtain ⟨hq, -, hnone⟩ := hprovided
    rw [List.prefix_nil.mp hq] at hnone
    cases hnone
  | append_singleton l name ih =>
    obtain ⟨hnew, hold⟩ := ih hclean.of_append
    rcases habove : t.makeAll l.reverse with ⟨u, result⟩
    rw [habove] at hnew hold
    rw [isProvided_concat]
    rcases makeAll_concat_changes hform hfree hclean habove with
      ⟨heq, hnone⟩ | ⟨heq, hkept⟩
    · rw [heq, node?_put (by simp)]
      by_cases hq : q = l ++ [name]
      · simp [hq, hnone]
      · simpa [hq] using ⟨hnew, hold⟩
    · rw [heq]
      constructor
      · rintro (hprovided | ⟨-, hlast⟩)
        · exact hnew hprovided
        · exact absurd hlast hkept
      · intro hnot
        exact hold (fun hprovided => hnot (.inl hprovided))

end ProseCompiler.Tree
