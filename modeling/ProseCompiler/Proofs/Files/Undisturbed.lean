import ProseCompiler.Proofs.Files.PlainDirectories
import ProseCompiler.Proofs.Files.Writing

/-!
# Places that are left undisturbed

Two trees are compared on the way to a place, the second being the first with
more directories in it.  A place is `Undisturbed` if that is all that differs on
the way to it, and the place itself holds the same.

A file there is read as before (`readText_undisturbed`), with one exception.  The
names on the way are looked at only as far as there are directories, so a file
that is missed in the first tree can be refused in the second one because of the
length of a name.
-/

namespace ProseCompiler

/-- Some name of the location is longer than an entry's name can be. -/
def Location.HasLongName (l : Location) : Prop := ∃ name ∈ l, Tree.nameSize name > Tree.nameLimit

instance (l : Location) : Decidable l.HasLongName :=
  inferInstanceAs (Decidable (∃ name ∈ l, Tree.nameSize name > Tree.nameLimit))

namespace Tree

variable {t t' : Tree} {l m q : Location} {name : Text}

/-- A place holds the same, or a directory has come to where nothing stood. -/
def SameOrNew (t t' : Tree) (l : Location) : Prop :=
  t'.node? l = t.node? l ∨ t.node? l = none ∧ t'.node? l = some .directory

/-- On the way to a place, directories may have come to where nothing stood. -/
def GrownTo (t t' : Tree) (l : Location) : Prop := ∀ q, q <+: l → SameOrNew t t' q

/-- Directories may have come to the way to a place, but not to the place. -/
structure Undisturbed (t t' : Tree) (l : Location) : Prop where
  grown : GrownTo t t' l
  same : t'.node? l = t.node? l

theorem GrownTo.above (hgrown : GrownTo t t' l) (hm : m <+: l) : GrownTo t t' m :=
  fun q hq => hgrown q (hq.trans hm)

/-- The files on the way are the same. -/
theorem GrownTo.isFileAt (hgrown : GrownTo t t' l) (hq : q <+: l) :
    t'.isFileAt q = t.isFileAt q := by
  rw [Tree.isFileAt, Tree.isFileAt]
  rcases hgrown q hq with hsame | ⟨hnone, hnew⟩
  · rw [hsame]
  · rw [hnone, hnew]

/-! ## Lookups -/

/-- A lookup comes to nothing where nothing stands. -/
def Misses (t : Tree) (l : Location) : Prop :=
  t.find true (Location.text l) = .error .noEntry ∨ t.find true (Location.text l) = .ok (l, none)

/-- Nothing is found below a place that is missed. -/
theorem Misses.find_concat (hmisses : t.Misses l) (hfree : t.LinkFree)
    (hclean : (l ++ [name]).IsClean) (hpath : ¬nameSize (Location.text (l ++ [name])) > pathLimit) :
    t.find true (Location.text (l ++ [name])) = .error .noEntry := by
  rw [find_concat_of_linkFree hfree hclean, if_neg hpath]
  rcases hmisses with hmiss | hmiss <;> rw [hmiss] <;> rfl

/-- What a lookup finds below a directory. -/
theorem find_below_directory (hfree : t.LinkFree) (hclean : (l ++ [name]).IsClean)
    (hpath : ¬nameSize (Location.text (l ++ [name])) > pathLimit)
    (habove : t.find true (Location.text l) = .ok (l, some .directory)) :
    t.find true (Location.text (l ++ [name])) =
      if nameSize name > nameLimit then .error .nameTooLong
      else .ok (l ++ [name], t.node? (l ++ [name])) := by
  rw [find_concat_of_linkFree hfree hclean, if_neg hpath, habove]
  rfl

/-- How a lookup comes out where the way to a place has grown: as before, or, if it
came to nothing, to nothing again, to a new directory, or to a name that is too
long. -/
inductive ComesOut (t t' : Tree) (l : Location) : Prop
  | same (hsame : t'.find true (Location.text l) = t.find true (Location.text l))
  | missed (hnone : t.node? l = none) (hmisses : t.Misses l) (hmisses' : t'.Misses l)
  | arrived (hnone : t.node? l = none) (hmisses : t.Misses l)
      (hfind : t'.find true (Location.text l) = .ok (l, some .directory))
  | refused (hnone : t.node? l = none) (hmisses : t.Misses l) (hlong : l.HasLongName)
      (hfind : t'.find true (Location.text l) = .error .nameTooLong)

/-- One more name behind a lookup that came out as before. -/
theorem ComesOut.concat_of_same (hfree : t.LinkFree) (hfree' : t'.LinkFree)
    (hclean : (l ++ [name]).IsClean)
    (hpath : ¬nameSize (Location.text (l ++ [name])) > pathLimit)
    (hlast : SameOrNew t t' (l ++ [name]))
    (hsame : t'.find true (Location.text l) = t.find true (Location.text l)) :
    ComesOut t t' (l ++ [name]) := by
  by_cases habove : t.find true (Location.text l) = .ok (l, some .directory)
  · have hbelow := find_below_directory hfree hclean hpath habove
    have hbelow' := find_below_directory hfree' hclean hpath (hsame.trans habove)
    by_cases hlong : nameSize name > nameLimit
    · rw [if_pos hlong] at hbelow hbelow'
      exact .same (hbelow'.trans hbelow.symm)
    · rw [if_neg hlong] at hbelow hbelow'
      rcases hlast with hlast | ⟨hnone, hnew⟩
      · exact .same (by rw [hbelow', hbelow, hlast])
      · rw [hnone] at hbelow
        rw [hnew] at hbelow'
        exact .arrived hnone (.inr hbelow) hbelow'
  · refine .same ?_
    rw [find_concat_of_linkFree hfree hclean, find_concat_of_linkFree hfree' hclean, hsame]
    cases hfind : t.find true (Location.text l) with
    | error error => rfl
    | ok found =>
      obtain ⟨p, n⟩ := found
      obtain rfl := find_place hfree hclean.of_append hfind
      rcases n with _ | content | target | _
      · rfl
      · rfl
      · rfl
      · exact absurd hfind habove

/-- One more name behind a lookup that came to nothing and comes to a directory. -/
theorem ComesOut.concat_of_arrived (hfree : t.LinkFree) (hfree' : t'.LinkFree)
    (hclean : (l ++ [name]).IsClean)
    (hpath : ¬nameSize (Location.text (l ++ [name])) > pathLimit)
    (hlast : SameOrNew t t' (l ++ [name]))
    (hnone : t.node? (l ++ [name]) = none) (hmisses : t.Misses l)
    (hfind : t'.find true (Location.text l) = .ok (l, some .directory)) :
    ComesOut t t' (l ++ [name]) := by
  have hmiss := hmisses.find_concat hfree hclean hpath
  have hbelow' := find_below_directory hfree' hclean hpath hfind
  by_cases hlong : nameSize name > nameLimit
  · rw [if_pos hlong] at hbelow'
    exact .refused hnone (.inl hmiss) ⟨name, by simp, hlong⟩ hbelow'
  · rw [if_neg hlong] at hbelow'
    rcases hlast with hsame | ⟨-, hnew⟩
    · rw [hsame, hnone] at hbelow'
      exact .missed hnone (.inl hmiss) (.inr hbelow')
    · rw [hnew] at hbelow'
      exact .arrived hnone (.inl hmiss) hbelow'

/-- Every lookup on a way that has grown comes out in one of these ways. -/
theorem find_grown (hform : t.WellFormed) (hfree : t.LinkFree) (hfree' : t'.LinkFree)
    (hclean : l.IsClean) (hgrown : GrownTo t t' l) : ComesOut t t' l := by
  induction l using List.reverseRecOn with
  | nil => exact .same (by rw [find_text_nil, find_text_nil])
  | append_singleton l name ih =>
    by_cases hpath : nameSize (Location.text (l ++ [name])) > pathLimit
    · exact .same (by rw [find_text hclean, find_text hclean, if_pos hpath, if_pos hpath])
    have hlast := hgrown _ (List.prefix_refl (l ++ [name]))
    have hbelow : t.node? l = none → t.node? (l ++ [name]) = none :=
      hform.node?_eq_none_of_above (List.prefix_append l [name])
    cases ih hclean.of_append (hgrown.above (List.prefix_append l [name])) with
    | same hsame => exact .concat_of_same hfree hfree' hclean hpath hlast hsame
    | missed hnone hmisses hmisses' =>
      have hmiss := hmisses.find_concat hfree hclean hpath
      exact .same ((hmisses'.find_concat hfree' hclean hpath).trans hmiss.symm)
    | arrived hnone hmisses hfind =>
      exact .concat_of_arrived hfree hfree' hclean hpath hlast (hbelow hnone) hmisses hfind
    | refused hnone hmisses hlong hfind =>
      obtain ⟨other, hother, hsize⟩ := hlong
      refine .refused (hbelow hnone) (.inl (hmisses.find_concat hfree hclean hpath))
        ⟨other, List.mem_append_left _ hother, hsize⟩ ?_
      rw [find_concat_of_linkFree hfree' hclean, if_neg hpath, hfind]
      rfl

/-! ## Reading -/

theorem status_of_find_error {path : Text} {error : SystemError} (hcheck : checkPath path = .ok ())
    (h : t.find true path = .error error) : t.status true path = .error (.system error path) := by
  rw [status, hcheck, h]
  rfl

theorem Misses.status (hmisses : t.Misses l) (hcheck : checkPath (Location.text l) = .ok ()) :
    t.status true (Location.text l) = .error (.system .noEntry (Location.text l)) := by
  rcases hmisses with hmiss | hmiss
  · exact status_of_find_error hcheck hmiss
  · rw [Tree.status, hcheck, hmiss]
    rfl

/-- What stands at an undisturbed place is seen as before, unless it was missed
and has a name that is too long. -/
theorem status_undisturbed (hform : t.WellFormed) (hfree : t.LinkFree) (hfree' : t'.LinkFree)
    (hclean : l.IsClean) (hsame : Undisturbed t t' l) :
    t'.status true (Location.text l) = t.status true (Location.text l) ∨
      l.HasLongName ∧
        t.status true (Location.text l) = .error (.system .noEntry (Location.text l)) ∧
        t'.status true (Location.text l) = .error (.system .nameTooLong (Location.text l)) := by
  cases hcheck : checkPath (Location.text l) with
  | error fault =>
    rw [status, status, hcheck]
    exact .inl rfl
  | ok =>
    cases find_grown hform hfree hfree' hclean hsame.grown with
    | same heq =>
      rw [status, status, heq]
      exact .inl rfl
    | missed hnone hmisses hmisses' =>
      rw [hmisses.status hcheck, hmisses'.status hcheck]
      exact .inl rfl
    | arrived hnone hmisses hfind =>
      have hnew := node?_of_find hfind
      rw [hsame.same, hnone] at hnew
      cases hnew
    | refused hnone hmisses hlong hfind =>
      exact .inr ⟨hlong, hmisses.status hcheck, status_of_find_error hcheck hfind⟩

/-- A file at an undisturbed place is read as before, unless it was missed and
has a name that is too long. -/
theorem readText_undisturbed (hform : t.WellFormed) (hfree : t.LinkFree) (hfree' : t'.LinkFree)
    (hclean : l.IsClean) (hsame : Undisturbed t t' l) :
    t'.readText (Location.text l) = t.readText (Location.text l) ∨
      l.HasLongName ∧
        t.readText (Location.text l) = .error (.system .noEntry (Location.text l)) ∧
        t'.readText (Location.text l) = .error (.system .nameTooLong (Location.text l)) := by
  rw [readText, readText, readFile, readFile]
  rcases status_undisturbed hform hfree hfree' hclean hsame with heq | ⟨hlong, hmissed, hrefused⟩
  · rw [heq]
    exact .inl rfl
  · rw [hmissed, hrefused]
    exact .inr ⟨hlong, rfl, rfl⟩

/-! ## Changes that are made again -/

/-- A second tree changes as a first one did: where that changed, it comes to the
same, and elsewhere it stays. -/
structure Replays (t u t' u' : Tree) : Prop where
  kept : ∀ q, u.node? q = t.node? q → u'.node? q = t'.node? q
  changed : ∀ q, u.node? q ≠ t.node? q → u'.node? q = u.node? q

theorem Replays.refl (t t' : Tree) : Replays t t t' t' :=
  ⟨fun _ _ => rfl, fun _ hne => absurd rfl hne⟩

/-- What both trees hold in the end at a place that they held alike. -/
theorem Replays.put {u u' : Tree} {e : Node} (hreplays : Replays t u t' u') (hl : l ≠ [])
    (hsame : t'.node? l = t.node? l) : Replays t (u.put l e) t' (u'.put l e) := by
  constructor <;> intro q hq <;> rw [node?_put hl] at hq ⊢
  · split at hq
    · next heq => rw [if_pos heq, hq, heq, hsame]
    · next hne => rw [if_neg hne, hreplays.kept q hq]
  · rw [node?_put hl]
    split at hq
    · next heq => rw [if_pos heq, if_pos heq]
    · next hne => rw [if_neg hne, if_neg hne, hreplays.changed q hq]

/-- Directories may be new on the way to a place, and the place itself may change. -/
def ChangesAlong (t u : Tree) (l : Location) : Prop :=
  ∀ q, u.node? q ≠ t.node? q →
    q <+: l ∧ (q = l ∨ t.node? q = none ∧ u.node? q = some .directory)

/-- What is provided on a way that has grown is what was provided on it before,
but for the directories that are there. -/
theorem isProvided_grown (hform : t.WellFormed) (hform' : t'.WellFormed) (hfree : t.LinkFree)
    (hfree' : t'.LinkFree) (hclean : l.IsClean) (hgrown : GrownTo t t' l) :
    t'.IsProvided l q ↔ t.IsProvided l q ∧ t'.node? q = none := by
  have hmade : q <+: l →
      (t'.makeAll q.reverse).2 = (t.makeAll q.reverse).2 := by
    rintro ⟨rest, rfl⟩
    exact makeAll_congr hform hform' hfree hfree' hclean.of_append
      (fun m hm => hgrown.isFileAt (hm.trans (List.prefix_append q rest)))
  constructor
  · rintro ⟨hq, hok, hnone⟩
    refine ⟨⟨hq, (hmade hq).symm.trans hok, ?_⟩, hnone⟩
    rcases hgrown q hq with hsame | ⟨hold, -⟩
    · rw [← hsame, hnone]
    · exact hold
  · rintro ⟨⟨hq, hok, -⟩, hnone⟩
    exact ⟨hq, (hmade hq).trans hok, hnone⟩

/-- Directories on a way that has grown are made again. -/
theorem makeAll_replays (hform : t.WellFormed) (hform' : t'.WellFormed)
    (hfree : t.LinkFree) (hfree' : t'.LinkFree) (hclean : l.IsClean) (hgrown : GrownTo t t' l) :
    Replays t (t.makeAll l.reverse).1 t' (t'.makeAll l.reverse).1 := by
  constructor <;> intro q hq <;>
    obtain ⟨hnew, hold⟩ := node?_makeAll hform hfree hclean q <;>
    obtain ⟨hnew', hold'⟩ := node?_makeAll hform' hfree' hclean q <;>
    rw [isProvided_grown hform hform' hfree hfree' hclean hgrown] at hnew' hold'
  · refine hold' fun hagain => ?_
    rw [hnew hagain.1, hagain.1.2.2] at hq
    cases hq
  · have hprovided : t.IsProvided l q := by
      by_contra hnot
      exact hq (hold hnot)
    rw [hnew hprovided]
    rcases hgrown q hprovided.1 with hsame | ⟨-, hdirectory⟩
    · exact hnew' ⟨hprovided, hsame.trans hprovided.2.2⟩
    · rw [hold' (by simp [hdirectory]), hdirectory]

/-- What can be reached can be reached on a way that has grown. -/
theorem canReach_grown (hform : t.WellFormed) (hfree : t.LinkFree) (hfree' : t'.LinkFree)
    (hclean : l.IsClean) (hgrown : GrownTo t t' l) (h : t.canReach (Location.text l) = true) :
    t'.canReach (Location.text l) = true := by
  obtain ⟨hcheck, p, node, hfind⟩ := canReach_iff.mp h
  have hsees : ¬t.Misses l := by
    rintro (hmiss | hmiss) <;>
      · rw [hmiss] at hfind
        cases hfind
  cases find_grown hform hfree hfree' hclean hgrown with
  | same heq => exact canReach_iff.mpr ⟨hcheck, p, node, heq.trans hfind⟩
  | missed _ hmisses | arrived _ hmisses | refused _ hmisses => exact absurd hmisses hsees

/-- A way that has grown is no longer than it was. -/
theorem makeAllDepth_grown (hform : t.WellFormed) (hfree : t.LinkFree) (hfree' : t'.LinkFree)
    (hclean : l.IsClean) (hgrown : GrownTo t t' l) :
    t'.makeAllDepth l.reverse ≤ t.makeAllDepth l.reverse := by
  induction l using List.reverseRecOn with
  | nil => exact Nat.le_refl _
  | append_singleton l name ih =>
    have habove := hgrown.above (List.prefix_append l [name])
    have hless := ih hclean.of_append habove
    rw [List.reverse_concat, makeAllDepth, makeAllDepth, List.reverse_reverse]
    by_cases hreach : t.canReach (Location.text l) = true
    · have hreach' := canReach_grown hform hfree hfree' hclean.of_append habove hreach
      exact Nat.le_of_eq ((if_pos hreach').trans (if_pos hreach).symm)
    · rw [if_neg hreach]
      split <;> omega

/-- Directories that can be made on a way can be made once it has grown. -/
theorem not_isRemote_grown (hform : t.WellFormed) (hfree : t.LinkFree) (hfree' : t'.LinkFree)
    (hclean : l.IsClean) (hgrown : GrownTo t t' l) (hnear : ¬t.IsRemote l.reverse) :
    ¬t'.IsRemote l.reverse := fun hremote =>
  hnear (Nat.lt_of_lt_of_le hremote (makeAllDepth_grown hform hfree hfree' hclean hgrown))

/-- A file that is opened at a place where both trees held the same is written
again. -/
theorem writeText_replays {u u' : Tree} {path : Text} (hreplays : Replays t u t' u')
    (hopen : u'.writable path = u.writable path)
    (hsame : ∀ place old, u.writable path = .ok (place, old) → t'.node? place = t.node? place)
    (text : Text) :
    (u'.writeText path text).2 = (u.writeText path text).2 ∧
      Replays t (u.writeText path text).1 t' (u'.writeText path text).1 := by
  rw [writeText, writeText, hopen]
  cases hwritable : u.writable path with
  | error fault => exact ⟨rfl, hreplays⟩
  | ok found =>
    obtain ⟨place, old⟩ := found
    have hne := (isLeaf_of_writable hwritable).ne_nil
    have hplace := hsame place old hwritable
    cases Utf8.encode text with
    | error fault => exact ⟨rfl, hreplays.put hne hplace⟩
    | ok content => exact ⟨rfl, hreplays.put hne hplace⟩

end Tree

end ProseCompiler
