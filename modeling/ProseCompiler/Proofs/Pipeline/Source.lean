import ProseCompiler.Config.Validation
import ProseCompiler.Proofs.Pipeline.Failure
import ProseCompiler.Proofs.Pipeline.Success

/-!
# What becomes of the document

Nothing keeps a document from naming itself as its output, by `@output`, by a link,
or by an extension that is also that of its language; then the code takes the place
of the source.  Apart from that a run leaves the document alone.

`Overwrites` says when a run comes to writing code over a file, and `leftBy` what the
code leaves in it.  Since a file has no directory of its own to be made, the
condition can be checked in the tree before the run
(`opens_iff_writable_of_file`).
-/

namespace ProseCompiler

/-! ## Lookups in a tree that has grown -/

namespace Tree

variable {t t' : Tree} {followLast : Bool} {links : Nat} {place p l : Location}
  {pieces : List Text} {n : Option Node} {path : Text}

/-- What stands in a tree has not gone from another one, directories are still
directories, and the links are the same. -/
structure KeepsWays (t t' : Tree) : Prop where
  present : ∀ {l}, t.node? l ≠ none → t'.node? l ≠ none
  directory : ∀ {l}, t.node? l = some .directory → t'.node? l = some .directory
  link : ∀ {l target}, t'.node? l = some (.link target) ↔ t.node? l = some (.link target)
  workingDirectory_eq : t'.workingDirectory = t.workingDirectory

namespace KeepsWays

theorem trans {t'' : Tree} (hfirst : KeepsWays t t') (hsecond : KeepsWays t' t'') :
    KeepsWays t t'' :=
  ⟨fun h => hsecond.present (hfirst.present h), fun h => hsecond.directory (hfirst.directory h),
    hsecond.link.trans hfirst.link, hsecond.workingDirectory_eq.trans hfirst.workingDirectory_eq⟩

theorem of_adds (hadds : AddsDirectories t t') : KeepsWays t t' := by
  refine ⟨fun {l} hl => ?_, fun {l} hl => ?_, fun {l target} => ?_, hadds.workingDirectory_eq⟩
  · rcases hadds.same_or_new l with hsame | ⟨hnone, -⟩
    · rwa [hsame]
    · exact absurd hnone hl
  · rcases hadds.same_or_new l with hsame | ⟨-, hnew⟩
    · rwa [hsame]
    · exact hnew
  · rcases hadds.same_or_new l with hsame | ⟨hnone, hnew⟩
    · rw [hsame]
    · simp [hnone, hnew]

theorem put_file (hleaf : t.IsLeaf l) (content : Bytes) :
    KeepsWays t (t.put l (.file content)) := by
  refine ⟨fun {m} hm => ?_, fun {m} hm => ?_, fun {m target} => ?_, workingDirectory_put t l _⟩
  · rw [node?_put hleaf.ne_nil]
    split
    · simp
    · exact hm
  · rwa [node?_put_of_ne hleaf.ne_nil]
    rintro rfl
    exact hleaf.1 hm
  · rw [node?_put hleaf.ne_nil]
    by_cases hm : m = l
    · simp [hm, hleaf.2]
    · rw [if_neg hm]

theorem advance (hways : KeepsWays t t')
    (h : ∀ error, t.advance followLast place pieces ≠ .refused error) :
    t'.advance followLast place pieces = (t.advance followLast place pieces).seenIn t' := by
  obtain ⟨hpresent, hdirectory, hlink, -⟩ := hways
  fun_induction Tree.advance t followLast place pieces <;>
    grind [Tree.advance, Advance.seenIn]

theorem findFrom (hways : KeepsWays t t')
    (h : t.findFrom followLast links place pieces = .ok (p, n)) :
    t'.findFrom followLast links place pieces = .ok (p, t'.node? p) := by
  induction links using Nat.strongRecOn generalizing place pieces with
  | _ links ih =>
    have hadvance := hways.advance (advance_ne_refused h)
    rcases findFrom_cases h with harrived | ⟨_, _, _, fewer, rfl, hlink, hfewer⟩
    · rw [harrived] at hadvance
      exact findFrom_of_arrived hadvance
    · rw [hlink] at hadvance
      rw [findFrom_of_atLink hadvance]
      exact ih fewer (Nat.lt_succ_self fewer) hfewer

/-- A path leads to the same place as before. -/
theorem find (hways : KeepsWays t t') (h : t.find followLast path = .ok (p, n)) :
    t'.find followLast path = .ok (p, t'.node? p) := by
  rw [find_eq_ok_iff] at h ⊢
  rw [hways.workingDirectory_eq]
  exact ⟨h.1, h.2.1, hways.findFrom h.2.2⟩

end KeepsWays

/-- A path to a file is not the path of the root. -/
theorem ne_nil_of_find_file {content : Bytes} (h : t.find followLast (Location.text l) = .ok (p, n))
    (hfile : t.node? p = some (.file content)) : l ≠ [] := by
  rintro rfl
  rw [find_text_nil] at h
  cases h
  cases hfile

/-- Where a directory can be entered, none has to be made. -/
theorem ensureDirectory_of_canEnter (hclean : l.IsClean)
    (h : t.canEnter (Location.text l) = true) : t.ensureDirectory l.reverse = (t, .ok ()) := by
  cases l using List.reverseRecOn with
  | nil => rfl
  | append_singleton l name =>
    obtain ⟨hcheck, d, hfind⟩ := canEnter_iff.mp h
    have habove := canReach_of_canEnter (canEnter_of_find_concat hclean hcheck hfind)
    have hnear : ¬t.IsRemote (l ++ [name]).reverse := by
      rw [IsRemote, List.reverse_concat, makeAllDepth, List.reverse_reverse, if_pos habove]
      decide
    rw [ensureDirectory_of_not_isRemote hnear, List.reverse_concat, makeAll, List.reverse_cons,
      List.reverse_reverse, if_pos habove]
    rcases makeOrKeep_cases t (Location.text (l ++ [name])) with
      ⟨_, -, hnone, -⟩ | ⟨-, hkept⟩ | ⟨_, hrefused, -⟩
    · have hnone := find_true_of_false hnone (by simp)
      rw [hfind] at hnone
      cases hnone
    · exact hkept
    · rw [h] at hrefused
      cases hrefused

end Tree

namespace Pipeline

section Write

variable {tree tree' : Tree} {output place : Location} {code : Text} {content : Bytes}

/-- Opening a file that stands in the tree needs no directory to be made. -/
theorem opens_iff_writable_of_file (hform : tree.WellFormed) (hclean : output.IsClean)
    (hfile : tree.node? place = some (.file content)) :
    Opens tree output place ↔ tree.writable (Location.text output) = .ok (place, content) := by
  constructor
  · rintro ⟨hmade, old, hopen⟩
    rcases hensure : tree.ensureDirectory (Location.parent output).reverse with ⟨made, result⟩
    rw [hensure] at hmade hopen
    cases hmade
    have hprovides := Tree.Provides.of_ensureDirectory hform hclean.parent hensure
    have hadds := hprovides.adds
    have hfile' : made.node? place = some (.file content) := hadds.file_iff.mpr hfile
    obtain ⟨n, hfind⟩ := Tree.find_of_writable hopen
    have hcheck := (Tree.writable_eq_ok_iff.mp hopen).1
    have hne := Tree.ne_nil_of_find_file hfind hfile'
    -- a new directory would stand above the file, which stood there before
    have hsame : ∀ l, made.node? l = tree.node? l := by
      intro l
      rcases hadds.same_or_new l with hsame | ⟨hnone, hdirectory⟩
      · exact hsame
      · have habove :=
          (hprovides.new_above hform hclean hne hfind hnone (by simp [hdirectory])).1
        rw [hform.node?_eq_none_of_above habove hnone] at hfile
        cases hfile
    have hback : Tree.KeepsWays made tree :=
      ⟨fun h => hsame _ ▸ h, fun h => hsame _ ▸ h, by simp [hsame], hadds.workingDirectory_eq.symm⟩
    exact Tree.writable_eq_ok_iff.mpr ⟨hcheck, .inr (hfile ▸ hback.find hfind)⟩
  · intro hopen
    obtain ⟨n, hfind⟩ := Tree.find_of_writable hopen
    have hcheck := (Tree.writable_eq_ok_iff.mp hopen).1
    have hne := Tree.ne_nil_of_find_file hfind hfile
    rw [← List.dropLast_concat_getLast hne] at hclean hfind hcheck
    have hparent := Tree.canEnter_of_find_concat hclean hcheck hfind
    have hensure := Tree.ensureDirectory_of_canEnter hclean.of_append hparent
    exact ⟨congrArg Prod.snd hensure, content, by rw [Location.parent, hensure]; exact hopen⟩

/-- What code leaves in the file that it is written to: its octets, or nothing if it
has none. -/
def leftBy (code : Text) : Bytes :=
  match Utf8.encode code with
  | .ok octets => octets
  | .error _ => []

/-- Writing opens a file and leaves the code in it, or makes directories at most. -/
theorem write_effect (tree : Tree) (output : Location) (code : Text) :
    (¬(∃ place, Opens tree output place) ∧
      (write tree output code).1 =
        (tree.ensureDirectory (Location.parent output).reverse).1) ∨
    ∃ place, Opens tree output place ∧
      (write tree output code).1 =
        (tree.ensureDirectory (Location.parent output).reverse).1.put place
          (.file (leftBy code)) := by
  rcases hwrite : write tree output code with ⟨tree', problem | _⟩
  · rcases write_error_cases hwrite with hnone | ⟨place, hopens, hsurrogate, hput⟩
    · exact .inl hnone
    · obtain ⟨fault, hfault⟩ := Utf8.encode_isError_iff.mpr hsurrogate
      exact .inr ⟨place, hopens, by rw [leftBy, hfault]; exact hput⟩
  · rcases write_cases tree output code with
      ⟨_, _, -, heq⟩ | ⟨made, hensure, ⟨_, _, -, heq⟩ | ⟨written, hwritten, heq⟩⟩
    · rw [hwrite] at heq
      cases heq
    · rw [hwrite] at heq
      cases heq
    · rw [hwrite] at heq
      cases heq
      obtain ⟨place, old, octets, hopen, hencode, hput⟩ := Tree.writeText_ok hwritten
      refine .inr ⟨place, ⟨by rw [hensure], old, by rw [hensure]; exact hopen⟩, ?_⟩
      rw [hensure, leftBy, hencode]
      exact hput

/-- A path that led to a file leads to it after code was written, and the file holds
the code if the code was written there. -/
theorem find_after_write (hform : tree.WellFormed) (hclean : output.IsClean) {path : Text}
    (hfind : tree.find true path = .ok (place, some (.file content))) (code : Text) :
    (tree.writable (Location.text output) = .ok (place, content) →
      (write tree output code).1.find true path = .ok (place, some (.file (leftBy code)))) ∧
    (¬tree.writable (Location.text output) = .ok (place, content) →
      (write tree output code).1.find true path = .ok (place, some (.file content))) := by
  have hfile : tree.node? place = some (.file content) := (Tree.node?_of_find hfind).symm
  have hadds := Tree.ensureDirectory_adds tree (Location.parent output).reverse
  have hways := Tree.KeepsWays.of_adds hadds
  rw [← opens_iff_writable_of_file hform hclean hfile]
  rcases write_effect tree output code with ⟨hnone, heq⟩ | ⟨opened, hopens, heq⟩
  · refine ⟨fun hopens => absurd ⟨place, hopens⟩ hnone, fun _ => ?_⟩
    rw [heq, hways.find hfind, hadds.file_iff.mpr hfile]
  · obtain ⟨-, old, hopen⟩ := id hopens
    have hleaf := Tree.isLeaf_of_writable hopen
    have hafter := (hways.trans (.put_file hleaf (leftBy code))).find hfind
    rw [heq, hafter, Tree.node?_put hleaf.ne_nil]
    constructor
    · intro hplace
      rw [if_pos (hopens.unique hplace)]
    · intro hplace
      rw [if_neg (fun h : place = opened => hplace (h ▸ hopens)), hadds.file_iff.mpr hfile]

end Write

/-! ## The whole run -/

section Run

variable {config : Config} {service : Service} {earlier : List Request} {tree : Tree}
  {document : Path} {place : Location} {content : Bytes}

/-- A run comes to writing code to the output file of the document. -/
def ComesTo (config : Config) (service : Service) (earlier : List Request) (tree : Tree)
    (document : Path) (output : Location) (code : Text) : Prop :=
  ∃ parsed target request,
    load tree config document = .ok (parsed, target) ∧
    Request.make config parsed.instructions target.language = .ok request ∧
    ((service earlier request).code request document.text target.language).2 = .ok code ∧
    target.output = output

/-- A run comes to writing code, and the output path leads to the file at a place. -/
def Overwrites (config : Config) (service : Service) (earlier : List Request) (tree : Tree)
    (document : Path) (place : Location) (code : Text) : Prop :=
  ∃ output content, ComesTo config service earlier tree document output code ∧
    tree.writable (Location.text output) = .ok (place, content)

theorem comesTo_iff {parsed : Document} {target : Target} {request : Request}
    (hload : load tree config document = .ok (parsed, target))
    (hrequest : Request.make config parsed.instructions target.language = .ok request)
    {output : Location} {code : Text} :
    ComesTo config service earlier tree document output code ↔
      ((service earlier request).code request document.text target.language).2 = .ok code ∧
        target.output = output := by
  constructor
  · rintro ⟨_, _, _, hload', hrequest', hcode, houtput⟩
    rw [hload] at hload'
    cases hload'
    rw [hrequest] at hrequest'
    cases hrequest'
    exact ⟨hcode, houtput⟩
  · rintro ⟨hcode, houtput⟩
    exact ⟨parsed, target, request, hload, hrequest, hcode, houtput⟩

/-- There is one output file and one code that a run can come to. -/
theorem ComesTo.unique {output output' : Location} {code code' : Text}
    (h : ComesTo config service earlier tree document output code)
    (h' : ComesTo config service earlier tree document output' code') :
    output' = output ∧ code' = code := by
  obtain ⟨parsed, target, request, hload, hrequest, hcode, rfl⟩ := h
  obtain ⟨hcode', rfl⟩ := (comesTo_iff hload hrequest).mp h'
  rw [hcode] at hcode'
  cases hcode'
  exact ⟨rfl, rfl⟩

/-- A run leaves the tree alone, or writes the code that it comes to. -/
theorem Course.same_or_comesTo {tree' : Tree} {requests : List Request}
    {result : Except Halt Outcome}
    (hcourse : Course config service earlier tree document tree' requests result) :
    (tree' = tree ∧ ∀ output code, ¬ComesTo config service earlier tree document output code) ∨
    ∃ output code, ComesTo config service earlier tree document output code ∧
      tree' = (write tree output code).1 := by
  cases hcourse with
  | unread hload =>
    refine .inl ⟨rfl, ?_⟩
    rintro output code ⟨_, _, _, hload', -⟩
    rw [hload] at hload'
    cases hload'
  | unsent hload hrequest =>
    refine .inl ⟨rfl, ?_⟩
    rintro output code ⟨_, _, _, hload', hrequest', -⟩
    rw [hload] at hload'
    cases hload'
    rw [hrequest] at hrequest'
    cases hrequest'
  | unanswered hload hrequest hcode =>
    refine .inl ⟨rfl, fun output code hcomes => ?_⟩
    have hcode' := ((comesTo_iff hload hrequest).mp hcomes).1
    rw [hcode] at hcode'
    cases hcode'
  | unwritten hload hrequest hcode hwrite =>
    exact .inr ⟨_, _, ⟨_, _, _, hload, hrequest, hcode, rfl⟩, by rw [hwrite]⟩
  | written hload hrequest hcode hwrite =>
    exact .inr ⟨_, _, ⟨_, _, _, hload, hrequest, hcode, rfl⟩, by rw [hwrite]⟩

theorem ComesTo.isClean (hform : tree.WellFormed) {output : Location} {code : Text}
    (h : ComesTo config service earlier tree document output code) : output.IsClean := by
  obtain ⟨parsed, target, request, hload, -, -, rfl⟩ := h
  obtain ⟨text, -, rfl, hresolve⟩ := resolved_of_load hload
  exact Target.resolve_isClean (hform.isClean hform.workingDirectory_isDirectory) hresolve

/-- After a run the document is where it was.  It holds what it held, unless the run
came to writing code and the output path led to the document itself; then it holds
what the code leaves there. -/
theorem source_after_run (milliseconds : Nat) (hform : tree.WellFormed)
    (hsource : tree.find true document.text = .ok (place, some (.file content))) :
    (∀ code, Overwrites config service earlier tree document place code →
      (run config service .silent milliseconds earlier tree document).tree.find true
        document.text = .ok (place, some (.file (leftBy code)))) ∧
    ((∀ code, ¬Overwrites config service earlier tree document place code) →
      (run config service .silent milliseconds earlier tree document).tree.find true
        document.text = .ok (place, some (.file content))) := by
  have hfile : tree.node? place = some (.file content) := (Tree.node?_of_find hsource).symm
  rcases (run_course config service milliseconds earlier tree document).same_or_comesTo with
    ⟨htree, hnone⟩ | ⟨output, code, hcomes, htree⟩
  · rw [htree]
    refine ⟨?_, fun _ => hsource⟩
    rintro code ⟨output, old, hcomes, -⟩
    exact absurd hcomes (hnone output code)
  · rw [htree]
    obtain ⟨hover, hkept⟩ := find_after_write hform (hcomes.isClean hform) hsource code
    constructor
    · rintro code' ⟨output', old, hcomes', hopen⟩
      obtain ⟨rfl, rfl⟩ := hcomes.unique hcomes'
      have hold : old = content := by
        rcases Tree.node?_of_writable hopen with hnone | hsame
        · rw [hfile] at hnone
          cases hnone
        · rw [hfile] at hsame
          cases hsame
          rfl
      exact hover (hold ▸ hopen)
    · intro hnone
      exact hkept fun hopen => hnone code ⟨output, content, hcomes, hopen⟩

end Run

/-! ## A document that names itself -/

/-- A document that asks for its own file as the output. -/
def selfNamingTree : Tree where
  entries := [(["w"], .directory), (["w", "s.gpt"], .file (sampleOctets "@output: s.gpt\n\nx"))]
  workingDirectory := ["w"]

def selfNamingRun : Run :=
  run sampleConfig (sampleService "\x7b\"content\": \"code\"\x7d") .silent 0 [] selfNamingTree
    (Path.ofText "s.gpt")

theorem selfNamingTree_wellFormed : selfNamingTree.WellFormed :=
  .of_entries (by decide +kernel) (by decide +kernel)

theorem selfNamingTree_find :
    selfNamingTree.find true (Path.ofText "s.gpt").text =
      .ok (["w", "s.gpt"], some (.file (sampleOctets "@output: s.gpt\n\nx"))) := by
  decide +kernel

theorem selfNamingRun_find :
    selfNamingRun.tree.find true (Path.ofText "s.gpt").text =
      .ok (["w", "s.gpt"], some (.file (sampleOctets "code"))) := by
  decide +kernel

/-- The configuration is valid, the name is that of a document, and the source is
gone. -/
theorem self_naming_source_is_lost :
    sampleConfig.validate = .ok () ∧
      Text.endsWith (Path.ofText "s.gpt").name sampleConfig.documentExtension = true ∧
      selfNamingTree.find true (Path.ofText "s.gpt").text =
        .ok (["w", "s.gpt"], some (.file (sampleOctets "@output: s.gpt\n\nx"))) ∧
      selfNamingRun.tree.find true (Path.ofText "s.gpt").text =
        .ok (["w", "s.gpt"], some (.file (sampleOctets "code"))) :=
  ⟨rfl, by decide +kernel, selfNamingTree_find, selfNamingRun_find⟩

/-- It is gone because the output path led to it. -/
theorem self_naming_source_is_overwritten :
    selfNamingTree.WellFormed ∧
      selfNamingTree.find true (Path.ofText "s.gpt").text =
        .ok (["w", "s.gpt"], some (.file (sampleOctets "@output: s.gpt\n\nx"))) ∧
      ∃ code, Overwrites sampleConfig (sampleService "\x7b\"content\": \"code\"\x7d") []
        selfNamingTree (Path.ofText "s.gpt") ["w", "s.gpt"] code := by
  refine ⟨selfNamingTree_wellFormed, selfNamingTree_find, ?_⟩
  by_contra hnone
  have hkept := (source_after_run 0 selfNamingTree_wellFormed selfNamingTree_find).2
    fun code hover => hnone ⟨code, hover⟩
  exact absurd (selfNamingRun_find.symm.trans hkept) (by decide +kernel)

end Pipeline

end ProseCompiler
