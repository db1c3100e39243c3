import ProseCompiler.Proofs.Files.Directories
import ProseCompiler.Proofs.Files.Writing
import ProseCompiler.Proofs.Pipeline.Course

/-!
# Files after a failed run

A run that fails makes directories at most, with one exception.  The file for
the code is opened before the code is encoded, so code with a surrogate in it
leaves that file empty: a new one, or one that an earlier run had written.

`Spoils` says when that happens, and `failed_run_keeps_files_iff` says that
nothing else can happen to a file.
-/

namespace ProseCompiler.Pipeline

/-! ## The writing of code -/

section Write

variable {tree tree' : Tree} {output place l : Location} {code : Text} {problem : Problem}

/-- The directories for an output file are there, and the file at a place is
opened for it. -/
def Opens (tree : Tree) (output place : Location) : Prop :=
  (tree.ensureDirectory (Location.parent output).reverse).2 = .ok () ∧
    ∃ old, (tree.ensureDirectory (Location.parent output).reverse).1.writable
      (Location.text output) = .ok (place, old)

/-- Writing fails because the file is not opened, or because there are no octets
for what should be in it. -/
theorem write_error_cases (h : write tree output code = (tree', .error problem)) :
    (¬(∃ place, Opens tree output place) ∧
      tree' = (tree.ensureDirectory (Location.parent output).reverse).1) ∨
    ∃ place, Opens tree output place ∧ (∃ c ∈ code, c.isSurrogate = true) ∧
      tree' = (tree.ensureDirectory (Location.parent output).reverse).1.put place (.file []) := by
  rcases write_cases tree output code with
    ⟨made, fault, hensure, heq⟩ | ⟨made, hensure, ⟨written, fault, hwrite, heq⟩ | ⟨_, -, heq⟩⟩
  · rw [heq] at h
    cases h
    refine .inl ⟨?_, by rw [hensure]⟩
    rintro ⟨place, hok, -⟩
    rw [hensure] at hok
    cases hok
  · rw [heq] at h
    cases h
    rcases Tree.writeText_error hwrite with
      ⟨refusal, hrefused, rfl⟩ | ⟨place, old, stretch, hopen, hencode, rfl⟩
    · refine .inl ⟨?_, by rw [hensure]⟩
      rintro ⟨place, -, old, hopen⟩
      rw [hensure, hrefused] at hopen
      cases hopen
    · refine .inr ⟨place, ⟨by rw [hensure], old, by rw [hensure]; exact hopen⟩, ?_,
        by rw [hensure]⟩
      exact Utf8.encode_isError_iff.mp ⟨stretch, hencode⟩
  · rw [heq] at h
    cases h

/-- At most one file is opened. -/
theorem Opens.unique (hplace : Opens tree output place) (hl : Opens tree output l) :
    l = place := by
  obtain ⟨-, old, hold⟩ := hplace
  obtain ⟨-, other, hother⟩ := hl
  rw [hold] at hother
  cases hother
  rfl

/-- Nothing but directories changes where no file is opened. -/
theorem file_iff_of_not_opens (h : write tree output code = (tree', .error problem))
    (hl : ¬Opens tree output l) (content : Bytes) :
    tree'.node? l = some (.file content) ↔ tree.node? l = some (.file content) := by
  have hadds := Tree.ensureDirectory_adds tree (Location.parent output).reverse
  rcases write_error_cases h with ⟨-, rfl⟩ | ⟨place, hplace, -, rfl⟩
  · exact hadds.file_iff
  · have hne : l ≠ place := fun heq => hl (heq ▸ hplace)
    obtain ⟨-, old, hopen⟩ := hplace
    rw [Tree.node?_put_of_ne (Tree.isLeaf_of_writable hopen).ne_nil hne]
    exact hadds.file_iff

/-- Where a file was opened, code that cannot be encoded leaves an empty file. -/
theorem empty_of_opens (h : write tree output code = (tree', .error problem))
    (hl : Opens tree output l) :
    (∃ c ∈ code, c.isSurrogate = true) ∧ tree'.node? l = some (.file []) := by
  rcases write_error_cases h with ⟨hnone, -⟩ | ⟨place, hplace, hsurrogate, rfl⟩
  · exact absurd ⟨l, hl⟩ hnone
  · obtain rfl := hplace.unique hl
    obtain ⟨-, old, hopen⟩ := hl
    exact ⟨hsurrogate, Tree.node?_put_self (Tree.isLeaf_of_writable hopen).ne_nil⟩

end Write

/-! ## The whole run -/

section Run

variable {config : Config} {service : Service} {earlier : List Request} {tree : Tree}
  {document : Path} {parsed : Document} {target : Target} {request : Request} {code : Text}
  {l : Location}

/-- A run comes to opening the file at a place for code with a surrogate in it. -/
def Spoils (config : Config) (service : Service) (earlier : List Request) (tree : Tree)
    (document : Path) (place : Location) : Prop :=
  ∃ parsed target request code,
    load tree config document = .ok (parsed, target) ∧
    Request.make config parsed.instructions target.language = .ok request ∧
    ((service earlier request).code request document.text target.language).2 = .ok code ∧
    (∃ c ∈ code, c.isSurrogate = true) ∧ Opens tree target.output place

theorem spoils_iff (hload : load tree config document = .ok (parsed, target))
    (hrequest : Request.make config parsed.instructions target.language = .ok request)
    (hcode : ((service earlier request).code request document.text target.language).2 =
      .ok code) :
    Spoils config service earlier tree document l ↔
      (∃ c ∈ code, c.isSurrogate = true) ∧ Opens tree target.output l := by
  constructor
  · rintro ⟨_, _, _, _, hload', hrequest', hcode', hspoils⟩
    rw [hload] at hload'
    cases hload'
    rw [hrequest] at hrequest'
    cases hrequest'
    rw [hcode] at hcode'
    cases hcode'
    exact hspoils
  · intro hspoils
    exact ⟨parsed, target, request, code, hload, hrequest, hcode, hspoils⟩

/-- A run without success decides every place in one of two ways. -/
theorem Course.files {tree' : Tree} {requests : List Request} {result : Except Halt Outcome}
    (hcourse : Course config service earlier tree document tree' requests result)
    (hresult : ∀ output language, result ≠ .ok (.succeeded output language)) (l : Location) :
    (Spoils config service earlier tree document l → tree'.node? l = some (.file [])) ∧
      (¬Spoils config service earlier tree document l → ∀ content,
        tree'.node? l = some (.file content) ↔ tree.node? l = some (.file content)) := by
  cases hcourse with
  | unread hload =>
    refine ⟨?_, fun _ _ => Iff.rfl⟩
    rintro ⟨_, _, _, _, hload', -⟩
    rw [hload] at hload'
    cases hload'
  | unsent hload hrequest =>
    refine ⟨?_, fun _ _ => Iff.rfl⟩
    rintro ⟨_, _, _, _, hload', hrequest', -⟩
    rw [hload] at hload'
    cases hload'
    rw [hrequest] at hrequest'
    cases hrequest'
  | unanswered hload hrequest hcode =>
    refine ⟨?_, fun _ _ => Iff.rfl⟩
    rintro ⟨_, _, _, _, hload', hrequest', hcode', -⟩
    rw [hload] at hload'
    cases hload'
    rw [hrequest] at hrequest'
    cases hrequest'
    rw [hcode] at hcode'
    cases hcode'
  | unwritten hload hrequest hcode hwrite =>
    rw [spoils_iff hload hrequest hcode]
    constructor
    · rintro ⟨-, hopens⟩
      exact (empty_of_opens hwrite hopens).2
    · intro hspoils content
      have hopens : ¬Opens tree _ l :=
        fun hopens => hspoils ⟨(empty_of_opens hwrite hopens).1, hopens⟩
      exact file_iff_of_not_opens hwrite hopens content
  | written => exact absurd rfl (hresult _ _)

/-- After a run that fails, a spoiled file is empty and every other file is as it
was.  So all files are as they were, and no other file is there, if and only if a
file that is spoiled was there and was empty before. -/
theorem failed_run_keeps_files_iff {milliseconds : Nat} {error : Text} {errorCode : Option Text}
    (hfailed : (run config service .silent milliseconds earlier tree document).result =
      .ok (.failed error errorCode)) :
    (∀ place, Spoils config service earlier tree document place →
      (run config service .silent milliseconds earlier tree document).tree.node? place =
        some (.file [])) ∧
    (∀ place, ¬Spoils config service earlier tree document place → ∀ content,
      (run config service .silent milliseconds earlier tree document).tree.node? place =
          some (.file content) ↔ tree.node? place = some (.file content)) ∧
    ((∀ place content,
      (run config service .silent milliseconds earlier tree document).tree.node? place =
          some (.file content) ↔ tree.node? place = some (.file content)) ↔
      ∀ place, Spoils config service earlier tree document place →
        tree.node? place = some (.file [])) := by
  have hfiles := (run_course config service milliseconds earlier tree document).files
    (fun _ _ => by simp [hfailed])
  refine ⟨fun place => (hfiles place).1, fun place => (hfiles place).2, ?_, ?_⟩
  · intro hkept place hspoils
    exact (hkept place []).mp ((hfiles place).1 hspoils)
  · intro hempty place content
    by_cases hspoils : Spoils config service earlier tree document place
    · rw [(hfiles place).1 hspoils, hempty place hspoils]
    · exact (hfiles place).2 hspoils content

end Run

/-! ## A surrogate in the code -/

/-- A document beside the code that an earlier run had made of it. -/
def compiledTree : Tree where
  entries := [(["w"], .directory), (["w", "s.gpt"], .file (sampleOctets "x")),
    (["w", "s.js"], .file (sampleOctets "old"))]
  workingDirectory := ["w"]

/-- The new code starts with half a pair. -/
def surrogateService : Service :=
  sampleService "\x7b\"content\": \"\\udfff\\ud83d\\ude00x\"\x7d"

/-- The document is compiled again. -/
def surrogateRun : Run :=
  run sampleConfig surrogateService .silent 0 [] compiledTree (Path.ofText "s.gpt")

theorem surrogateRun_eq :
    surrogateRun.result = .ok (.failed
        ("UnicodeEncodeError: 'utf-8' codec can't encode character '\\udfff' in position 0: " ++
          "surrogates not allowed")
        (some "INTERNAL_ERROR")) ∧
      surrogateRun.tree.node? ["w", "s.js"] = some (.file []) := by
  decide +kernel

/-- The run fails, and what the earlier run had made is gone. -/
theorem earlier_code_is_lost :
    (∃ error errorCode, surrogateRun.result = .ok (.failed error errorCode)) ∧
      compiledTree.node? ["w", "s.js"] = some (.file (sampleOctets "old")) ∧
      surrogateRun.tree.node? ["w", "s.js"] = some (.file []) :=
  ⟨⟨_, _, surrogateRun_eq.1⟩, by decide +kernel, surrogateRun_eq.2⟩

/-- It is gone because the run came to opening the file for code that cannot be
encoded. -/
theorem earlier_code_is_spoiled :
    (∃ error errorCode, surrogateRun.result = .ok (.failed error errorCode)) ∧
      Spoils sampleConfig surrogateService [] compiledTree (Path.ofText "s.gpt")
        ["w", "s.js"] := by
  obtain ⟨hfailed, hlost⟩ := surrogateRun_eq
  refine ⟨⟨_, _, hfailed⟩, ?_⟩
  by_contra hspoils
  have hkept := (failed_run_keeps_files_iff hfailed).2.1 _ hspoils (sampleOctets "old")
  have hearlier : compiledTree.node? ["w", "s.js"] = some (.file (sampleOctets "old")) := by
    decide +kernel
  have hstill := hlost.symm.trans (hkept.mpr hearlier)
  exact absurd hstill (by decide +kernel)

end ProseCompiler.Pipeline
