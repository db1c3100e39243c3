import Mathlib.Data.List.Forall2
import ProseCompiler.Proofs.Pipeline.Course

/-!
# What the key of the service influences

The key of a configuration goes into the header that carries the credentials, and
nowhere else.  Two runs that differ in the key alone cannot be told apart by anyone
who does not look at that header: `key_shows_in_credentials_only`.

Requests are compared without their credentials, and `make_withKey` says that what is
left is made without the key.  The rest follows a run stage by stage.  A service that
does not look at credentials answers both runs alike, and what becomes of an answer
depends on the address of the request at most (`code_congr`).
-/

namespace ProseCompiler

/-! ## Configurations and requests -/

/-- A configuration with another key. -/
def Config.withKey (config : Config) (key : Text) : Config := { config with apiKey := some key }

/-- A configuration without a key. -/
def Config.keyless (config : Config) : Config := { config with apiKey := none }

/-- What can be used as a key: printable characters of ASCII, one at least. -/
def Config.IsKey (key : Text) : Prop := key ≠ [] ∧ ∀ c ∈ key, 0x20 ≤ c.val ∧ c.val ≤ 0x7E

instance (key : Text) : Decidable (Config.IsKey key) := inferInstanceAs (Decidable (_ ∧ _))

namespace Request

variable {config : Config} {key key' instructions language : Text} {request request' : Request}

/-- The header that carries the credentials. -/
def credentials : Text := "Authorization"

/-- A request as it is seen by those who do not look at the credentials. -/
def withoutCredentials (request : Request) : Request :=
  { request with headers := request.headers.filter fun (name, _) => name ≠ credentials }

theorem headersFor_withKey (hkey : key ≠ []) :
    headersFor (config.withKey key) =
      headersFor config.keyless ++ [(credentials, "Bearer " ++ key)] := by
  obtain ⟨c, rest, rfl⟩ := List.exists_cons_of_ne_nil hkey
  rfl

/-- The first header at fault stands in the first part, or else in the second. -/
theorem headerFault?_append (headers more : List (Text × Text)) :
    headerFault? (headers ++ more) = (headerFault? headers).or (headerFault? more) :=
  List.findSome?_append

/-- A header of ASCII is not at fault. -/
theorem headerFault?_of_ascii {name value : Text} (h : ∀ c ∈ value, c.val < 0x80) :
    headerFault? [(name, value)] = none := by
  have hnone : firstStretch? (fun c => 0x80 ≤ c.val) 0 value = none := by
    rw [firstStretch?_eq_none_iff]
    intro c hc
    simpa using h c hc
  simp [headerFault?, hnone]

/-- A key that can be used keeps no request from being sent. -/
theorem headerFault?_withKey (hkey : Config.IsKey key) :
    headerFault? (headersFor (config.withKey key)) =
      headerFault? (headersFor config.keyless) := by
  have hbearer : headerFault? [(credentials, "Bearer " ++ key)] = none := by
    refine headerFault?_of_ascii fun c hc => ?_
    rcases List.mem_append.mp hc with hc | hc
    · have hall : ∀ c ∈ ("Bearer " : Text), c.val < 0x80 := by decide
      exact hall c hc
    · have hprintable := (hkey.2 c hc).2
      omega
  rw [headersFor_withKey hkey.1, headerFault?_append, hbearer, Option.or_none]

/-- Whatever credentials go with a request, the other headers are those without a key. -/
theorem withCredentials_withKey (url : Url) (hkey : key ≠ []) :
    (withCredentials url (headersFor (config.withKey key))).filter
        (fun (name, _) => name ≠ credentials) =
      (withCredentials url (headersFor config.keyless)).filter
        fun (name, _) => name ≠ credentials := by
  cases hbasic : url.basicAuthorization? with
  | none =>
    have hsent (headers : List (Text × Text)) : withCredentials url headers = headers := by
      rw [withCredentials, hbasic]
    rw [hsent, hsent, headersFor_withKey hkey]
    simp
  | some value =>
    have hsent (headers : List (Text × Text)) : withCredentials url headers =
        (headers.filter fun (name, _) => name ≠ credentials) ++ [(credentials, value)] := by
      rw [withCredentials, hbasic]
      rfl
    rw [hsent, hsent, headersFor_withKey hkey]
    simp

/-- But for the credentials, a request is made without the key. -/
theorem make_withKey (config : Config) (hkey : Config.IsKey key) (instructions language : Text) :
    (make (config.withKey key) instructions language).map withoutCredentials =
      (make config.keyless instructions language).map withoutCredentials := by
  have hurl : (config.withKey key).apiUrl = config.keyless.apiUrl := rfl
  have hpayload : payload (config.withKey key) instructions language =
      payload config.keyless instructions language := rfl
  rw [make, make, hurl, headerFault?_withKey hkey, hpayload]
  cases Url.target config.keyless.apiUrl with
  | error refusal => rfl
  | ok url =>
    cases headerFault? (headersFor config.keyless) with
    | some fault => rfl
    | none =>
      simp only
      split
      · rfl
      · have hheaders := @withCredentials_withKey config key url hkey.1
        simp only [Except.map, withoutCredentials, hheaders]

end Request

/-- A service that does not look at credentials, neither now nor in earlier requests. -/
def Service.IgnoresCredentials (service : Service) : Prop :=
  ∀ {earlier earlier' request request'},
    earlier.map Request.withoutCredentials = earlier'.map Request.withoutCredentials →
    request.withoutCredentials = request'.withoutCredentials →
    service earlier request = service earlier' request'

/-- Of a request, what becomes of an answer depends on the address alone. -/
theorem Answer.code_congr {request request' : Request} (hurl : request.url = request'.url)
    (answer : Answer) (document language : Text) :
    answer.code request document language = answer.code request' document language := by
  have hvalue : answer.value request = answer.value request' := by
    cases answer with
    | response status headers body text =>
      rw [value, value, addressProblem?, addressProblem?, hurl]
    | _ => rfl
  rw [code, code, hvalue]

/-! ## Journals -/

/-- Two entries say the same, but for how long a success took. -/
inductive Entry.SameButDuration : Entry → Entry → Prop
  | same (entry : Entry) : SameButDuration entry entry
  | success (document : Path) (target : Target) (milliseconds milliseconds' : Nat) :
      SameButDuration (Pipeline.success document target milliseconds)
        (Pipeline.success document target milliseconds')

/-- Two journals say the same, but for how long things took. -/
def Journal.SameButDuration (journal journal' : Journal) : Prop :=
  List.Forall₂ Entry.SameButDuration journal journal'

theorem Journal.SameButDuration.refl (journal : Journal) : SameButDuration journal journal :=
  List.forall₂_same.mpr fun entry _ => .same entry

/-- An observer that does to the tree what it does, however long things took. -/
def Pipeline.Observer.IgnoresDuration (observer : Observer) : Prop :=
  ∀ {entry entry' : Entry} (tree : Tree), entry.SameButDuration entry' →
    observer entry tree = observer entry' tree

namespace Pipeline

variable {config : Config} {service : Service} {observer : Observer}
  {milliseconds milliseconds' : Nat} {key key' : Text}

/-! ## The two parts of a run -/

/-- A document that waits, but for the credentials of its request. -/
def Pending.withoutCredentials (pending : Pending) : Pending :=
  { pending with request := pending.request.withoutCredentials }

/-- How far a document has come, but for the credentials of its request. -/
def Start.withoutCredentials : Start → Start
  | .waiting pending => .waiting pending.withoutCredentials
  | .done outcome => .done outcome

/-- Starts that are the same but for credentials end alike, or both come to a request. -/
theorem start_cases {started started' : Except Halt Start}
    (h : started.map Start.withoutCredentials = started'.map Start.withoutCredentials) :
    (∃ halt, started = .error halt ∧ started' = .error halt) ∨
    (∃ outcome, started = .ok (.done outcome) ∧ started' = .ok (.done outcome)) ∨
    ∃ pending pending', started = .ok (.waiting pending) ∧ started' = .ok (.waiting pending') ∧
      pending.withoutCredentials = pending'.withoutCredentials := by
  rcases started with halt | outcome | pending <;>
    rcases started' with halt' | outcome' | pending' <;>
    simp_all [Except.map, Start.withoutCredentials]

/-- Before the request is sent, the key shows in the credentials at most. -/
theorem start_withKey (config : Config) (observer : Observer) (tree : Tree) (document : Path)
    (hkey : Config.IsKey key) :
    (start (config.withKey key) observer tree document).tree =
        (start config.keyless observer tree document).tree ∧
      (start (config.withKey key) observer tree document).journal =
        (start config.keyless observer tree document).journal ∧
      (start (config.withKey key) observer tree document).result.map Start.withoutCredentials =
        (start config.keyless observer tree document).result.map Start.withoutCredentials := by
  have hload : load (observer (processing document) tree) (config.withKey key) document =
      load (observer (processing document) tree) config.keyless document := rfl
  have hannounced : Answer.announcement (config.withKey key) =
      Answer.announcement config.keyless := rfl
  rw [start, start, hload, hannounced]
  cases load (observer (processing document) tree) config.keyless document with
  | error problem => exact ⟨rfl, rfl, rfl⟩
  | ok loaded =>
    obtain ⟨parsed, target⟩ := loaded
    have hmake := Request.make_withKey config hkey parsed.instructions target.language
    cases hwith : Request.make (config.withKey key) parsed.instructions target.language with
    | error fault =>
      cases hwithout : Request.make config.keyless parsed.instructions target.language with
      | error fault' =>
        simp only [hwith, hwithout, Except.map, Except.error.injEq] at hmake
        simp only [hwith, hwithout, hmake, and_self]
      | ok request => simp [hwith, hwithout, Except.map] at hmake
    | ok request =>
      cases hwithout : Request.make config.keyless parsed.instructions target.language with
      | error fault => simp [hwith, hwithout, Except.map] at hmake
      | ok request' =>
        simp only [hwith, hwithout, Except.map, Except.ok.injEq] at hmake
        simp only [hwith, hwithout, Except.map, Start.withoutCredentials,
          Pending.withoutCredentials, hmake, and_self]

/-- Equal answers to requests that differ in their credentials at most come to the same,
but for how long a success is said to have taken. -/
theorem finish_withoutCredentials {pending pending' : Pending}
    (hpending : pending.withoutCredentials = pending'.withoutCredentials)
    (hduration : milliseconds = milliseconds' ∨ observer.IgnoresDuration)
    (tree : Tree) (answer : Answer) :
    (finish observer milliseconds tree pending answer).tree =
        (finish observer milliseconds' tree pending' answer).tree ∧
      Journal.SameButDuration (finish observer milliseconds tree pending answer).journal
        (finish observer milliseconds' tree pending' answer).journal ∧
      (finish observer milliseconds tree pending answer).result =
        (finish observer milliseconds' tree pending' answer).result := by
  obtain ⟨document, target, request⟩ := pending
  obtain ⟨document', target', request'⟩ := pending'
  simp only [Pending.withoutCredentials, Pending.mk.injEq] at hpending
  obtain ⟨rfl, rfl, hrequest⟩ := hpending
  have hurl : request.url = request'.url := (Request.mk.injEq .. ▸ hrequest).1
  have hcode := Answer.code_congr hurl answer document.text target.language
  simp only [finish, hcode]
  rcases answer.code request' document.text target.language with ⟨journal, problem | code⟩
  · exact ⟨rfl, .refl _, rfl⟩
  · simp only
    rcases hwrite : write (observed observer tree journal) target.output code with
      ⟨written, problem | _⟩
    · exact ⟨rfl, .refl _, rfl⟩
    · have hsuccess := Entry.SameButDuration.success document target milliseconds milliseconds'
      refine ⟨?_, List.rel_append (Journal.SameButDuration.refl journal) (.cons hsuccess .nil), rfl⟩
      rcases hduration with rfl | hduration
      · rfl
      · exact hduration written hsuccess

/-! ## The whole -/

/-- Two runs with different keys come to the same result and leave the same tree.  Their
journals say the same but for how long a success took, and their requests differ in the
credentials at most.  The service must not look at credentials, and what the observer
writes may depend on the duration only if that is the same. -/
theorem key_shows_in_credentials_only {earlier earlier' : List Request}
    (hkey : Config.IsKey key) (hkey' : Config.IsKey key')
    (hservice : service.IgnoresCredentials)
    (hearlier : earlier.map Request.withoutCredentials = earlier'.map Request.withoutCredentials)
    (hduration : milliseconds = milliseconds' ∨ observer.IgnoresDuration)
    (tree : Tree) (document : Path) :
    let first := run (config.withKey key) service observer milliseconds earlier tree document
    let second := run (config.withKey key') service observer milliseconds' earlier' tree document
    first.result = second.result ∧ first.tree = second.tree ∧
      Journal.SameButDuration first.journal second.journal ∧
      first.requests.map Request.withoutCredentials =
        second.requests.map Request.withoutCredentials := by
  obtain ⟨htree, hjournal, hresult⟩ := start_withKey config observer tree document hkey
  obtain ⟨htree', hjournal', hresult'⟩ := start_withKey config observer tree document hkey'
  simp only [run, htree.trans htree'.symm, hjournal.trans hjournal'.symm]
  rcases start_cases (hresult.trans hresult'.symm) with
    ⟨halt, hfirst, hsecond⟩ | ⟨outcome, hfirst, hsecond⟩ |
    ⟨pending, pending', hfirst, hsecond, hpending⟩
  · rw [hfirst, hsecond]
    exact ⟨rfl, rfl, .refl _, rfl⟩
  · rw [hfirst, hsecond]
    exact ⟨rfl, rfl, .refl _, rfl⟩
  · have hrequest : pending.request.withoutCredentials = pending'.request.withoutCredentials :=
      congrArg Pending.request hpending
    have hanswer := hservice hearlier hrequest
    obtain ⟨hfinal, hlater, houtcome⟩ := finish_withoutCredentials hpending hduration
      (start (config.withKey key') observer tree document).tree
      (service earlier' pending'.request)
    rw [hfirst, hsecond]
    simp only [hanswer]
    refine ⟨houtcome, hfinal, List.rel_append (Journal.SameButDuration.refl _) hlater, ?_⟩
    exact congrArg (fun request => [request]) hrequest

/-! ## Two keys -/

/-- The address and the headers of a request. -/
def echo (request : Request) : Text :=
  request.headers.foldl (fun t (name, value) => t ++ " " ++ name ++ "=" ++ value) request.url

/-- A service that answers with the address and the other headers of the request. -/
def echoService : Service := fun _ request =>
  .response 200 []
    (sampleOctets ("\x7b\"content\": \"" ++ echo request.withoutCredentials ++ "\"\x7d"))

theorem echoService_ignoresCredentials : echoService.IgnoresCredentials := by
  intro earlier earlier' request request' _ hrequest
  rw [echoService, echoService, hrequest]

/-- A document beside nothing else. -/
def echoTree : Tree where
  entries := [(["w"], .directory), (["w", "s.gpt"], .file (sampleOctets "x"))]
  workingDirectory := ["w"]

/-- The document is compiled with a key. -/
def echoRun (key : Text) (milliseconds : Nat) : Run :=
  run (sampleConfig.withKey key) echoService .silent milliseconds [] echoTree (Path.ofText "s.gpt")

/-- With two keys the requests are not the same, but for the credentials they are, and so
is the code that the service makes of them. -/
theorem two_keys_make_one_code :
    (echoRun "first" 3).result = .ok (.succeeded "/w/s.js" "javascript") ∧
      (echoRun "first" 3).requests ≠ (echoRun "second" 5).requests ∧
      (echoRun "first" 3).requests.map Request.withoutCredentials =
        (echoRun "second" 5).requests.map Request.withoutCredentials ∧
      (echoRun "first" 3).tree = (echoRun "second" 5).tree := by
  obtain ⟨-, htree, -, hrequests⟩ :=
    @key_shows_in_credentials_only sampleConfig echoService .silent 3 5 "first" "second" [] []
      (by decide) (by decide) echoService_ignoresCredentials rfl (.inr fun _ _ => rfl) echoTree
      (Path.ofText "s.gpt")
  exact ⟨by decide +kernel, by decide +kernel, hrequests, htree⟩

end Pipeline

end ProseCompiler
