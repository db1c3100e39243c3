import ProseCompiler.Proofs.CommandLine.ExitStatus
import ProseCompiler.Proofs.CommandLine.Keeping
import ProseCompiler.Proofs.Config.Soundness
import ProseCompiler.Proofs.Pipeline.Transmission
import ProseCompiler.Service.Cookies

/-!
# What is sent under a configuration

A session that compiles or watches sends only what its configuration says, and nothing at all
under one that is not accepted.  Both are properties of sessions that the work keeps: that all
requests are made from the configuration (`keptByWork_asks`), and, where the configuration is
refused, that nothing was touched (`keptByWork_idle`).
-/

namespace ProseCompiler

/-! ## Requests that are made from a configuration -/

/-- The address of a configuration carries no credentials of its own. -/
def Config.HasPlainAddress (config : Config) : Prop :=
  ∀ url, Url.target config.apiUrl = .ok url → url.basicAuthorization? = none

namespace Request

variable {config : Config} {request : Request}

/-- A request is one that some document makes under a configuration. -/
def IsFrom (config : Config) (request : Request) : Prop :=
  ∃ instructions language, make config instructions language = .ok request

/-- A request goes to the address of a configuration, names its model, and carries its key and no
other credentials. -/
structure IsUnder (config : Config) (request : Request) : Prop where
  address : ∃ url, Url.target config.apiUrl = .ok url ∧ request.url = url.text
  model : ∃ instructions language,
    Json.read request.body = .ok (payload config instructions language)
  key : ∃ key, config.apiKey = some key ∧
    ∀ value, (("Authorization" : Text), value) ∈ request.headers ↔ value = "Bearer " ++ key

/-- A document that waits for the service has made its request. -/
theorem IsFrom.of_waiting {observer : Pipeline.Observer} {tree : Tree} {document : Path}
    {pending : Pipeline.Pending}
    (h : (Pipeline.start config observer tree document).result = .ok (.waiting pending)) :
    pending.request.IsFrom config := by
  obtain ⟨parsed, -, hmake⟩ := Pipeline.made_of_waiting h
  exact ⟨parsed.instructions, pending.target.language, hmake⟩

theorem IsFrom.isUnder (h : request.IsFrom config)
    (hkey : ∃ key, config.apiKey = some key ∧ key ≠ []) (hplain : config.HasPlainAddress) :
    request.IsUnder config := by
  obtain ⟨instructions, language, hmake⟩ := h
  obtain ⟨key, hkey, hne⟩ := hkey
  obtain ⟨url, -, hurl, htext, hheaders, -, -⟩ := parts_of_make hmake
  have hsent : request.headers = headersFor config := by
    rw [hheaders, withCredentials, hplain url hurl]
  refine ⟨⟨url, hurl, htext⟩, ⟨instructions, language, read_body_of_make hmake⟩, key, hkey,
    fun value => ?_⟩
  obtain ⟨c, rest, rfl⟩ := List.exists_cons_of_ne_nil hne
  rw [hsent, headersFor, bearer, hkey]
  simp

/-- Cookies change nothing of what a configuration says about a request. -/
theorem IsUnder.withCookies (h : request.IsUnder config) (cookies : Option Text) :
    (request.withCookies cookies).IsUnder config := by
  cases cookies with
  | none => exact h
  | some cookies =>
    obtain ⟨key, hkey, hheaders⟩ := h.key
    refine ⟨h.address, h.model, key, hkey, fun value => ?_⟩
    have hnames : ("Authorization" : Text) ≠ "Cookie" := by decide
    have hother : (("Authorization" : Text), value) ≠ (("Cookie" : Text), cookies) :=
      fun heq => hnames (congrArg Prod.fst heq)
    rw [← hheaders, Request.withCookies, List.mem_append, List.mem_singleton, or_iff_left hother]

end Request

namespace Session

variable {surroundings : Surroundings} {config : Config} {tree : Tree}

/-- All requests of a session are made from a configuration. -/
def Asks (config : Config) (session : Session) : Prop :=
  ∀ request ∈ session.requests, request.IsFrom config

/-- A session is idle that has done nothing but printing: its tree is that at the start, nothing
was sent, and no client was opened. -/
structure IsIdle (start : Tree) (session : Session) : Prop where
  tree : session.tree = start
  requests : session.requests = []
  clients : session.clients = []

theorem keptByWork_idle (start : Tree) (hrefused : config.validate ≠ .ok ()) :
    Program.KeptByWork surroundings config (IsIdle start) where
  print _ _ h := ⟨h.tree, h.requests, h.clients⟩
  process hvalid := absurd hvalid hrefused
  openClient hvalid := absurd hvalid hrefused
  note hvalid := absurd hvalid hrefused
  beginRun hvalid := absurd hvalid hrefused
  endRun hvalid := absurd hvalid hrefused
  edit hvalid := absurd hvalid hrefused

/-- Every request of the work is made from the configuration. -/
theorem keptByWork_asks (surroundings : Surroundings) (config : Config) :
    Program.KeptByWork surroundings config (Asks config) where
  print _ _ h := h
  process _ document := by
    rw [Program.process]
    refine .get_bind fun session h => Program.Keeps.set_bind (fun request hrequest => ?_) ?_ session
    · rcases List.mem_append.mp hrequest with hearlier | hnew
      · exact h request hearlier
      · obtain ⟨pending, hstart, rfl⟩ := Pipeline.waiting_of_request hnew
        exact Request.IsFrom.of_waiting hstart
    · split
      · exact .pure _
      · exact .throw _
  openClient _ _ h := h
  note _ _ _ h := h
  beginRun _ watching run := by
    rw [Program.beginRun]
    refine .get_bind fun session h => ?_
    dsimp only
    split
    · refine Program.Keeps.set_bind ?_ ?_ session
      · exact h
      · exact .throw _
    · refine Program.Keeps.set_bind ?_ ?_ session
      · exact h
      · exact .pure _
    · next pending hstart =>
      refine Program.Keeps.set_bind (fun request hrequest => ?_) (.pure _) session
      rcases List.mem_append.mp hrequest with hearlier | hnew
      · exact h request hearlier
      · rw [List.mem_singleton.mp hnew]
        exact Request.IsFrom.of_waiting hstart
  endRun _ run := by
    cases run with
    | done run outcome => exact .pure _
    | waiting run pending answer =>
      rw [Program.endRun]
      refine .get_bind fun session h => ?_
      dsimp only
      refine Program.Keeps.set_bind ?_ ?_ session
      · exact h
      · split
        · exact .pure _
        · exact .pure _
        · exact .throw _
  edit _ _ _ h := h

/-! ## The end of a session -/

section AtEnd

variable {arguments : List Text} {invocation : Invocation} {c : Command}
  (hparse : Invocation.parse arguments = .ok invocation)
  (hcommand : invocation.command = some c)
include hparse hcommand

theorem idle_of_unread {problem : Problem}
    (hconfig : invocation.configuration surroundings.environment tree surroundings.program =
      .error problem) :
    (run surroundings tree arguments).2.IsIdle tree := by
  rw [run_eq hparse hcommand]
  exact Program.holds_at_end_of_error hconfig (fun _ _ h => ⟨h.tree, h.requests, h.clients⟩) c
    ⟨rfl, rfl, rfl⟩

variable (hcompiles : Program.Compiles c)
  (hconfig : invocation.configuration surroundings.environment tree surroundings.program =
    .ok config)
include hcompiles hconfig

theorem asks_at_end : (run surroundings tree arguments).2.Asks config := by
  rw [run_eq hparse hcommand]
  exact Program.holds_at_end hconfig hcompiles (keptByWork_asks surroundings config)
    (nofun : Asks config (begun _))

theorem idle_of_refused (hrefused : config.validate ≠ .ok ()) :
    (run surroundings tree arguments).2.IsIdle
      (Program.openedLogbook surroundings config tree).tree := by
  rw [run_eq hparse hcommand]
  exact Program.holds_at_end hconfig hcompiles (keptByWork_idle _ hrefused) ⟨rfl, rfl, rfl⟩

/-- Whatever is sent, and whatever client is opened, the configuration was accepted. -/
theorem accepted_of_sent (hsent : (run surroundings tree arguments).2.clients ≠ [] ∨
      (run surroundings tree arguments).2.requests ≠ []) :
    config.validate = .ok () := by
  by_contra hrefused
  have hidle := idle_of_refused hparse hcommand hcompiles hconfig hrefused
  rcases hsent with hclients | hrequests
  · exact hclients hidle.clients
  · exact hrequests hidle.requests

end AtEnd

variable {arguments : List Text} {invocation : Invocation} {c : Command}

/-- What sessions that compile or watch send, and when they send nothing, whatever happens while
they watch.

* Without a configuration nothing is touched, and under one that is out of range nothing but the
  log file; an undefined timeout does not count as out of range here.
* Every request goes to the address of the configuration with its model and its key, if the
  address has no credentials of its own, whatever cookies go with it.
* If the timeout is a number, a client is opened or a request sent under a sound configuration
  only, and otherwise nothing but the log file is touched. -/
theorem sends_as_configured (surroundings : Surroundings) (tree : Tree)
    (hparse : Invocation.parse arguments = .ok invocation)
    (hcommand : invocation.command = some c) (hcompiles : Program.Compiles c) :
    (∀ problem,
      invocation.configuration surroundings.environment tree surroundings.program =
          .error problem →
        (run surroundings tree arguments).2.IsIdle tree) ∧
    ∀ config, invocation.configuration surroundings.environment tree surroundings.program =
        .ok config →
      (¬config.InRange (fun x => x.isNan = true ∨ x.IsPositive) →
        (run surroundings tree arguments).2.IsIdle
          (Program.openedLogbook surroundings config tree).tree) ∧
      (config.HasPlainAddress →
        ∀ request ∈ (run surroundings tree arguments).2.requests, ∀ cookies,
          (request.withCookies cookies).IsUnder config) ∧
      (config.HasDefinedTimeout →
        ((run surroundings tree arguments).2.clients ≠ [] ∨
            (run surroundings tree arguments).2.requests ≠ [] → config.IsSound) ∧
        (¬config.IsSound → (run surroundings tree arguments).2.IsIdle
          (Program.openedLogbook surroundings config tree).tree)) := by
  refine ⟨fun problem hconfig => idle_of_unread hparse hcommand hconfig,
    fun config hconfig => ⟨fun hout => ?_, fun hplain request hrequest cookies => ?_,
      fun hdefined => ?_⟩⟩
  · refine idle_of_refused hparse hcommand hcompiles hconfig fun hvalid => ?_
    exact hout (Config.validate_eq_ok_iff.mp hvalid)
  · have hfrom := asks_at_end hparse hcommand hcompiles hconfig request hrequest
    have hvalid := accepted_of_sent hparse hcommand hcompiles hconfig
      (.inr (List.ne_nil_of_mem hrequest))
    have hunder := hfrom.isUnder (Config.validate_eq_ok_iff.mp hvalid).key hplain
    exact hunder.withCookies cookies
  · have hsound := Config.isSound_iff_of_defined hdefined
    refine ⟨fun hsent => ?_, fun hunsound => ?_⟩
    · exact hsound.mpr (accepted_of_sent hparse hcommand hcompiles hconfig hsent)
    · refine idle_of_refused hparse hcommand hcompiles hconfig fun hvalid => ?_
      exact hunsound (hsound.mpr hvalid)

/-- A session has sent what a run of the pipeline sends, over a client that was opened if the
service was to be asked. -/
def HasSent (config : Config) (run : Pipeline.Run) (session : Session) : Prop :=
  session.requests = run.requests ∧
    session.clients = if Program.Asked run then [config.requestTimeout] else []

/-- What a session sends that compiles a document under an accepted configuration, as long as the
document can be announced. -/
theorem sent_by_compilation {file : Text} {step : Logbook.Step} {document : Location}
    (hparse : Invocation.parse arguments = .ok invocation)
    (hcommand : invocation.command = some (.compile file))
    (hfinds : Finds surroundings tree invocation file config step document)
    (hextension : Text.endsWith (Location.name document) config.documentExtension = true)
    (hvalid : config.validate = .ok ())
    (hshown : (CompileLine.announcement document).IsShown surroundings.console) :
    (run surroundings tree arguments).2.HasSent config
      (compilation surroundings config step document) := by
  obtain ⟨shown, hshown⟩ := hshown
  have hprint : ∀ session t,
      HasSent config (compilation surroundings config step document) session →
        HasSent config (compilation surroundings config step document) (session.print t) :=
    fun _ _ h => h
  have hprocess (t : Text) : HasSent config (compilation surroundings config step document)
      (Program.result (Program.process surroundings config document) ((begun step).print t)).2 := by
    rw [Program.process, Program.result_bind, Program.result_get]
    refine Program.Keeps.set_bind ⟨rfl, rfl⟩ ?_ _
    split
    · exact .pure _
    · exact .throw _
  rw [run_eq hparse hcommand]
  refine Program.holds_tryCatch ?_ (Program.keeps_recover hprint _)
  rw [Program.result_perform_of_begins hfinds.toBegins, Program.command,
    Program.result_compile_found hfinds, Program.compileFound, if_pos hextension,
    Program.compileChecked, Program.result_bind, Program.result_require, hvalid]
  simp only [Except.mapError]
  rw [Program.result_bind, Program.result_say, hshown]
  refine Program.holds_bind (hprocess _) fun outcome => ?_
  exact (Program.Keeps.say hprint _ _).bind fun _ => .pure _

/-! ## A document that is sent, and a timeout that is no number -/

theorem greeting_announced :
    (CompileLine.announcement ["w", "hello.gpt"]).IsShown Console.plain := by
  apply CompileLine.isShown_of_ordinary Console.plain_followsMarkup
  decide

/-- With a key, a document is sent as the configuration says. -/
theorem greeting_is_sent_as_configured :
    Invocation.parse ["compile", "hello.gpt"] = .ok greetingInvocation ∧
      greetingInvocation.configuration (greetingSurroundings workingService).environment
        greetingTree = .ok greetingConfig ∧
      (run (greetingSurroundings workingService) greetingTree ["compile", "hello.gpt"]).2.requests
        ≠ [] ∧
      greetingConfig.IsSound ∧
      ∀ request ∈ (run (greetingSurroundings workingService) greetingTree
        ["compile", "hello.gpt"]).2.requests, request.IsUnder greetingConfig := by
  have hparse : Invocation.parse ["compile", "hello.gpt"] = .ok greetingInvocation := by rfl
  have hfinds := greeting_finds workingService
  obtain ⟨hrequests, -⟩ := sent_by_compilation hparse rfl hfinds (by decide +kernel) (by rfl)
    greeting_announced
  have hsent : (run (greetingSurroundings workingService) greetingTree
      ["compile", "hello.gpt"]).2.requests ≠ [] := by
    rw [hrequests]
    decide +kernel
  have hplain : greetingConfig.HasPlainAddress := by
    have htarget : (Url.target greetingConfig.apiUrl).map Url.basicAuthorization? = .ok none := by
      decide +kernel
    intro url hurl
    rw [hurl] at htarget
    exact Except.ok.inj htarget
  have hdefined : greetingConfig.HasDefinedTimeout := by
    rintro x ⟨⟩
    decide +kernel
  obtain ⟨-, htells⟩ := sends_as_configured (greetingSurroundings workingService) greetingTree
    hparse rfl trivial
  obtain ⟨-, hunder, hsound⟩ := htells greetingConfig hfinds.configured
  exact ⟨hparse, hfinds.configured, hsent, (hsound hdefined).1 (.inr hsent),
    fun request hrequest => hunder hplain request hrequest none⟩

/-- The surroundings of somebody who has a key, and gives no number for the timeout. -/
def undefinedSurroundings : Surroundings :=
  { greetingSurroundings workingService with
    environment := [("OPENROUTER_API_KEY", "test-key"), ("GPT_COMPILER_TIMEOUT", "nan")] }

/-- Their configuration. -/
def undefinedConfig : Config :=
  { greetingConfig with requestTimeout := some ⟨0x7ff8000000000000⟩ }

theorem undefinedConfig_not_isSound : ¬undefinedConfig.IsSound := by
  intro hsound
  have hdefined := Config.IsSound.hasDefinedTimeout hsound _ rfl
  revert hdefined
  decide +kernel

/-- An undefined timeout passes the check, so that a document is sent under it. -/
theorem undefined_timeout_is_sent_under :
    Invocation.parse ["compile", "hello.gpt"] = .ok greetingInvocation ∧
      greetingInvocation.configuration undefinedSurroundings.environment greetingTree =
        .ok undefinedConfig ∧
      ¬undefinedConfig.IsSound ∧
      (run undefinedSurroundings greetingTree ["compile", "hello.gpt"]).2.clients ≠ [] ∧
      (run undefinedSurroundings greetingTree ["compile", "hello.gpt"]).2.requests ≠ [] := by
  have hparse : Invocation.parse ["compile", "hello.gpt"] = .ok greetingInvocation := by rfl
  have hfinds : Finds undefinedSurroundings greetingTree greetingInvocation "hello.gpt"
      undefinedConfig greetingStep ["w", "hello.gpt"] := {
    configured := by rfl
    opened := rfl
    undisturbed := by decide +kernel
    resolved := by decide +kernel
    present := by decide +kernel }
  obtain ⟨hrequests, hclients⟩ := sent_by_compilation hparse rfl hfinds (by decide +kernel)
    (by rfl) greeting_announced
  have hrun : Program.Asked (compilation undefinedSurroundings undefinedConfig greetingStep
        ["w", "hello.gpt"]) ∧
      (compilation undefinedSurroundings undefinedConfig greetingStep
        ["w", "hello.gpt"]).requests ≠ [] := by decide +kernel
  rw [hrequests, hclients, if_pos hrun.1]
  exact ⟨hparse, hfinds.configured, undefinedConfig_not_isSound, List.cons_ne_nil _ _, hrun.2⟩

end Session

end ProseCompiler
