import ProseCompiler.Proofs.Encoding.Utf8
import ProseCompiler.Proofs.Json.RoundTrip
import ProseCompiler.Proofs.Pipeline.Course

/-!
# What the service is told

The service decodes the octets of a body as UTF-8 and reads them as JSON.  What it
finds is what was to be asked: the model, the prompt for the target language, and
the instructions of the document, code point by code point.

The way there and back is `Utf8.decode_of_encode` around `Json.readWithin_write`.  The
instructions and the language may hold anything that a document can hold; a body
with a surrogate is never sent.
-/

namespace ProseCompiler

namespace Request

variable {config : Config} {instructions language : Text} {request : Request}

/-- The names in a request are distinct, and three levels hold all of it. -/
theorem payload_plain (config : Config) (instructions language : Text) (depth : Nat) :
    Json.Plain Json.compact.Spells (depth + 3) (payload config instructions language) := by
  have hmessage (role content : Text) :
      Json.Plain Json.compact.Spells (depth + 1) (chatMessage role content) := by
    have hdistinct : List.Nodup [("role" : Text), "content"] := by decide
    refine .object (fun field _ => Json.compact_spells field.1) hdistinct ?_
    simp only [List.forall_mem_cons]
    exact ⟨.text (Json.compact_spells _), .text (Json.compact_spells _), by simp⟩
  have hdistinct : List.Nodup [("model" : Text), "messages"] := by decide
  refine .object (fun field _ => Json.compact_spells field.1) hdistinct ?_
  simp only [List.forall_mem_cons]
  refine ⟨.text (Json.compact_spells _), .array ?_, by simp⟩
  simp only [List.forall_mem_cons]
  exact ⟨hmessage _ _, hmessage _ _, by simp⟩

/-- What a request is made of: the address of the configuration, its headers, and a body with
octets that says what is asked. -/
theorem parts_of_make (h : make config instructions language = .ok request) :
    ∃ url octets, Url.target config.apiUrl = .ok url ∧ request.url = url.text ∧
      request.headers = withCredentials url (headersFor config) ∧
      Utf8.encode request.body = .ok octets ∧
      request.body = Json.write Json.compact (payload config instructions language) := by
  rw [make] at h
  split at h
  · cases h
  · next url hurl =>
    split at h
    · cases h
    · simp only at h
      split at h
      · cases h
      · next octets hencode =>
        cases h
        exact ⟨url, octets, hurl, rfl, rfl, hencode, rfl⟩

/-- What is asked can be read off the body. -/
theorem read_body_of_make (h : make config instructions language = .ok request) :
    Json.read request.body = .ok (payload config instructions language) := by
  obtain ⟨-, -, -, -, -, -, hbody⟩ := parts_of_make h
  rw [hbody, ← Json.readWithin_depthLimit]
  exact Json.readWithin_write Json.compact_legible (payload_plain config instructions language 967)

/-- What is asked can be read off the octets of the body. -/
theorem read_of_make (h : make config instructions language = .ok request) :
    ∃ octets body, Utf8.encode request.body = .ok octets ∧ Utf8.decode octets = .ok body ∧
      Json.read body = .ok (payload config instructions language) := by
  obtain ⟨-, octets, -, -, -, hencode, -⟩ := parts_of_make h
  exact ⟨octets, request.body, hencode, Utf8.decode_of_encode hencode, read_body_of_make h⟩

end Request

/-- The text of a file is that of its octets, with every line end a line feed. -/
theorem Tree.decode_of_readText {tree : Tree} {path text : Text}
    (h : tree.readText path = .ok text) :
    ∃ content raw, tree.readFile path = .ok content ∧ Utf8.decode content = .ok raw ∧
      text = Text.unifyNewlines raw := by
  rw [readText] at h
  split at h
  · cases h
  · next content hfile =>
    split at h
    · cases h
    · next raw hdecode =>
      cases h
      exact ⟨content, raw, hfile, hdecode, rfl⟩

namespace Pipeline

variable {config : Config} {service : Service} {observer : Observer} {milliseconds : Nat}
  {earlier : List Request} {tree : Tree} {document : Path} {request : Request}

/-- A document that waits for the service was loaded, and its request was made from
its instructions and its language. -/
theorem made_of_waiting {pending : Pending}
    (h : (start config observer tree document).result = .ok (.waiting pending)) :
    ∃ parsed, load (observer (processing document) tree) config document =
        .ok (parsed, pending.target) ∧
      Request.make config parsed.instructions pending.target.language = .ok pending.request := by
  have hdone (result : Except Halt Outcome) :
      result.map Start.done ≠ .ok (.waiting pending) := by
    cases result <;> simp [Except.map]
  rw [start] at h
  simp only at h
  split at h
  · exact (hdone _ h).elim
  · next parsed target hload =>
    split at h
    · simp only at h
      exact (hdone _ h).elim
    · next request hrequest =>
      cases h
      exact ⟨parsed, hload, hrequest⟩

/-- Only the request of a document that waits is ever sent. -/
theorem waiting_of_request
    (h : request ∈ (run config service observer milliseconds earlier tree document).requests) :
    ∃ pending, (start config observer tree document).result = .ok (.waiting pending) ∧
      request = pending.request := by
  rw [run] at h
  simp only at h
  split at h
  · cases h
  · cases h
  · next pending hstart => exact ⟨pending, hstart, List.mem_singleton.mp h⟩

/-- Whatever a run sends, the service can read it as UTF-8 and as JSON, and finds
the model of the configuration, the prompt with the document's language in it, and
the instructions of the document as it stands in its file. -/
theorem request_tells_instructions
    (h : request ∈ (run config service observer milliseconds earlier tree document).requests) :
    ∃ content raw target octets body,
      (observer (processing document) tree).readFile document.text = .ok content ∧
      Utf8.decode content = .ok raw ∧
      Target.resolve (observer (processing document) tree)
        (Document.parse (Text.unifyNewlines raw)) document config.defaultLanguage = .ok target ∧
      Utf8.encode request.body = .ok octets ∧ Utf8.decode octets = .ok body ∧
      Json.read body = .ok (.object
        [("model", .text config.model),
         ("messages", .array
           [.object
              [("role", .text "system"),
               ("content", .text
                 ("You are an expert programmer specializing in " ++ target.language ++
                   ".\nYour task is to convert English instructions into well-structured, efficient,\n" ++
                   "and commented " ++ target.language ++
                   " code.\nOnly respond with the code - no explanations, no markdown formatting."))],
            .object
              [("role", .text "user"),
               ("content", .text (Document.parse (Text.unifyNewlines raw)).instructions)]])]) := by
  obtain ⟨pending, hstart, rfl⟩ := waiting_of_request h
  obtain ⟨parsed, hload, hmake⟩ := made_of_waiting hstart
  obtain ⟨text, htext, rfl, hresolve⟩ := resolved_of_load hload
  obtain ⟨content, raw, hfile, hdecode, rfl⟩ := Tree.decode_of_readText htext
  obtain ⟨octets, body, hencode, hbody, hread⟩ := Request.read_of_make hmake
  exact ⟨content, raw, pending.target, octets, body, hfile, hdecode, hresolve, hencode, hbody,
    hread⟩

/-! ## A document with marks in it -/

/-- A text with quotes, backslashes, braces, control characters, both kinds of line
ends, and code points of every length. -/
def markedText : Text :=
  "@language: \"C\\\x7b\n\nSay \"a\\b\" \x7b\x7d \x01\t\x7f é✓😀\r\nnow\r"

def markedTree : Tree where
  entries := [(["w"], .directory), (["w", "s.gpt"], .file (sampleOctets markedText))]
  workingDirectory := ["w"]

def markedRun : Run :=
  run sampleConfig (sampleService "\x7b\"content\": \"x\"\x7d") .silent 0 [] markedTree
    (Path.ofText "s.gpt")

/-- The service reads the instructions as they stand below the header, but for the
line ends. -/
theorem marked_instructions_are_told :
    ∃ request octets body prompt, markedRun.requests = [request] ∧
      Utf8.encode request.body = .ok octets ∧ Utf8.decode octets = .ok body ∧
      Json.read body = .ok (.object
        [("model", .text "test/model"),
         ("messages", .array
           [.object [("role", .text "system"), ("content", .text prompt)],
            .object
              [("role", .text "user"),
               ("content", .text "Say \"a\\b\" \x7b\x7d \x01\t\x7f é✓😀\nnow\n")]])]) := by
  have hone : markedRun.requests.length = 1 := by decide +kernel
  obtain ⟨request, hrequests⟩ := List.length_eq_one_iff.mp hone
  obtain ⟨content, raw, target, octets, body, hfile, hdecode, -, hencode, hbody, hread⟩ :=
    request_tells_instructions (by rw [hrequests]; exact List.mem_singleton_self request :
      request ∈ markedRun.requests)
  have hfile' : markedTree.readFile "s.gpt" = .ok (sampleOctets markedText) := by decide +kernel
  have hdecode' : Utf8.decode (sampleOctets markedText) = .ok markedText := by
    exact Utf8.decode_of_encode (by decide +kernel)
  cases hfile.symm.trans hfile'
  cases hdecode.symm.trans hdecode'
  have htext : (Document.parse (Text.unifyNewlines markedText)).instructions =
      "Say \"a\\b\" \x7b\x7d \x01\t\x7f é✓😀\nnow\n" := by decide +kernel
  rw [htext] at hread
  exact ⟨request, octets, body, _, hrequests, hencode, hbody, hread⟩

end Pipeline

end ProseCompiler
