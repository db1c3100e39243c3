import ProseCompiler.Config.Settings
import ProseCompiler.Json.Writer
import ProseCompiler.Service.Url

/-!
# Requests to the generation service

One request asks for one document: the instructions as they stand, below a prompt that names the
target language.  A request that cannot be sent is refused before anything leaves the program:
first for its address, then for a header beyond ASCII, then for a lone surrogate in its body.
-/

namespace ProseCompiler

/-- What is sent to the service. -/
structure Request where
  url : Text
  headers : List (Text × Text)
  body : Text
deriving DecidableEq, Repr

namespace Request

/-- What the service is told about its task. -/
def systemPrompt (language : Text) : Text :=
  "You are an expert programmer specializing in " ++ language ++
    ".\nYour task is to convert English instructions into well-structured, efficient,\n" ++
    "and commented " ++ language ++
    " code.\nOnly respond with the code - no explanations, no markdown formatting."

/-- One message of a conversation. -/
def chatMessage (role content : Text) : Json :=
  .object [("role", .text role), ("content", .text content)]

/-- What a request asks. -/
def payload (config : Config) (instructions language : Text) : Json :=
  .object
    [("model", .text config.model),
     ("messages", .array
       [chatMessage "system" (systemPrompt language), chatMessage "user" instructions])]

/-- The credentials of a configuration, if it has a key. -/
def bearer (config : Config) : List (Text × Text) :=
  match config.apiKey with
  | none | some [] => []
  | some key => [("Authorization", "Bearer " ++ key)]

/-- What a request says about itself. -/
def headersFor (config : Config) : List (Text × Text) :=
  ("Content-Type", "application/json") :: ("HTTP-Referer", config.referer) ::
    ("X-Title", config.appTitle) :: bearer config

/-- The fault of the first header value that is not ASCII. -/
def headerFault? (headers : List (Text × Text)) : Option Fault :=
  headers.findSome? fun (_, value) =>
    (firstStretch? (fun c => 0x80 ≤ c.val) 0 value).map fun (culprit, position, count) =>
      .unencodable ⟨"ascii", culprit, position, count, "ordinal not in range(128)"⟩

/-- The headers with the credentials that an address carries in place of the others. -/
def withCredentials (url : Url) (headers : List (Text × Text)) : List (Text × Text) :=
  match url.basicAuthorization? with
  | none => headers
  | some value =>
    (headers.filter fun (name, _) => name ≠ ("Authorization" : Text)) ++
      [(("Authorization" : Text), value)]

/-- The request for a document, if it can be sent. -/
def make (config : Config) (instructions language : Text) : Except Fault Request :=
  match Url.target config.apiUrl with
  | .error refusal => .error (.raised "InvalidURL" refusal)
  | .ok url =>
    match headerFault? (headersFor config) with
    | some fault => .error fault
    | none =>
      let body := Json.write Json.compact (payload config instructions language)
      match Utf8.encode body with
      | .error fault => .error (.unencodable fault)
      | .ok _ => .ok { url := url.text, headers := withCredentials url (headersFor config), body }

end Request

end ProseCompiler
