import ProseCompiler.Encoding.Charset
import ProseCompiler.Json.Reader
import ProseCompiler.Log.Entry
import ProseCompiler.Service.Request
import ProseCompiler.Service.Shape

/-!
# Answers of the generation service

What can come back for a request, and what becomes of it: a response with a status of success is
read as JSON and searched for code, any other status is an error of the service, and so is a
service that cannot be reached.  What the transport raises beyond that is passed on as it is: a
fault, an error of the compiler itself, or something that fails even to say what it is.

A service is a function of what it has been asked so far, so that it can answer equal requests in
different ways.
-/

namespace ProseCompiler

namespace Answer

/-- The logger of the exchange with the service. -/
def logger : Text := "gpt_compiler.client"

/-- The value of a header, whatever the case of its name. -/
def header? (headers : List (Text × Text)) (name : Text) : Option Text :=
  (headers.find? fun (n, _) => Text.lowerAscii n == name).map Prod.snd

/-- The text of a body in the encoding that its media type declares. -/
def declaredText (headers : List (Text × Text)) (body : Bytes) : Except Fault Text :=
  if body = [] then .ok []
  else (Charset.ofMediaType (header? headers "content-type")).read body

end Answer

/-- What comes back for a request: a response, or what the transport raises instead.  That may be
that nobody is there, a fault, an error of the compiler itself, or an exception of some kind that
has no text, so that asking for it ends in a fault of its own.

How the body of a response reads as text is up to those who receive it, who may know encodings
beyond those of `Charset`. -/
inductive Answer where
  | response (status : Int) (headers : List (Text × Text)) (body : Bytes)
      (text : Except Fault Text := Answer.declaredText headers body)
  | unreachable (kind message : Text)
  | raised (fault : Fault)
  | reported (error : CompilerError)
  | untold (kind : Text) (fault : Fault)
  | interrupted (message : Text)

/-- The answer to a request after earlier ones. -/
abbrev Service := (earlier : List Request) → Request → Answer

namespace Answer

/-- Whether a status says that the request succeeded. -/
def isSuccess (status : Int) : Bool := 200 ≤ status && status ≤ 299

/-! ## Bodies -/

/-- The text of JSON octets in the encoding that they show: by a mark at their start, or by where
the first zero octets stand. -/
def jsonText? (octets : Bytes) : Option Text :=
  let wide2 := fun (order : OctetOrder) (octets : Bytes) =>
    Wide.loose? (Wide.pieces2 (Wide.units2 order octets))
  let wide4 := fun (order : OctetOrder) (octets : Bytes) =>
    Wide.loose? (Wide.pieces4 (Wide.units4 order octets))
  match Charset.mark4? octets, Charset.mark2? octets with
  | some (order, rest), _ => wide4 order rest
  | none, some (order, rest) => wide2 order rest
  | none, none =>
    match octets with
    | a :: b :: c :: d :: _ =>
      if a = 0 then if b = 0 then wide4 .big octets else wide2 .big octets
      else if b = 0 then
        if c = 0 ∧ d = 0 then wide4 .little octets else wide2 .little octets
      else Utf8.decodeLoose? (Charset.withoutMark8 octets)
    | [a, b] =>
      if a = 0 then wide2 .big octets
      else if b = 0 then wide2 .little octets
      else Utf8.decodeLoose? octets
    | _ => Utf8.decodeLoose? (Charset.withoutMark8 octets)

/-- What a body that is not JSON is reported as. -/
def invalidJson : Problem :=
  .reported (.responseShape "Generation service returned invalid JSON" none)

/-- The JSON value of a body. -/
def jsonBody (octets : Bytes) : Except Problem Json :=
  match jsonText? octets with
  | none => .error invalidJson
  | some t =>
    match Json.read t with
    | .ok value => .ok value
    | .error (.malformed _ _) => .error invalidJson
    | .error (.tooManyDigits count) => .error (.unexpected (.badValue (Json.digitsMessage count)))
    | .error (.tooDeep message) => .error (.unexpected (.tooDeep message))

/-- How much of an error's body is kept. -/
def excerptLength : Nat := 2000

/-- The error that a status without success stands for. -/
def statusProblem (status : Int) (text : Except Fault Text) : Problem :=
  match text with
  | .error fault => .unexpected fault
  | .ok t =>
    let excerpt := t.take excerptLength
    .reported (.service
      ("Generation service error (" ++ Number.ofInt status ++ "): " ++ excerpt)
      (some status) excerpt)

/-- The error of a service that could not be reached. -/
def unreachableProblem (kind message : Text) : Problem :=
  .reported (.service ("Generation service unreachable: " ++ kind ++ ": " ++ message) none message)

/-! ## Responses that lead elsewhere -/

/-- What is wrong with where a response says that its subject has moved, if anything.  Nothing is
asked there; but the address has to be one. -/
def redirectProblem? (status : Int) (headers : List (Text × Text)) : Option Problem :=
  if [301, 302, 303, 307, 308].contains status then
    match header? headers "location" with
    | none => none
    | some location =>
      match Url.parse location with
      | .error refusal =>
        some (unreachableProblem "RemoteProtocolError"
          ("Invalid URL in location header: " ++ refusal ++ "."))
      | .ok url =>
        if url.scheme ≠ [] ∧ url.host = [] ∧ url.path ≠ [] ∧
            url.path.head? ≠ some ('/' : CodePoint) then
          some (.unexpected (.raised "InvalidURL"
            "For absolute URLs, path must be empty or begin with '/'"))
        else none
  else none

/-- What is wrong with a request whose address does not say whom to ask; it shows only when the
response comes. -/
def addressProblem? (request : Request) : Option Problem :=
  if request.url.head? = some ('/' : CodePoint) then
    some (.unexpected (.badValue ("unknown url type: " ++ Text.quoted request.url)))
  else none

/-! ## From answers to code -/

/-- What stands in a log for the text of an exception that has none. -/
def noText : Text := "<exception str() failed>"

/-- The JSON value of an answer that succeeded. -/
def value (request : Request) : Answer → Except Problem Json
  | .interrupted message => .error (.interrupted message)
  | .raised fault => .error (.unexpected fault)
  | .reported error => .error (.reported error)
  | .untold kind _ => .error (.unexpected (.raised kind noText))
  | .unreachable kind message => .error (unreachableProblem kind message)
  | .response status headers body text =>
    match addressProblem? request with
    | some problem => .error problem
    | none =>
      match redirectProblem? status headers with
      | some problem => .error problem
      | none => if isSuccess status then jsonBody body else .error (statusProblem status text)

/-- What comes of asking an exception for its text in vain. -/
def silence? : Answer → Option Fault
  | .untold _ fault => some fault
  | _ => none

/-- What is reported before a request is sent. -/
def announcement (config : Config) (document language : Text) : Entry :=
  { level := .info, logger, document
    message := "Compiling to " ++ language ++ " using model " ++ config.model }

/-- What is reported when the shape of an answer is known. -/
def shapeEntry (document : Text) (shape : Shape) : Entry :=
  { level := .debug, logger, document
    message := "Found " ++ shape.name ++ " response format" }

/-- What is reported when the code is there. -/
def lengthEntry (document code : Text) : Entry :=
  { level := .info, logger, document
    message := "Generated code length: " ++ Text.ofNat code.length ++ " characters" }

/-- The code that an answer holds, and what is reported on the way. -/
def code (request : Request) (document language : Text) (answer : Answer) :
    Journal × Except Problem Text :=
  match answer.value request with
  | .error problem => ([], .error problem)
  | .ok value =>
    match Shape.ofAnswer value with
    | .error error => ([], .error (.reported error))
    | .ok (shape, t) =>
      match Shape.codeIn (some language) t with
      | .error error => ([shapeEntry document shape], .error (.reported error))
      | .ok code => ([shapeEntry document shape, lengthEntry document code], .ok code)

end Answer

/-- What asking the service came to: the requests that were sent, what was reported, and the code
or the problem. -/
structure Exchange where
  requests : List Request
  journal : Journal
  result : Except Problem Text

namespace Exchange

/-- Asks the service for the code of some instructions. -/
def run (config : Config) (service : Service) (earlier : List Request)
    (document instructions language : Text) : Exchange :=
  let start := Answer.announcement config document language
  match Request.make config instructions language with
  | .error fault => ⟨[], [start], .error (.unexpected fault)⟩
  | .ok request =>
    let (journal, result) := (service earlier request).code request document language
    ⟨[request], start :: journal, result⟩

end Exchange

end ProseCompiler
