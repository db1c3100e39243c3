import ProseCompiler.Service.Answer

/-!
# Cookies

A client that is kept for more than one request remembers what answers have set, and sends it
back with the requests that follow.  So a request may go out with one more header than it was made
with, which depends on the whole history of the client.

What a client remembers, and for which addresses and how long, is left open here.
-/

namespace ProseCompiler

/-- The requests that a client has sent, as they went out, with their answers. -/
abbrev History := List (Request × Answer)

/-- What a client sends back after some exchanges: the cookies that go with a request. -/
abbrev Jar := History → Request → Option Text

/-- A request as it goes out. -/
def Request.withCookies (request : Request) : Option Text → Request
  | none => request
  | some cookies => { request with headers := request.headers ++ [(("Cookie" : Text), cookies)] }

/-- Whether an answer sets a cookie. -/
def Answer.SetsCookie : Answer → Prop
  | .response _ headers _ _ => header? headers "set-cookie" ≠ none
  | _ => False

instance (answer : Answer) : Decidable answer.SetsCookie :=
  match answer with
  | .response .. => inferInstanceAs (Decidable (_ ≠ none))
  | .unreachable .. | .raised _ | .reported _ | .untold .. | .interrupted _ => .isFalse id

namespace Jar

/-- The history of a client by the requests that were made for it. -/
def history (jar : Jar) (service : Service) (made : List Request) : History :=
  made.foldl
    (fun history request =>
      let sent := request.withCookies (jar history request)
      history ++ [(sent, service (history.map Prod.fst) sent)])
    []

/-- A request as it goes out after others. -/
def sent (jar : Jar) (service : Service) (earlier : List Request) (request : Request) : Request :=
  request.withCookies (jar (jar.history service earlier) request)

/-- A client sends nothing back before an answer has set something. -/
def SendsBack (jar : Jar) : Prop :=
  ∀ (history : History) (request : Request),
    (∀ exchange ∈ history, ¬exchange.2.SetsCookie) → jar history request = none

/-- A jar that sends back the first cookie of the last answer that set one. -/
def ofLast : Jar := fun history _ =>
  history.reverse.findSome? fun (_, answer) => match answer with
    | .response _ headers _ _ =>
      (Answer.header? headers "set-cookie").map fun (value : Text) =>
        value.takeWhile fun (c : CodePoint) => c ≠ ';'
    | _ => none

end Jar

/-- A service as it is seen through a client with a jar. -/
def Service.through (service : Service) (jar : Jar) : Service := fun earlier request =>
  service ((jar.history service earlier).map Prod.fst) (jar.sent service earlier request)

end ProseCompiler
