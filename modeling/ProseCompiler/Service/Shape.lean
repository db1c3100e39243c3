import ProseCompiler.CompilerError
import ProseCompiler.Text.Blank

/-!
# The shapes of an answer

Providers behind the same address answer in different shapes.  Three are known, and the first
that an answer has decides: the message of the first choice, then the content of an output, then
a content at the top.  A list of choices decides even if no text can be found in it; an empty
content elsewhere decides nothing.
-/

namespace ProseCompiler

/-- A known shape of an answer. -/
inductive Shape where
  | choices
  | outputContent
  | content
deriving DecidableEq, Repr

namespace Shape

def name : Shape → Text
  | .choices => "choices"
  | .outputContent => "output.content"
  | .content => "content"

/-- A text that is not empty. -/
def someText? : Option Json → Option Text
  | some (.text (c :: t)) => some (c :: t)
  | _ => none

/-- The content of the message of a choice, empty if any of it is missing. -/
def choiceText (choice : Json) : Text :=
  match (choice.get? "message").bind (Json.get? "content") with
  | some (.text t) => t
  | _ => []

/-- The shape of an object's fields and the text in it. -/
def ofFields? (fields : List (Text × Json)) : Option (Shape × Text) :=
  match Json.field? fields "choices" with
  | some (.array (choice :: _)) => some (.choices, choiceText choice)
  | _ =>
    match someText? ((Json.field? fields "output").bind (Json.get? "content")) with
    | some t => some (.outputContent, t)
    | none => (someText? (Json.field? fields "content")).map fun t => (.content, t)

/-- The shape of an answer and the text in it. -/
def ofAnswer : Json → Except CompilerError (Shape × Text)
  | .object fields =>
    match ofFields? fields with
    | some found => .ok found
    | none =>
      .error (.responseShape CompilerError.unknownShape (some (Text.sort (fields.map Prod.fst))))
  | other => .error (.responseShape ("Expected a JSON object, got " ++ other.typeName) none)

/-- The code in a text: what is left without the blanks around it, which has to be something. -/
def codeIn (language : Option Text) (t : Text) : Except CompilerError Text :=
  if Text.trim t = [] then .error (.emptyArtifact language) else .ok (Text.trim t)

/-- The code in an answer. -/
def code (language : Option Text) (answer : Json) : Except CompilerError Text :=
  match ofAnswer answer with
  | .error error => .error error
  | .ok (_, t) => codeIn language t

end Shape

end ProseCompiler
