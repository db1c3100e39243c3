import ProseCompiler.CompilerError

/-!
# Outcomes

What a document came to: an output file in a language, or an error message with a code.  The
type has no mixed states; `ofParts` is how loose parts become an outcome, and refuses those that
do not fit together.
-/

namespace ProseCompiler

/-- What compiling one document came to. -/
inductive Outcome where
  | succeeded (outputPath language : Text)
  | failed (error : Text) (code : Option Text)
deriving DecidableEq, Repr

namespace Outcome

/-- An outcome from its parts, if they fit together. -/
def ofParts (success : Bool) (outputPath language error code : Option Text) :
    Except Fault Outcome :=
  if success then
    match outputPath, language with
    | some path, some language =>
      if error.isSome ∨ code.isSome then
        .error (.badValue "A successful outcome cannot carry an error")
      else .ok (.succeeded path language)
    | _, _ => .error (.badValue "A successful outcome needs output_path and language")
  else
    match error with
    | none => .error (.badValue "A failed outcome needs an error message")
    | some error =>
      if outputPath.isSome ∨ language.isSome then
        .error (.badValue "A failed outcome cannot carry an output path or language")
      else .ok (.failed error code)

/-- The outcome of an expected failure. -/
def ofError (error : CompilerError) : Outcome := .failed error.message (some error.code)

/-- The outcome of a fault that nothing expects. -/
def ofFault (fault : Fault) : Outcome := .failed fault.summary (some CompilerError.internalCode)

def isSuccess : Outcome → Bool
  | .succeeded .. => true
  | .failed .. => false

/-- The outcome as named values. -/
def fields : Outcome → List (Text × Json)
  | .succeeded path language =>
    [("success", .bool true), ("outputPath", .text path), ("language", .text language)]
  | .failed error _ => [("success", .bool false), ("error", .text error)]

end Outcome

end ProseCompiler
