import ProseCompiler.Encoding.Utf8
import ProseCompiler.Text.Quoted

/-!
# Faults

What can go wrong below the level of the compiler's own errors: refusals of the file system,
texts that an encoding cannot carry, paths that name nothing, and what a transport raises.  Each
fault has a kind, which groups faults for those that report them, and a message.
-/

namespace ProseCompiler

instance decidableEqExcept {ε α : Type} [DecidableEq ε] [DecidableEq α] :
    DecidableEq (Except ε α)
  | .ok a, .ok b => decidable_of_iff (a = b) (by simp)
  | .error a, .error b => decidable_of_iff (a = b) (by simp)
  | .ok _, .error _ => .isFalse (by simp)
  | .error _, .ok _ => .isFalse (by simp)

/-- A refusal of the file system. -/
inductive SystemError where
  | noEntry
  | entryExists
  | notDirectory
  | isDirectory
  | nameTooLong
  | tooManyLinks
deriving DecidableEq, Repr

namespace SystemError

/-- The number by which the system knows a refusal. -/
def number : SystemError → Nat
  | .noEntry => 2
  | .entryExists => 17
  | .notDirectory => 20
  | .isDirectory => 21
  | .nameTooLong => 36
  | .tooManyLinks => 40

def description : SystemError → Text
  | .noEntry => "No such file or directory"
  | .entryExists => "File exists"
  | .notDirectory => "Not a directory"
  | .isDirectory => "Is a directory"
  | .nameTooLong => "File name too long"
  | .tooManyLinks => "Too many levels of symbolic links"

def kind : SystemError → Text
  | .noEntry => "FileNotFoundError"
  | .entryExists => "FileExistsError"
  | .notDirectory => "NotADirectoryError"
  | .isDirectory => "IsADirectoryError"
  | .nameTooLong => "OSError"
  | .tooManyLinks => "OSError"

end SystemError

/-- An error that no part of the compiler expects. -/
inductive Fault where
  | system (error : SystemError) (path : Text)
  | noDirectory (path : Text)
  | unencodable (fault : EncodeFault)
  | undecodable (fault : DecodeFault)
  | embeddedNul
  | emptyName (path : Text)
  | invalidName (name : Text)
  | linkLoop (path : Text)
  | tooDeep (message : Text)
  | badValue (message : Text)
  | overflow (message : Text)
  | raised (kind message : Text)
deriving DecidableEq, Repr

namespace Fault

def kind : Fault → Text
  | .system error _ => error.kind
  | .noDirectory _ => "NotADirectoryError"
  | .unencodable _ => "UnicodeEncodeError"
  | .undecodable _ => "UnicodeDecodeError"
  | .embeddedNul | .emptyName _ | .invalidName _ | .badValue _ => "ValueError"
  | .linkLoop _ => "RuntimeError"
  | .tooDeep _ => "RecursionError"
  | .overflow _ => "OverflowError"
  | .raised kind _ => kind

def message : Fault → Text
  | .system error path =>
    "[Errno " ++ Text.ofNat error.number ++ "] " ++ error.description ++ ": " ++ Text.quoted path
  | .noDirectory path => "Directory not found: " ++ path
  | .unencodable fault => fault.message
  | .undecodable fault => fault.message
  | .embeddedNul => "embedded null byte"
  | .emptyName path => "PosixPath(" ++ Text.quoted path ++ ") has an empty name"
  | .invalidName name => "Invalid name " ++ Text.quoted name
  | .linkLoop path => "Symlink loop from " ++ Text.quoted path
  | .tooDeep message | .badValue message | .overflow message => message
  | .raised _ message => message

/-- The kind and the message together. -/
def summary (fault : Fault) : Text := fault.kind ++ ": " ++ fault.message

end Fault

end ProseCompiler
