import ProseCompiler.CommandLine.Program

/-!
# Steps of a session

What the basic steps of a program do to a session, as equations about `Program.result`: the
result of a program from a session, with the session after it.  `Session.run_eq` is a whole
session as such a result.
-/

namespace ProseCompiler

namespace Program

variable {α β : Type} {session : Session}

/-- The result of a program from a session, and the session after it. -/
def result (program : Program α) (session : Session) : Except Problem α × Session :=
  program.run.run session

/-- A program goes on with the value of its first part, or ends with its problem. -/
theorem result_bind (first : Program α) (next : α → Program β) (session : Session) :
    result (first >>= next) session =
      match result first session with
      | (.ok value, session') => result (next value) session'
      | (.error problem, session') => (.error problem, session') := by
  have hbind : result (first >>= next) session =
      (ExceptT.bindCont next (result first session).1).run (result first session).2 := rfl
  rw [hbind]
  rcases result first session with ⟨_ | _, _⟩ <;> rfl

/-- A problem is handled in the session that it left. -/
theorem result_tryCatch (program : Program α) (handler : Problem → Program α) (session : Session) :
    result (tryCatch program handler) session =
      match result program session with
      | (.ok value, session') => (.ok value, session')
      | (.error problem, session') => result (handler problem) session' := by
  have hrun : program.run.run session = result program session := rfl
  rw [result, ExceptT.run_tryCatch, StateT.run_bind, hrun]
  rcases result program session with ⟨_ | _, _⟩ <;> rfl

theorem result_get (session : Session) : result get session = (.ok session, session) := rfl

theorem result_set (session' session : Session) :
    result (set session') session = (.ok (), session') := rfl

theorem result_attempt (value : Except Fault α) (session : Session) :
    result (attempt value) session = (value.mapError Problem.unexpected, session) := by
  cases value <;> rfl

theorem result_require (value : Except CompilerError α) (session : Session) :
    result (require value) session = (value.mapError Problem.reported, session) := by
  cases value <;> rfl

theorem result_ask (question : Tree → Except Fault α) (session : Session) :
    result (ask question) session =
      ((question session.tree).mapError Problem.unexpected, session) := by
  rw [ask, result_bind, result_get]
  exact result_attempt _ _

/-- A line is printed if it can be shown. -/
theorem result_say (console : Console) (markup : Text) (session : Session) :
    result (say console markup) session =
      match console markup with
      | .ok line => (.ok (), session.print (line ++ [Text.newline]))
      | .error fault => (.error (.unexpected fault), session) := by
  rw [say, result_bind, result_attempt]
  cases console markup <;> rfl

end Program

/-! ## Sessions -/

/-- The exit of a session with a result. -/
def Exit.ofResult : Except Problem Nat → Exit
  | .ok code => .status code
  | .error problem => .escaped problem

/-- The session of a command, behind its arguments. -/
theorem Session.run_eq {surroundings : Surroundings} {tree : Tree} {arguments : List Text}
    {invocation : Invocation} {c : Command} (hparse : Invocation.parse arguments = .ok invocation)
    (hcommand : invocation.command = some c) :
    run surroundings tree arguments =
      (Exit.ofResult (Program.result (Program.carryOut surroundings invocation c) { tree }).1,
        (Program.result (Program.carryOut surroundings invocation c) { tree }).2) := by
  rw [run]
  simp only [hparse, hcommand]
  show (match Program.result (Program.carryOut surroundings invocation c) { tree } with
    | (.ok code, session) => (Exit.status code, session)
    | (.error problem, session) => (Exit.escaped problem, session)) = _
  rcases Program.result (Program.carryOut surroundings invocation c) { tree } with ⟨_ | _, _⟩ <;>
    rfl

end ProseCompiler
