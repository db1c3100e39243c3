import ProseCompiler.CommandLine.Grammar

/-!
# The arguments of the compiler

The options and commands of this program, the texts that explain them, and what a command line
asks for.
-/

namespace ProseCompiler

/-- What the compiler is asked to do. -/
inductive Command where
  | compile (file : Text)
  | watch (directory : Text)
  | new (file language : Text)
deriving DecidableEq, Repr

/-- A command line: the options that hold for every command, and the command. -/
structure Invocation where
  verbose : Bool
  model : Option Text
  configFile : Option Text
  envFile : Option Text
  logFile : Option Text
  jsonLogs : Bool
  command : Option Command
deriving DecidableEq, Repr

namespace Invocation

/-! ## Texts -/

def mainUsage : Text :=
  "usage: gpt-compiler [-h] [--version] [-v] [-m MODEL] [--config CONFIG]\n" ++
  "                    [--env-file ENV_FILE] [--log-file LOG_FILE] [--json-logs]\n" ++
  "                    \x7bcompile,watch,new\x7d ...\n"

def mainHelp : Text :=
  mainUsage ++ ("\n" ++
  "Compile English to code using AI\n" ++
  "\n" ++
  "positional arguments:\n" ++
  "  \x7bcompile,watch,new\x7d   Commands\n" ++
  "    compile             Compile a single .gpt file to code\n" ++
  "    watch               Watch for changes in .gpt files and compile them\n" ++
  "    new                 Create a new .gpt file with template\n" ++
  "\n" ++
  "options:\n" ++
  "  -h, --help            show this help message and exit\n" ++
  "  --version             show program's version number and exit\n" ++
  "  -v, --verbose         Enable debug logging\n" ++
  "  -m MODEL, --model MODEL\n" ++
  "                        Model identifier (overrides AI_MODEL)\n" ++
  "  --config CONFIG       Path to JSON config file\n" ++
  "  --env-file ENV_FILE   Path to .env file (default: search from current\n" ++
  "                        directory)\n" ++
  "  --log-file LOG_FILE   Also write logs to this file\n" ++
  "  --json-logs           Emit structured JSON logs\n" ++
  "\n" ++
  "Examples:\n" ++
  "  gpt-compiler compile app.gpt             Compile app.gpt next to itself\n" ++
  "  gpt-compiler watch .                     Watch the current directory\n" ++
  "  gpt-compiler new todo --lang typescript  Create todo.gpt\n" ++
  "\n" ++
  "Document format:\n" ++
  "  @language: python\n" ++
  "  @output: hello.py\n" ++
  "\n" ++
  "  Print hello world\n" ++
  "        \n" : String)

def compileUsage : Text := "usage: gpt-compiler compile [-h] file\n"

def compileHelp : Text :=
  compileUsage ++ ("\n" ++
  "positional arguments:\n" ++
  "  file        .gpt file to compile\n" ++
  "\n" ++
  "options:\n" ++
  "  -h, --help  show this help message and exit\n" : String)

def watchUsage : Text := "usage: gpt-compiler watch [-h] [dir]\n"

def watchHelp : Text :=
  watchUsage ++ ("\n" ++
  "positional arguments:\n" ++
  "  dir         Directory to watch (default: .)\n" ++
  "\n" ++
  "options:\n" ++
  "  -h, --help  show this help message and exit\n" : String)

def newUsage : Text := "usage: gpt-compiler new [-h] [-l LANG] file\n"

def newHelp : Text :=
  newUsage ++ ("\n" ++
  "positional arguments:\n" ++
  "  file                  Name of the file to create\n" ++
  "\n" ++
  "options:\n" ++
  "  -h, --help            show this help message and exit\n" ++
  "  -l LANG, --lang LANG  Target language (default: python)\n" : String)

/-! ## Grammars -/

def helpSwitch (help : Text) : Switch := ⟨["-h", "--help"], .shows help⟩

/-- The options of every command, and the commands. -/
def mainGrammar : Grammar where
  program := "gpt-compiler"
  usage := mainUsage
  switches :=
    [helpSwitch mainHelp, ⟨["--version"], .shows "gpt-compiler 1.0.0\n"⟩,
     ⟨["-v", "--verbose"], .notes "verbose"⟩, ⟨["-m", "--model"], .keeps "model"⟩,
     ⟨["--config"], .keeps "config"⟩, ⟨["--env-file"], .keeps "env_file"⟩,
     ⟨["--log-file"], .keeps "log_file"⟩, ⟨["--json-logs"], .notes "json_logs"⟩]
  operand := .command "command" ["compile", "watch", "new"]

def compileGrammar : Grammar where
  program := "gpt-compiler compile"
  usage := compileUsage
  switches := [helpSwitch compileHelp]
  operand := .required "file"

def watchGrammar : Grammar where
  program := "gpt-compiler watch"
  usage := watchUsage
  switches := [helpSwitch watchHelp]
  operand := .optional "dir" "."

def newGrammar : Grammar where
  program := "gpt-compiler new"
  usage := newUsage
  switches := [helpSwitch newHelp, ⟨["-l", "--lang"], .keeps "lang"⟩]
  operand := .required "file"

/-! ## Reading -/

/-- The command of a word and its arguments, and the arguments that nothing fits. -/
def commandOf (word : Text) (arguments : List Text) : Except Stop (Command × List Text) :=
  let grammar :=
    if word = "compile" then compileGrammar
    else if word = "watch" then watchGrammar
    else newGrammar
  match grammar.read arguments with
  | .error stop => .error stop
  | .ok reading =>
    let value := fun (name : Text) => (reading.value? name).getD []
    let command : Command :=
      if word = "compile" then .compile (value "file")
      else if word = "watch" then .watch (value "dir")
      else .new (value "file") ((reading.value? "lang").getD "python")
    .ok (command, reading.unknown)

/-- What a command line asks for. -/
def parse (arguments : List Text) : Except Stop Invocation :=
  match mainGrammar.read arguments with
  | .error stop => .error stop
  | .ok reading =>
    let invocation : Invocation := {
      verbose := reading.has "verbose"
      model := reading.value? "model"
      configFile := reading.value? "config"
      envFile := reading.value? "env_file"
      logFile := reading.value? "log_file"
      jsonLogs := reading.has "json_logs"
      command := none }
    match reading.command with
    | none => (mainGrammar.refuseUnknown reading.unknown).map fun _ => invocation
    | some (word, rest) =>
      match commandOf word rest with
      | .error stop => .error stop
      | .ok (command, unknown) =>
        (mainGrammar.refuseUnknown (reading.unknown ++ unknown)).map fun _ =>
          { invocation with command := some command }

end Invocation

end ProseCompiler
