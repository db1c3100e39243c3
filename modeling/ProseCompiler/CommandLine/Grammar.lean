import ProseCompiler.Text.Quoted

/-!
# Command lines

How the arguments of a program are told apart.  A grammar lists the options of a program and its
one operand, which may be a command with arguments of its own.  Options may be shortened as long
as only one fits, short options without values may share a dash, and everything behind two dashes
is an operand.

`Grammar.read` is the whole reader.  It ends early when an option asks for a text to be shown, and
when the arguments do not fit the grammar.
-/

namespace ProseCompiler

/-- What an option does: it shows a text, notes that it was there, or keeps the argument behind
it. -/
inductive Effect where
  | shows (text : Text)
  | notes (name : Text)
  | keeps (name : Text)
deriving DecidableEq, Repr

/-- An option with its spellings. -/
structure Switch where
  flags : List Text
  effect : Effect
deriving DecidableEq, Repr

namespace Switch

/-- Whether an argument belongs to the option. -/
def takesArgument (switch : Switch) : Bool :=
  match switch.effect with
  | .keeps _ => true
  | _ => false

/-- The spellings as messages name them. -/
def name (switch : Switch) : Text := Text.joinWith "/" switch.flags

end Switch

/-- What stands on a command line beside the options. -/
inductive Operand where
  | required (name : Text)
  | optional (name default : Text)
  | command (name : Text) (choices : List Text)
deriving DecidableEq, Repr

namespace Operand

def name : Operand → Text
  | .required name => name
  | .optional name _ => name
  | .command name _ => name

end Operand

/-- The options and the operand of a program, with the texts that explain them. -/
structure Grammar where
  program : Text
  usage : Text
  switches : List Switch
  operand : Operand

/-- Why reading arguments ends early. -/
inductive Stop where
  | shown (text : Text)
  | misused (program usage message : Text)
deriving DecidableEq, Repr

/-- What arguments say: values by name, of which the last counts, the command with its arguments,
and what nothing fits. -/
structure Reading where
  values : List (Text × Text) := []
  command : Option (Text × List Text) := none
  unknown : List Text := []

namespace Reading

/-- The value that counts for a name. -/
def value? (r : Reading) (name : Text) : Option Text := r.values.reverse.lookup name

def has (r : Reading) (name : Text) : Bool := (r.value? name).isSome

def put (r : Reading) (name value : Text) : Reading :=
  { r with values := r.values ++ [(name, value)] }

end Reading

namespace Grammar

/-- An argument by its form. -/
inductive Form where
  | plain
  | dashes
  | option (switch : Option Switch) (flag : Text) (hasEquals : Bool) (argument : Option Text)

/-- An argument with its form. -/
structure Argument where
  text : Text
  form : Form

def Argument.isOption (a : Argument) : Bool :=
  match a.form with
  | .option .. => true
  | _ => false

def misuse (g : Grammar) (message : Text) : Stop := .misused g.program g.usage message

/-- A misuse of one option or operand. -/
def misuseOf (g : Grammar) (name message : Text) : Stop :=
  g.misuse ("argument " ++ name ++ ": " ++ message)

/-! ## Forms -/

/-- The spellings of all options with their options. -/
def flags (g : Grammar) : List (Text × Switch) :=
  g.switches.flatMap fun switch => switch.flags.map fun flag => (flag, switch)

/-- Whether a text is a dash and a decimal number. -/
def isNegativeNumber (t : Text) : Bool :=
  match t with
  | [] => false
  | _ :: digits =>
    let whole := digits.takeWhile CodePoint.isDigit
    match digits.drop whole.length with
    | [] => !whole.isEmpty
    | c :: rest => c = '.' && !rest.isEmpty && rest.all CodePoint.isDigit

/-- The options that a spelling in full or in part may mean. -/
def candidates (g : Grammar) (t : Text) : List Form :=
  match t with
  | _ :: second :: _ =>
    if second = '-' then
      let (start, argument) : Text × Option Text := match Text.cutAt? '=' t with
        | some (start, argument) => (start, some argument)
        | none => (t, none)
      g.flags.filterMap fun (flag, switch) =>
        if Text.startsWith flag start then some (.option (some switch) flag argument.isSome argument)
        else none
    else
      g.flags.filterMap fun (flag, switch) =>
        if flag = t.take 2 then some (.option (some switch) flag false (some (t.drop 2)))
        else if Text.startsWith flag t then some (.option (some switch) flag false none)
        else none
  | _ => []

def Form.flag : Form → Text
  | .option _ flag _ _ => flag
  | _ => []

/-- The form of one argument before any two dashes. -/
def formOf (g : Grammar) (t : Text) : Except Stop Form :=
  match t with
  | [] => .ok .plain
  | [_] => .ok .plain
  | first :: _ :: _ =>
    if first ≠ '-' then .ok .plain
    else
      match g.flags.lookup t with
      | some switch => .ok (.option (some switch) t false none)
      | none =>
        let split := (Text.cutAt? '=' t).bind fun (flag, argument) =>
          (g.flags.lookup flag).map fun switch => Form.option (some switch) flag true (some argument)
        match split with
        | some form => .ok form
        | none =>
          match g.candidates t with
          | [form] => .ok form
          | [] =>
            if isNegativeNumber t ∨ t.contains (' ' : CodePoint) = true then .ok .plain
            else .ok (.option none t false none)
          | forms =>
            .error (g.misuse ("ambiguous option: " ++ t ++ " could match " ++
              Text.joinWith ", " (forms.map Form.flag)))

/-- The forms of all arguments. -/
def forms (g : Grammar) : List Text → Except Stop (List Argument)
  | [] => .ok []
  | t :: rest =>
    if t = "--" then .ok (⟨t, .dashes⟩ :: rest.map fun t => ⟨t, .plain⟩)
    else
      match g.formOf t with
      | .error stop => .error stop
      | .ok form =>
        match forms g rest with
        | .error stop => .error stop
        | .ok others => .ok (⟨t, form⟩ :: others)

/-! ## Options -/

/-- What one argument asks of options: effects with their arguments, in order, what nothing fits,
and an option that wants the next argument. -/
structure Asked where
  effects : List (Effect × Text) := []
  unknown : List Text := []
  wanting : Option Switch := none

/-- The refusal of an argument that is attached to an option without arguments. -/
def refuseAttached (g : Grammar) (switch : Switch) (argument : Text) : Stop :=
  g.misuseOf switch.name ("ignored explicit argument " ++ Text.quoted argument)

/-- Whether a spelling has one dash only. -/
def isShort (flag : Text) : Bool :=
  match flag with
  | _ :: second :: _ => second ≠ ('-' : CodePoint)
  | _ => false

/-- The options in one argument, where `argument` is attached to the option `switch`.  Behind a
short option without arguments more of them may follow. -/
def attached (g : Grammar) (done : List (Effect × Text)) (switch : Switch) (flag : Text)
    (hasEquals : Bool) : (argument : Text) → Except Stop Asked
  | [] =>
    if switch.takesArgument then .ok { effects := done ++ [(switch.effect, [])] }
    else .error (g.refuseAttached switch [])
  | c :: rest =>
    if switch.takesArgument then .ok { effects := done ++ [(switch.effect, c :: rest)] }
    else if isShort flag = false ∨ hasEquals = true ∨ c = '-' then
      .error (g.refuseAttached switch (c :: rest))
    else
      let done := done ++ [(switch.effect, ([] : Text))]
      let next : Text := ['-', c]
      match g.flags.lookup next with
      | none => .ok { effects := done, unknown := [('-' : CodePoint) :: c :: rest] }
      | some switch =>
        match rest with
        | [] =>
          if switch.takesArgument then .ok { effects := done, wanting := some switch }
          else .ok { effects := done ++ [(switch.effect, [])] }
        | d :: after =>
          if d = '=' then attached g done switch next true after
          else attached g done switch next false (d :: after)

/-- What an option asks. -/
def askedBy (g : Grammar) (text : Text) : Form → Except Stop Asked
  | .option none _ _ _ => .ok { unknown := [text] }
  | .option (some switch) flag hasEquals (some argument) =>
    g.attached [] switch flag hasEquals argument
  | .option (some switch) _ _ none =>
    if switch.takesArgument then .ok { wanting := some switch }
    else .ok { effects := [(switch.effect, [])] }
  | _ => .ok {}

/-- Carries out effects one after the other. -/
def perform (reading : Reading) : List (Effect × Text) → Except Stop Reading
  | [] => .ok reading
  | (effect, argument) :: rest =>
    match effect with
    | .shows text => .error (.shown text)
    | .notes name => perform (reading.put name []) rest
    | .keeps name => perform (reading.put name argument) rest

/-! ## Operands -/

/-- How many of the arguments at the start belong to the operand; `none` if it does not fit. -/
def operandLength (operand : Operand) (arguments : List Argument) : Option Nat :=
  let dashes := fun (l : List Argument) => (l.takeWhile fun a => match a.form with
    | .dashes => true
    | _ => false).length
  let before := dashes arguments
  let plain := match (arguments.drop before).head? with
    | some a => match a.form with
      | .plain => true
      | _ => false
    | none => false
  let after := dashes (arguments.drop (before + 1))
  match operand with
  | .required _ => if plain then some (before + 1 + after) else none
  | .optional _ _ => some (if plain then before + 1 + after else before)
  | .command _ _ => if plain then some arguments.length else none

/-- Gives the operand its arguments. -/
def takeOperand (g : Grammar) (reading : Reading) (arguments : List Text) :
    Except Stop Reading :=
  match g.operand with
  | .required name => .ok (reading.put name (((arguments.erase "--").head?).getD []))
  | .optional name default => .ok (reading.put name (((arguments.erase "--").head?).getD default))
  | .command name choices =>
    match arguments with
    | [] => .ok reading
    | word :: rest =>
      if choices.contains word then .ok { reading with command := some (word, rest) }
      else
        .error (g.misuseOf name ("invalid choice: " ++ Text.quoted word ++ " (choose from " ++
          Text.joinWith ", " (choices.map Text.quoted) ++ ")"))

/-! ## The reader -/

/-- Reads arguments, of which `fuel` bounds the number; `pending` while the operand is missing. -/
def readFrom (g : Grammar) : (fuel : Nat) → (pending : Bool) → Reading → List Argument →
    Except Stop (Bool × Reading)
  | 0, pending, reading, _ => .ok (pending, reading)
  | _ + 1, pending, reading, [] =>
    match pending, g.operand with
    | true, .optional .. => (g.takeOperand reading []).map fun r => (false, r)
    | _, _ => .ok (pending, reading)
  | fuel + 1, pending, reading, a :: rest =>
    if a.isOption then
      match g.askedBy a.text a.form with
      | .error stop => .error stop
      | .ok request =>
        let reading := { reading with unknown := reading.unknown ++ request.unknown }
        match request.wanting, rest with
        | none, _ =>
          match perform reading request.effects with
          | .error stop => .error stop
          | .ok reading => readFrom g fuel pending reading rest
        | some switch, b :: after =>
          match b.form with
          | .plain =>
            match perform reading (request.effects ++ [(switch.effect, b.text)]) with
            | .error stop => .error stop
            | .ok reading => readFrom g fuel pending reading after
          | _ => .error (g.misuseOf switch.name "expected one argument")
        | some switch, [] => .error (g.misuseOf switch.name "expected one argument")
    else
      match pending, operandLength g.operand (a :: rest) with
      | true, some (n + 1) =>
        match g.takeOperand reading (((a :: rest).take (n + 1)).map Argument.text) with
        | .error stop => .error stop
        | .ok reading => readFrom g fuel false reading (rest.drop n)
      | _, _ =>
        let reading := { reading with unknown := reading.unknown ++ [a.text] }
        readFrom g fuel pending reading rest

/-- What arguments say, as far as the grammar knows them. -/
def read (g : Grammar) (arguments : List Text) : Except Stop Reading :=
  match g.forms arguments with
  | .error stop => .error stop
  | .ok forms =>
    match g.readFrom (forms.length + 1) true {} forms with
    | .error stop => .error stop
    | .ok (pending, reading) =>
      match pending, g.operand with
      | true, .required name =>
        .error (g.misuse ("the following arguments are required: " ++ name))
      | _, _ => .ok reading

/-- The misuse of arguments that nothing fits, if there are any. -/
def refuseUnknown (g : Grammar) (unknown : List Text) : Except Stop Unit :=
  if unknown = [] then .ok ()
  else .error (g.misuse ("unrecognized arguments: " ++ Text.joinWith " " unknown))

end Grammar

end ProseCompiler
