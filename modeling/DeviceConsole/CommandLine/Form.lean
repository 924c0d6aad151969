/-!
# `CommandLine.Form` — options, operands and commands among arguments

A form says which options a command takes, whether it takes an operand and which further commands may follow it.
A long option stands behind two dashes, short ones may share one dash; a value follows its option in the same
argument or in the next one. After two dashes alone nothing is an option.

## Contents

* `UsageError` — why arguments are refused, or what they ask for instead;
* `Use`, `OptionForm`, `Form` — forms;
* `Progress` — what was read so far;
* `Form.read` — reads the arguments of a command up to a further command;
* `Form.finish` — what is missing at the end.
-/

namespace DeviceConsole.CommandLine

/-- Why arguments are refused, or that they ask for help or the version. -/
inductive UsageError where
  | invalidValue
  | unknownArgument
  | invalidSubcommand
  | argumentConflict
  | tooManyValues
  | missingArgument
  | helpWanted
  | versionWanted
  deriving DecidableEq, Repr

/-- The wording of a refusal or a wish. -/
def UsageError.message : UsageError → String
  | invalidValue => "an option has no value or a wrong one"
  | unknownArgument => "unexpected argument"
  | invalidSubcommand => "unrecognized subcommand"
  | argumentConflict => "an option cannot be used multiple times"
  | tooManyValues => "an option takes no value"
  | missingArgument => "a required argument was not provided"
  | helpWanted => "help"
  | versionWanted => "version"

/-! ## Forms -/

/-- How an option is used: it stands alone, it has a value, or it asks for help or the version. -/
inductive Use where
  | switch
  | value (repeatable mayBeEmpty : Bool)
  | help
  | version
  deriving DecidableEq, Repr

/-- An option by its long name, and its letter if it has one. -/
structure OptionForm where
  long : String
  letter : Option Char
  use : Use
  deriving DecidableEq, Repr

/-- What may stand behind a command. -/
structure Form where
  options : List OptionForm
  takesOperand : Bool := false
  commands : List String := []
  deriving DecidableEq, Repr

/-! ## Progress -/

/-- What was read so far: options with their values, an option whose value is not judged yet or still to come,
and the operand. -/
structure Progress where
  given : List (String × String) := []
  pending : Option (OptionForm × Option String) := none
  operand : Option String := none
  deriving DecidableEq, Repr

namespace Progress

/-- Whether the value of an option is still to come. -/
def awaitsValue (progress : Progress) : Bool :=
  match progress.pending with
  | some (_, none) => true
  | _ => false

/-- Whether an option was given. -/
def has (progress : Progress) (long : String) : Bool :=
  progress.given.any fun entry => entry.1 = long

/-- The first value of an option. -/
def value? (progress : Progress) (long : String) : Option String :=
  (progress.given.find? fun entry => entry.1 = long).map Prod.snd

/-- All values of an option. -/
def values (progress : Progress) (long : String) : List String :=
  (progress.given.filter fun entry => entry.1 = long).map Prod.snd

/-- Takes an option with its value; most options can be given once. -/
def give (progress : Progress) (option : OptionForm) (value : String) : Except UsageError Progress :=
  let taken : Progress := { progress with given := progress.given ++ [(option.long, value)], pending := none }
  match option.use with
  | .value true _ => .ok taken
  | .value false mayBeEmpty =>
    if progress.has option.long then .error .argumentConflict
    else if value.isEmpty && !mayBeEmpty then .error .invalidValue
    else .ok taken
  | _ => if progress.has option.long then .error .argumentConflict else .ok taken

/-- Judges the option that waits for it. -/
def settle (progress : Progress) : Except UsageError Progress :=
  match progress.pending with
  | none => .ok progress
  | some (_, none) => .error .invalidValue
  | some (option, some value) => progress.give option value

/-- Takes an option with the value in its own argument, if there is one. -/
def takeOption (progress : Progress) (option : OptionForm) (attached : Option String) :
    Except UsageError Progress :=
  match option.use, attached with
  | .value .., some value => do (← progress.settle).give option value
  | .value .., none => do return { (← progress.settle) with pending := some (option, none) }
  | _, some _ => .error .tooManyValues
  | .switch, none => do (← progress.settle).give option ""
  | .help, none => progress.settle.bind fun _ => .error .helpWanted
  | .version, none => progress.settle.bind fun _ => .error .versionWanted

end Progress

/-! ## Arguments -/

namespace Form

/-- The text after an equals sign at its front. -/
def afterEquals (text : List Char) : List Char :=
  match text with
  | '=' :: rest => rest
  | _ => text

/-- A long option, without its dashes. -/
def readLong (form : Form) (progress : Progress) (text : List Char) : Except UsageError Progress :=
  let name := text.takeWhile (· ≠ '=')
  let attached := match text.drop name.length with
    | [] => none
    | rest => some (String.ofList (afterEquals rest))
  match form.options.find? fun option => option.long.toList = name with
  | some option => progress.takeOption option attached
  | none => .error .unknownArgument

/-- Short options, without their dash. What follows an option with a value is the value. -/
def readLetters (form : Form) (progress : Progress) : List Char → Except UsageError Progress
  | [] => .ok progress
  | c :: rest =>
    match form.options.find? fun option => option.letter = some c with
    | none => .error .unknownArgument
    | some option =>
      match option.use with
      | .value .. =>
        progress.takeOption option (if rest.isEmpty then none else some (String.ofList (afterEquals rest)))
      | _ => (progress.takeOption option none).bind fun progress => readLetters form progress rest

/-- An argument that is neither an option nor a command. -/
def readOperand (form : Form) (afterDashes : Bool) (progress : Progress) (text : String) :
    Except UsageError Progress :=
  if form.takesOperand && progress.operand.isNone then do
    return { (← progress.settle) with operand := some text }
  else if form.commands.isEmpty || (afterDashes && form.commands.contains text) then
    .error .unknownArgument
  else .error .invalidSubcommand

/-- Reads the arguments of a command up to a further command, which is given with the arguments after it. -/
def read (form : Form) (afterDashes : Bool) (progress : Progress) :
    List String → Except UsageError (Progress × Option (String × List String))
  | [] => .ok (progress, none)
  | text :: rest =>
    if afterDashes then
      (form.readOperand true progress text).bind fun progress => read form true progress rest
    else if !progress.awaitsValue && form.commands.contains text then .ok (progress, some (text, rest))
    else match text.toList, progress.pending with
      | ['-', '-'], _ => read form true progress rest
      | '-' :: '-' :: name, _ =>
        (form.readLong progress name).bind fun progress => read form false progress rest
      | '-' :: c :: letters, _ =>
        (form.readLetters progress (c :: letters)).bind fun progress => read form false progress rest
      | _, some (option, none) =>
        read form false { progress with pending := some (option, some text) } rest
      | _, _ => (form.readOperand false progress text).bind fun progress => read form false progress rest

/-- Judges what is left at the end, and asks for the operand. -/
def finish (form : Form) (progress : Progress) : Except UsageError Progress := do
  let progress ← progress.settle
  if form.takesOperand && progress.operand.isNone then throw .missingArgument
  return progress

end Form

end DeviceConsole.CommandLine
