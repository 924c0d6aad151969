import DeviceConsole.CommandLine.Form

/-!
# `CommandLine.Arguments` — the arguments of the console

```text
[-c FILE] [--format FORMAT] [--no-color] [-q] [-v] [--vv] [--debug] [-e LINE]...
    [version | completion SHELL | config [--show] [--validate] | help [COMMAND]]
```

## Contents

* `Subcommand`, `Arguments` — what the arguments say;
* `consoleForm`, `versionForm`, `completionForm`, `configForm` — the forms;
* `Arguments.parse` — reads the arguments.
-/

namespace DeviceConsole.CommandLine

/-! ## What the arguments say -/

/-- A task other than the console. -/
inductive Subcommand where
  | version
  | completion (shell : String)
  | config (shown validated : Bool)
  deriving DecidableEq, Repr

/-- What the arguments say. -/
structure Arguments where
  configFile : Option String := none
  format : Option String := none
  noColour : Bool := false
  quiet : Bool := false
  verbose : Bool := false
  veryVerbose : Bool := false
  debug : Bool := false
  execute : List String := []
  subcommand : Option Subcommand := none
  deriving DecidableEq, Repr

/-! ## Forms -/

/-- Asks for help. -/
def helpOption : OptionForm := ⟨"help", some 'h', .help⟩

/-- The form of the console. -/
def consoleForm : Form where
  options :=
    [⟨"config", some 'c', .value false false⟩, ⟨"format", none, .value false true⟩,
      ⟨"no-color", none, .switch⟩, ⟨"quiet", some 'q', .switch⟩, ⟨"verbose", some 'v', .switch⟩,
      ⟨"vv", none, .switch⟩, ⟨"debug", none, .switch⟩, ⟨"execute", some 'e', .value true true⟩,
      helpOption, ⟨"version", some 'V', .version⟩]
  commands := ["version", "completion", "config", "help"]

/-- The form of the task that tells the version. -/
def versionForm : Form := { options := [helpOption] }

/-- The form of the task that writes a completion script. -/
def completionForm : Form := { options := [helpOption], takesOperand := true }

/-- The form of the task about settings. -/
def configForm : Form :=
  { options := [⟨"show", none, .switch⟩, ⟨"validate", none, .switch⟩, helpOption] }

/-! ## Reading -/

/-- Reads all arguments of a task. -/
def readTask (form : Form) (args : List String) : Except UsageError Progress := do
  let (progress, _) ← form.read false {} args
  form.finish progress

/-- Asks for help about a task; the tasks have no tasks of their own. -/
def readHelp : List String → UsageError
  | [] => .helpWanted
  | name :: rest =>
    if consoleForm.commands.contains name && rest.isEmpty then .helpWanted else .invalidSubcommand

/-- Reads a task by its name. -/
def readSubcommand (name : String) (args : List String) : Except UsageError Subcommand :=
  match name with
  | "version" => (readTask versionForm args).map fun _ => .version
  | "completion" =>
    (readTask completionForm args).map fun progress => .completion (progress.operand.getD "")
  | "config" =>
    (readTask configForm args).map fun progress =>
      .config (progress.has "show") (progress.has "validate")
  | _ => .error (readHelp args)

/-- Reads the arguments. A task is read before the options in front of it are judged. -/
def Arguments.parse (args : List String) : Except UsageError Arguments := do
  let (progress, task) ← consoleForm.read false {} args
  let subcommand ← match task with
    | none => pure none
    | some (name, rest) => some <$> readSubcommand name rest
  let progress ← consoleForm.finish progress
  return {
    configFile := progress.value? "config"
    format := progress.value? "format"
    noColour := progress.has "no-color"
    quiet := progress.has "quiet"
    verbose := progress.has "verbose"
    veryVerbose := progress.has "vv"
    debug := progress.has "debug"
    execute := progress.values "execute"
    subcommand }

end DeviceConsole.CommandLine
