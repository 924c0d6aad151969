import DeviceConsole.Error
import DeviceConsole.Grammar.Commands
import DeviceConsole.Text.LowerCase

/-!
# `CommandLine.Scripts` — completion in shells

A shell completes the command words of the console after the option that takes a line.

## Contents

* `Shell`, `Shell.ofName` — the shells, by names in either case;
* `Shell.script` — the script for a shell;
* `completionScript` — the script for a named shell.
-/

namespace DeviceConsole.CommandLine

/-- The name of the program. -/
def programName : String := "echonet-console"

/-- A shell. -/
inductive Shell where
  | bash
  | zsh
  | fish
  deriving DecidableEq, Repr

/-- The shell of a name. -/
def Shell.ofName (name : String) : Except ConsoleError Shell :=
  match Text.lower name with
  | "bash" => .ok .bash
  | "zsh" => .ok .zsh
  | "fish" => .ok .fish
  | _ =>
    .error (.settings (.other
      ("Unsupported shell: " ++ name ++ ". Supported shells: bash, zsh, fish")))

/-- The lines of the script for a shell with the given words. -/
def Shell.lines (words : String) : Shell → List String
  | bash =>
    ["_echonet_console_enhanced() \x7b",
      "    local cur prev words cword",
      "    _init_completion || return",
      "",
      "    if [[ \"$prev\" == \"-e\" || \"$prev\" == \"--execute\" ]]; then",
      "        COMPREPLY=($(compgen -W \"" ++ words ++ "\" -- \"$cur\"))",
      "        return 0",
      "    fi",
      "",
      "    _echonet-console \"$@\"",
      "\x7d",
      "",
      "complete -F _echonet_console_enhanced " ++ programName]
  | zsh =>
    ["_echonet_console_enhanced() \x7b",
      "    if [[ $\x7bwords[CURRENT-1]\x7d == \"-e\" || $\x7bwords[CURRENT-1]\x7d == \"--execute\" ]]; then",
      "        local -a commands",
      "        commands=(" ++ words ++ ")",
      "        _describe 'commands' commands",
      "        return 0",
      "    fi",
      "",
      "    _echonet-console \"$@\"",
      "\x7d",
      "",
      "compdef _echonet_console_enhanced " ++ programName]
  | fish =>
    ["complete -c " ++ programName ++ " -s e -l execute -f -a \"" ++ words ++ "\" -d \"Console command\""]

/-- The script for a shell with the given command words. -/
def Shell.script (words : List String) (shell : Shell) : String :=
  "\n# Console command words for -e/--execute\n" ++
    String.join ((shell.lines (" ".intercalate words)).map (· ++ "\n"))

/-- The script for a named shell. -/
def completionScript (name : String) : Except ConsoleError String := do
  let shell ← Shell.ofName name
  return shell.script (← Grammar.commandNames.mapError .grammar)

end DeviceConsole.CommandLine
