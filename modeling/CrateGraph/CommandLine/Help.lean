import CrateGraph.CommandLine.Arguments
import CrateGraph.Text.Basic

/-!
# Help and completions

What the program prints about itself.
-/

namespace CrateGraph.CommandLine

/-- The name of the program. -/
def programName : String := "trellis"

/-- The name and the version of the program. -/
def versionText : String := programName ++ " 0.1.0\n"

/-- How the program is called. -/
def usageText : String := "Usage: " ++ programName ++ " [OPTIONS] <COMMAND>\n"

/-- What each command does. -/
def commandHelp : List (String × String) :=
  [("nodes", "Print the project nodes as JSON"),
    ("deps", "Print the dependency edges as JSON"),
    ("sync", "Print nodes and edges as one JSON document"),
    ("policy", "Print the static trigger policy as JSON"),
    ("check", "Validate the configuration against the workspace"),
    ("completions", "Generate shell completions"),
    ("help", "Print this message")]

/-- What each option does. -/
def flagHelp : Flag → String
  | .verbose => "Enable verbose output"
  | .workspace => "Workspace root (defaults to the nearest Cargo workspace)"
  | .config => "Project configuration file (defaults to <workspace>/.trellis/config.toml)"
  | .cargo => "Program used to run `metadata` (overrides [metadata].program)"
  | .output => "Write the document to a file instead of stdout"
  | .help => "Print help"
  | .version => "Print version"

/-- The names of an option. -/
def flagNames (f : Flag) : String :=
  (match f.letter? with
    | some c => "-" ++ c.toString ++ ", "
    | none => "    ") ++ "--" ++ f.long

/-- What the program can be asked to do. -/
def helpText : String :=
  usageText ++ "\nCommands:\n"
    ++ String.join (commandHelp.map fun c => "  " ++ c.1 ++ ": " ++ c.2 ++ "\n")
    ++ "\nOptions:\n"
    ++ String.join ((flagsOf none).map fun f => "  " ++ flagNames f ++ ": " ++ flagHelp f ++ "\n")

/-- The names of the commands, separated by spaces. -/
def commandWords : String := Text.join " " (commandHelp.map (·.1))

/-- A script that lets a shell complete the names of the commands. -/
def completionText : String → String
  | "fish" => "complete -c " ++ programName ++ " -f -a '" ++ commandWords ++ "'\n"
  | "powershell" =>
    "Register-ArgumentCompleter -Native -CommandName " ++ programName
      ++ " -ScriptBlock \x7b -split '" ++ commandWords ++ "' \x7d\n"
  | "elvish" =>
    "set edit:completion:arg-completer[" ++ programName ++ "] = \x7b|@words| put " ++ commandWords
      ++ " \x7d\n"
  | "zsh" => "#compdef " ++ programName ++ "\ncompadd " ++ commandWords ++ "\n"
  | _ => "complete -W '" ++ commandWords ++ "' " ++ programName ++ "\n"

end CrateGraph.CommandLine
