import PageRecipe.Command.Arguments

/-!
# Help

What is shown to someone who asks for help or whose command line cannot be read, and the words
that command interpreters offer to complete a command line with.
-/

namespace PageRecipe

/-- The name of the program. -/
def programName : String := "recipe-lint"

/-- The line with the version of the program. -/
def versionLine : String := programName ++ " 0.3.0\n"

/-- The commands with what they do. -/
def commandSummaries : List (String × String) :=
  [("check", "Check documents against their recipes"),
    ("recipe", "Show a recipe's ingredient tree"),
    ("inspect", "Show a document's front matter keys and prose tree"),
    ("config", "Manage settings"),
    ("completion", "Generate shell completions"),
    ("help", "Print this message")]

/-- How the program is called. -/
def usageText : String :=
  "Usage: " ++ programName ++ " [OPTIONS] <COMMAND>\n\nCommands:\n" ++
    String.join (commandSummaries.map fun (name, summary) =>
      "  " ++ name ++ "".pushn ' ' (12 - name.length) ++ summary ++ "\n")

/-- What is wrong with a command line, in words. -/
def UsageError.message : UsageError → String
  | help | nothingGiven => "help was asked for"
  | version => "the version was asked for"
  | unknownArgument => "unexpected argument"
  | unknownCommand => "unrecognized subcommand"
  | invalidValue => "invalid value for an argument"
  | missingArgument => "a required argument was not provided"
  | missingCommand => "a subcommand is required but was not provided"
  | repeatedOption => "an argument cannot be used multiple times"
  | needlessValue => "unexpected value for an argument that takes none"

/-- The words that can follow the name of the program. -/
def commandWords : String := " ".intercalate (commandSummaries.map (·.1))

/-- A script that makes a command interpreter offer the names of the commands. -/
def Shell.script : Shell → String
  | bash => "complete -W \"" ++ commandWords ++ "\" " ++ programName ++ "\n"
  | elvish =>
    "set edit:completion:arg-completer[" ++ programName ++ "] = \x7b |@words| put " ++
      commandWords ++ " \x7d\n"
  | fish => "complete -c " ++ programName ++ " -f -a \"" ++ commandWords ++ "\"\n"
  | powershell =>
    "Register-ArgumentCompleter -Native -CommandName " ++ programName ++
      " -ScriptBlock \x7b '" ++ commandWords ++ "'.Split(' ') \x7d\n"
  | zsh =>
    "#compdef " ++ programName ++ "\n_arguments '1:command:(" ++ commandWords ++ ")'\n"

end PageRecipe
