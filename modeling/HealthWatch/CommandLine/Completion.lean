import HealthWatch.CommandLine.Command

/-! # Completions for shells

Each script makes a shell offer the subcommands and the options that stand in front of them.
-/

namespace HealthWatch.CommandLine

/-- The words that can be completed after the name of the program. -/
def completedWords : List String :=
  root.subcommands ++ [Grammar.helpWord] ++ root.options.map fun option => "--" ++ option.name

/-- The completed words with blanks between them. -/
def completedLine : String := " ".intercalate completedWords

/-- The script that teaches a shell the words of the command line. -/
def completions : Shell → String
  | .bash => "complete -W \"" ++ completedLine ++ "\" " ++ program ++ "\n"
  | .elvish =>
      "set edit:completion:arg-completer[" ++ program ++ "] = \x7b|@words| put " ++
        completedLine ++ " \x7d\n"
  | .fish => "complete -c " ++ program ++ " -f -a \"" ++ completedLine ++ "\"\n"
  | .powershell =>
      "Register-ArgumentCompleter -Native -CommandName " ++ program ++
        " -ScriptBlock \x7b '" ++ completedLine ++ "' -split ' ' \x7d\n"
  | .zsh => "#compdef " ++ program ++ "\n_arguments '1: :(" ++ completedLine ++ ")'\n"

end HealthWatch.CommandLine
