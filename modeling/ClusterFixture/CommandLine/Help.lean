/-
The texts about the command line.

What an option or a command is for stands in a column of its own, two blanks to the right of the
longest name.
-/

import ClusterFixture.CommandLine.Arguments

set_option autoImplicit false

namespace ClusterFixture.CommandLine

/-- The name of the program. -/
def programName : String := "gpfixture"

/-- The version of the program. -/
def programVersion : String := "0.1.0"

/-- What a command does. -/
def Verb.about : Verb → String
  | .waitInSync => "Wait until every segment is synchronized and up"
  | .waitResync => "Wait until every segment out of sync is resynchronizing"
  | .waitChangeTracking => "Wait until at least one segment is in change tracking"
  | .backup => "Dump every user table of a database into the data directory"
  | .validate => "Compare every user table of a database with its backup dump"
  | .segments => "Print the segment layout"

/-- Rows of two columns. -/
def columns (rows : List (String × String)) : List String :=
  let width := (rows.map fun r => r.1.length).foldl max 0
  rows.map fun (left, right) =>
    "  " ++ left ++ String.ofList (List.replicate (width + 2 - left.length) ' ') ++ right

/-- An option with a word for its value. -/
def OptionRule.usage (r : OptionRule) : String :=
  "--" ++ r.name ++ " <"
    ++ String.ofList (r.name.toList.map fun c => if c = '-' then '_' else c.toUpper) ++ ">"

/-- The row of the option that asks for help. -/
def helpRow : String × String := ("-h, --help", "Print help")

/-- The text about a command. -/
def Verb.help (v : Verb) : String :=
  let required := v.options.filter (·.required)
  let usage := [programName, v.name]
    ++ (if required.length < v.options.length then ["[OPTIONS]"] else [])
    ++ required.map OptionRule.usage
  let rows := v.options.map fun r => ("    " ++ r.usage, r.about)
  Text.joinWith "\n"
    ([v.about, "", "Usage: " ++ Text.joinWith " " usage, "", "Options:"]
      ++ columns (rows ++ [helpRow])) ++ "\n"

/-- What the command that shows help texts does. -/
def helpAbout : String := "Print this message or the help of the given subcommand(s)"

/-- The text about the command that shows help texts. -/
def helpOnHelp : String :=
  let topics := "[COMMAND]..."
  Text.joinWith "\n"
    ([helpAbout, "", "Usage: " ++ programName ++ " " ++ helpCommand ++ " " ++ topics, "",
        "Arguments:"]
      ++ columns [(topics, "Print help for the subcommand(s)")]) ++ "\n"

/-- The text about all commands. -/
def overview : String :=
  let commands := (Verb.all.map fun v => (v.name, v.about)) ++ [(helpCommand, helpAbout)]
  Text.joinWith "\n"
    (["Drives Greenplum test fixtures from the shell", "",
        "Usage: " ++ programName ++ " <COMMAND>", "", "Commands:"]
      ++ columns commands ++ ["", "Options:"]
      ++ columns [helpRow, ("-V, --version", "Print version")]) ++ "\n"

/-- The text about a topic. -/
def Topic.text : Topic → String
  | .program => overview
  | .command v => v.help
  | .help => helpOnHelp

/-- The text that says the version. -/
def version : String := programName ++ " " ++ programVersion ++ "\n"

end ClusterFixture.CommandLine
