import WorkflowOutline.Command.Basic

/-!
# Help texts

Every topic has a purpose, a usage line and tables of what can be given.
-/

namespace WorkflowOutline.Topic

/-- What the topic is for. -/
def purpose : Topic → String
  | program => "Workflow script outline tool"
  | subcommand .run => "Print a script outline's declarations in canonical order"
  | subcommand .test => "Run .test.toml fixture files"
  | help => "Print this message or the help of the given subcommand(s)"

/-- How the topic is used. -/
def usage : Topic → String
  | program => programName ++ " [OPTIONS] <COMMAND>"
  | subcommand c => programName ++ " " ++ c.keyword ++ " [OPTIONS] " ++ c.valueName
  | help => programName ++ " help [COMMAND]..."

/-- A titled table. -/
structure Table where
  title : String
  /-- What can be given, and what it means. -/
  rows : List (String × String)

/-- The width of the first column of a table. -/
def Table.width (t : Table) : Nat := (t.rows.map fun row => row.1.length).foldl max 0

/-- The lines of a table, with an empty one in front. -/
def Table.lines (t : Table) : List String :=
  "" :: (t.title ++ ":") :: t.rows.map fun (left, right) =>
    "  " ++ left ++ String.ofList (List.replicate (t.width - left.length) ' ') ++ "  " ++ right

/-- The row for help. -/
def helpRow : String × String := ("-h, --help", "Print help")

/-- What a flag does. -/
def flagMeaning : Flag → String
  | .check => "Validate only, don't print (exit 0 if valid)"
  | .ast => "Dump the built script node"
  | .noColor => "Disable colored error output"

/-- The row for a flag, which has no short form. -/
def flagRow (f : Flag) : String × String := ("    " ++ f.spelling, flagMeaning f)

/-- What a value is. -/
def valueMeaning : Subcommand → String
  | .run => "Outline file (TOML) to load"
  | .test => "Path to a .test.toml file or directory containing them"

/-- The tables of a topic. -/
def tables : Topic → List Table
  | program =>
      [⟨"Commands", [
          (Subcommand.run.keyword, (subcommand .run).purpose),
          (Subcommand.test.keyword, (subcommand .test).purpose),
          (helpKeyword, help.purpose)]⟩,
        ⟨"Options", [flagRow .noColor, helpRow, ("-V, --version", "Print version")]⟩]
  | subcommand c =>
      [⟨"Arguments", [(c.valueName, valueMeaning c)]⟩,
        ⟨"Options", c.flags.map flagRow ++ [helpRow]⟩]
  | help => [⟨"Arguments", [("[COMMAND]...", "Print help for the subcommand(s)")]⟩]

/-- The lines of the help on a topic. -/
def helpLines (t : Topic) : List String :=
  t.purpose :: "" :: ("Usage: " ++ t.usage) :: t.tables.flatMap Table.lines

end WorkflowOutline.Topic
