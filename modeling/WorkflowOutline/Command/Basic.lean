/-!
# The command language

The program has the subcommands `run`, which lists the declarations of an outline file, and `test`,
which runs fixtures. Each takes one value and some flags. `Invocation` is what a command line asks
for, once it is understood.
-/

namespace WorkflowOutline

/-- The name of the program. -/
def programName : String := "fls"

/-- The version of the program. -/
def programVersion : String := "0.1.0"

/-! ## Flags -/

/-- The flags besides those that ask for help or the version. -/
inductive Flag where
  | check
  | ast
  | noColor
deriving DecidableEq, Repr

namespace Flag

/-- The name of a flag, without dashes. -/
def name : Flag → String
  | check => "check"
  | ast => "ast"
  | noColor => "no-color"

/-- A flag as it is written. -/
def spelling (f : Flag) : String := "--" ++ f.name

end Flag

/-! ## Subcommands -/

/-- What the program can do. -/
inductive Subcommand where
  | run
  | test
deriving DecidableEq, Repr

namespace Subcommand

/-- The word for a subcommand. -/
def keyword : Subcommand → String
  | run => "run"
  | test => "test"

/-- The flags of a subcommand. Colours can be turned off for every one. -/
def flags : Subcommand → List Flag
  | run => [.check, .noColor, .ast]
  | test => [.noColor]

/-- The name of the value that a subcommand takes. -/
def valueName : Subcommand → String
  | run => "<FILE>"
  | test => "<PATH>"

/-- The flag of a subcommand with the given name. -/
def flag? (c : Subcommand) (name : String) : Option Flag := c.flags.find? fun f => f.name == name

end Subcommand

/-- The word that asks for help on the words behind it. -/
def helpKeyword : String := "help"

/-- Every word that can stand in the place of a subcommand. -/
def commandKeywords : List String :=
  [Subcommand.run.keyword, Subcommand.test.keyword, helpKeyword]

/-! ## Invocations -/

/-- A command line that was understood: what to do, with the flags given and the value. -/
structure Invocation where
  subcommand : Subcommand
  flags : List Flag
  value : String
deriving DecidableEq, Repr

/-- Whether a flag was given. -/
def Invocation.has (i : Invocation) (f : Flag) : Bool := i.flags.contains f

/-! ## Topics of help -/

/-- What help can be about. -/
inductive Topic where
  | program
  | subcommand (c : Subcommand)
  | help
deriving DecidableEq, Repr

/-- The topic that a word stands for. -/
def Topic.ofKeyword? (word : String) : Option Topic :=
  if word = Subcommand.run.keyword then some (.subcommand .run)
  else if word = Subcommand.test.keyword then some (.subcommand .test)
  else if word = helpKeyword then some .help
  else none

end WorkflowOutline
