import WorkflowOutline.Command.Basic

/-!
# Arguments

`Argument` is the form of one argument of a command line. `withDefaultSubcommand` lets a file stand
in the place of a subcommand: if the first argument without a dash is none of the known words, `run`
is put in front of it.
-/

namespace WorkflowOutline

/-! ## The form of an argument -/

/-- What an argument looks like. -/
inductive Argument where
  /-- Two dashes alone: what follows is not read for flags. -/
  | escape
  /-- Two dashes and a name, with or without an equals sign and a value. -/
  | long (name : String) (value : Option String)
  /-- A dash and letters, of which the first one counts. -/
  | short (letter : Char)
  /-- Anything else, a dash alone included. -/
  | word
deriving DecidableEq, Repr

namespace Argument

/-- The parts of a long argument behind its dashes. -/
def ofLongName (text : List Char) : Argument :=
  match text.dropWhile (· != '=') with
  | [] => long (String.ofList text) none
  | _ :: value => long (String.ofList (text.takeWhile (· != '='))) (some (String.ofList value))

/-- The form of an argument. -/
def ofString (s : String) : Argument :=
  match s.toList with
  | ['-', '-'] => escape
  | '-' :: '-' :: text => ofLongName text
  | '-' :: letter :: _ => short letter
  | _ => word

end Argument

/-! ## The default subcommand -/

/-- Whether an argument starts with a dash. -/
def hasDash (arg : String) : Bool := arg.toList.head? == some '-'

/-- The arguments with `run` in front of the first one without a dash, unless that is a word of the
command language. -/
def withDefaultSubcommand : List String → List String
  | [] => []
  | arg :: rest =>
      if hasDash arg then arg :: withDefaultSubcommand rest
      else if arg ∈ commandKeywords then arg :: rest
      else Subcommand.run.keyword :: arg :: rest

/-- The completed form of an argument vector, whose first member is the name of the program. -/
def completeVector : List String → List String
  | [] => []
  | program :: args => program :: withDefaultSubcommand args

end WorkflowOutline
