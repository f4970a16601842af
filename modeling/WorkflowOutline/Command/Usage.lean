import WorkflowOutline.Command.Help

/-!
# Usage errors

A `UsageError` says why a command line was not understood. Its text ends with the usage of the topic
that the error concerns.
-/

namespace WorkflowOutline

/-- A remark on what may have been meant by an unexpected argument. -/
inductive Tip where
  /-- The argument can be given as a value. -/
  | asValue
  /-- The subcommand knows the argument. -/
  | existsIn (c : Subcommand)
  /-- The argument is a subcommand if no `--` is in front of it. -/
  | withoutEscape
deriving DecidableEq, Repr

/-- The text of a remark on an argument. -/
def Tip.text (arg : String) : Tip → String
  | asValue => "to pass '" ++ arg ++ "' as a value, use '-- " ++ arg ++ "'"
  | existsIn c => "'" ++ c.keyword ++ " " ++ arg ++ "' exists"
  | withoutEscape => "subcommand '" ++ arg ++ "' exists; to use it, remove the '--' before it"

/-- Why a command line was not understood. -/
inductive UsageError where
  | missingSubcommand
  | unknownSubcommand (word : String)
  | unexpected (topic : Topic) (arg : String) (tip : Option Tip)
  | unexpectedValue (topic : Topic) (option value : String)
  | repeated (topic : Topic) (f : Flag)
  | missingValue (c : Subcommand) (given : List Flag)
deriving DecidableEq, Repr

namespace UsageError

/-- What is wrong. -/
def reason : UsageError → String
  | missingSubcommand =>
      "'" ++ programName ++ "' requires a subcommand but one was not provided\n  [subcommands: "
        ++ String.intercalate ", " commandKeywords ++ "]"
  | unknownSubcommand word => "unrecognized subcommand '" ++ word ++ "'"
  | unexpected _ arg _ => "unexpected argument '" ++ arg ++ "' found"
  | unexpectedValue _ option value =>
      "unexpected value '" ++ value ++ "' for '" ++ option ++ "' found; no more were expected"
  | repeated _ f => "the argument '" ++ f.spelling ++ "' cannot be used multiple times"
  | missingValue c _ =>
      "the following required arguments were not provided:\n  " ++ c.valueName

/-- The remark on the error, if there is one. -/
def tip? : UsageError → Option String
  | unexpected _ arg tip => tip.map (Tip.text arg)
  | _ => none

/-- The usage that the error reminds of; where the value is missing, with the flags given. -/
def usage : UsageError → String
  | missingSubcommand => Topic.program.usage
  | unknownSubcommand _ => Topic.program.usage
  | unexpected topic _ _ => topic.usage
  | unexpectedValue topic _ _ => topic.usage
  | repeated topic _ => topic.usage
  | missingValue c given =>
      String.intercalate " "
        ([programName, c.keyword] ++ given.map Flag.spelling ++ [c.valueName])

/-- The lines of the error. -/
def lines (e : UsageError) : List String :=
  ("error: " ++ e.reason) :: ""
    :: (match e.tip? with
      | none => []
      | some tip => ["  tip: " ++ tip, ""])
    ++ ["Usage: " ++ e.usage, "", "For more information, try '--help'."]

end UsageError

end WorkflowOutline
