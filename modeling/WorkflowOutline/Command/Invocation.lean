import WorkflowOutline.Command.Arguments
import WorkflowOutline.Command.Outcome
import WorkflowOutline.Command.Usage

/-!
# Understanding command lines

`Invocation.ofVector` completes an argument vector and reads it from the left. It ends in an
`Invocation`, or in a `Reply` at the first argument that asks for help or the version or is an
error.

Two dashes alone are followed by values only. Flags come before or behind the value; the one against
colours may also stand in front of the subcommand. No flag may be given twice at the same level.
-/

namespace WorkflowOutline

/-! ## Replies -/

/-- An answer that needs no file. -/
inductive Reply where
  | help (topic : Topic)
  | version
  /-- Nothing was asked for. -/
  | idle
  | usage (e : UsageError)
deriving DecidableEq, Repr

namespace Reply

/-- The exit code for command lines that are not understood. -/
def usageExitCode : UInt8 := 2

/-- What an answer leaves behind. -/
def outcome : Reply → Outcome
  | help topic => .printed topic.helpLines
  | version => .printed [programName ++ " " ++ programVersion]
  | idle => .failed usageExitCode (Outcome.ofLines Topic.program.helpLines)
  | usage e => .failed usageExitCode (Outcome.ofLines e.lines)

/-- The answer to an option that has a meaning but takes no value. -/
def unlessValued (topic : Topic) (name : String) (value : Option String) (reply : Reply) : Reply :=
  match value with
  | none => reply
  | some value => .usage (.unexpectedValue topic ("--" ++ name) value)

end Reply

namespace Invocation

/-! ## Subcommands -/

/-- Takes in one more flag, which may not have a value or be repeated. -/
def addFlag (topic : Topic) (given : List Flag) (f : Flag) (value : Option String) :
    Except Reply (List Flag) :=
  match value with
  | some value => .error (.usage (.unexpectedValue topic f.spelling value))
  | none => if f ∈ given then .error (.usage (.repeated topic f)) else .ok (given ++ [f])

/-- Takes in the value, of which there is one. -/
def addValue (c : Subcommand) (given : Option String) (arg : String) :
    Except Reply (Option String) :=
  match given with
  | none => .ok (some arg)
  | some _ => .error (.usage (.unexpected (.subcommand c) arg none))

/-- Reads the values behind two dashes. -/
def readValues (c : Subcommand) : Option String → List String → Except Reply (Option String)
  | given, [] => .ok given
  | given, arg :: rest => do
      let given ← addValue c given arg
      readValues c given rest

/-- The end of a command line: the value must have been given. -/
def close (c : Subcommand) (flags : List Flag) (value : Option String) :
    Except Reply Invocation :=
  match value with
  | none => .error (.usage (.missingValue c flags))
  | some value => .ok ⟨c, flags, value⟩

/-- Reads the arguments of a subcommand, after some flags and perhaps the value. -/
def readSubcommand (c : Subcommand) (flags : List Flag) (value : Option String) :
    List String → Except Reply Invocation
  | [] => close c flags value
  | arg :: rest =>
      let topic := Topic.subcommand c
      let unexpected (arg : String) : Reply := .usage (.unexpected topic arg (some .asValue))
      match Argument.ofString arg with
      | .word => do
          let value ← addValue c value arg
          readSubcommand c flags value rest
      | .escape => do
          let value ← readValues c value rest
          close c flags value
      | .long name attached =>
          if name = "help" then .error (.unlessValued topic name attached (.help topic))
          else
            match c.flag? name with
            | none => .error (unexpected ("--" ++ name))
            | some f => do
                let flags ← addFlag topic flags f attached
                readSubcommand c flags value rest
      | .short letter =>
          if letter = 'h' then .error (.help topic)
          else .error (unexpected ("-" ++ letter.toString))

/-! ## The whole command line -/

/-- The answer to a request for help with the words behind it. -/
def helpReply : List String → Reply
  | [] => .help .program
  | word :: rest =>
      match Topic.ofKeyword? word with
      | none => .usage (.unknownSubcommand word)
      | some topic =>
          match rest with
          | [] => .help topic
          | word :: _ => .usage (.unknownSubcommand word)

/-- The answer to a command line without a subcommand. -/
def incompleteReply (flags : List Flag) : Reply :=
  if flags.isEmpty then .idle else .usage .missingSubcommand

/-- The answer to a word that stands behind two dashes in front of any subcommand. -/
def escapedReply (word : String) : Reply :=
  if word ∈ commandKeywords then .usage (.unexpected .program word (some .withoutEscape))
  else .usage (.unknownSubcommand word)

/-- The remark on a flag that is not known in front of the subcommand: `run` may know it. -/
def misplacedTip (name : String) (rest : List String) : Option Tip :=
  if (Subcommand.run.flag? name).isSome ∧ Subcommand.run.keyword ∈ rest then
    some (.existsIn .run)
  else none

/-- Reads a command line in which every subcommand is spelled out, after some flags. -/
def readProgram (flags : List Flag) : List String → Except Reply Invocation
  | [] => .error (incompleteReply flags)
  | arg :: rest =>
      match Argument.ofString arg with
      | .word =>
          match Topic.ofKeyword? arg with
          | some (.subcommand c) => do
              let i ← readSubcommand c [] none rest
              return { i with flags := flags ++ i.flags }
          | some .help => .error (helpReply rest)
          | _ => .error (.usage (.unknownSubcommand arg))
      | .escape =>
          match rest with
          | [] => .error (incompleteReply flags)
          | word :: _ => .error (escapedReply word)
      | .long name attached =>
          if name = "help" then
            .error (.unlessValued .program name attached (.help .program))
          else if name = "version" then .error (.unlessValued .program name attached .version)
          else if name = Flag.noColor.name then do
            let flags ← addFlag .program flags .noColor attached
            readProgram flags rest
          else .error (.usage (.unexpected .program ("--" ++ name) (misplacedTip name rest)))
      | .short letter =>
          if letter = 'h' then .error (.help .program)
          else if letter = 'V' then .error .version
          else .error (.usage (.unexpected .program ("-" ++ letter.toString) none))

/-- What an argument vector asks for. -/
def ofVector (argv : List String) : Except Reply Invocation :=
  readProgram [] (completeVector argv).tail

end Invocation

end WorkflowOutline
