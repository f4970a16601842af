/-!
# Outcomes of commands

An `Outcome` is all that a run of the program leaves behind: its exit code and what it wrote.
-/

namespace WorkflowOutline

/-- What a run of the program leaves behind. -/
structure Outcome where
  exitCode : UInt8
  stdout : String
  stderr : String
deriving DecidableEq, Repr

namespace Outcome

/-- Lines, each with its end. -/
def ofLines (lines : List String) : String := String.join (lines.map fun line => line ++ "\n")

/-- A run that went well and printed some lines. -/
def printed (lines : List String) : Outcome := ⟨0, ofLines lines, ""⟩

/-- A run that failed and wrote nothing but the reason. -/
def failed (exitCode : UInt8) (reason : String) : Outcome := ⟨exitCode, "", reason⟩

end Outcome

/-! ## Colours -/

/-- What the environment says about colours. -/
structure Environment where
  /-- The kind of terminal. -/
  terminal : Option String
  /-- Whether colours are ruled out, with whatever text. -/
  noColor : Bool
deriving DecidableEq, Repr

/-- Colours need a known terminal that has them. -/
def Environment.allowsColor (env : Environment) : Bool :=
  !env.noColor && (match env.terminal with
    | none => false
    | some terminal => terminal != "dumb")

end WorkflowOutline
