import WorkflowOutline.Fixture.Expectation
import WorkflowOutline.Outline.Build
import WorkflowOutline.Outline.Decode
import WorkflowOutline.Script.Canonical
import WorkflowOutline.Script.Validation
import WorkflowOutline.Text.Basic

/-!
# Checking fixtures

`Expectation.check` compares a script with an expectation and gives the first `Deviation`: in the
order of the declarations, then in the interpreter line, then in the validation errors.
`Fixture.run` does all that a fixture file asks for.
-/

namespace WorkflowOutline

/-! ## Deviations -/

/-- How a script differs from what was expected of it. -/
inductive Deviation where
  | order (expected actual : List String)
  | shebang (expected : String) (actual : Option String)
  | unexpectedErrors (messages : List String)
  | errorCount (expected : Nat) (messages : List String)
  | errorMessage (index : Nat) (expected actual : String)
deriving DecidableEq, Repr

/-- Lines, each set in by four columns. -/
def indentedList (items : List String) : String :=
  String.intercalate "\n" (items.map fun item => "    " ++ item)

/-- The explanation of a deviation. -/
def Deviation.text : Deviation → String
  | order expected actual =>
      "order mismatch\n  expected:\n" ++ indentedList expected ++ "\n  actual:\n"
        ++ indentedList actual
  | shebang expected actual =>
      "shebang mismatch\n  expected: " ++ expected ++ "\n  actual:   " ++ actual.getD "(none)"
  | unexpectedErrors messages => "unexpected validation error(s):\n" ++ indentedList messages
  | errorCount expected messages =>
      "expected " ++ toString expected ++ " validation error(s), got "
        ++ toString messages.length ++ "\n  actual errors:\n"
        ++ (if messages.isEmpty then "    (none)" else indentedList messages)
  | errorMessage index expected actual =>
      "error[" ++ toString index ++ "]: expected message containing \"" ++ expected ++ "\", got: "
        ++ actual

namespace Expectation

/-- Compares the headers, if an order is expected. -/
def checkOrder (e : Expectation) (s : Script) : Option Deviation :=
  match e.order with
  | .none => .none
  | some expected => if s.headers = expected then .none else some (.order expected s.headers)

/-- Compares the interpreter line, if one is expected. -/
def checkShebang (e : Expectation) (s : Script) : Option Deviation :=
  match e.shebang with
  | .none => .none
  | some expected =>
      if s.shebang = some expected then .none else some (.shebang expected s.shebang)

/-- Compares messages with the parts expected of them, one by one and in order; with nothing
expected there may be no message. -/
def checkErrors (e : Expectation) (messages : List String) : Option Deviation :=
  match e.errors with
  | .none => if messages.isEmpty then .none else some (.unexpectedErrors messages)
  | some expected =>
      if expected.length ≠ messages.length then some (.errorCount expected.length messages)
      else
        ((expected.zip messages).zipIdx.find? fun p => !Text.containsText p.1.1 p.1.2).map
          fun p => .errorMessage p.2 p.1.1 p.1.2

/-- The first deviation of a script from the expectation. -/
def check (e : Expectation) (s : Script) : Option Deviation :=
  e.checkOrder s <|> e.checkShebang s
    <|> e.checkErrors (s.validate.map ValidationError.message)

end Expectation

/-! ## Fixtures -/

/-- Why a fixture fails. -/
inductive FixtureFailure where
  | outline (e : ReadError)
  | config (e : ReadError)
  | deviation (d : Deviation)
deriving DecidableEq, Repr

/-- The explanation of a failure, for the text of the fixture. -/
def FixtureFailure.text (f : FixtureFailure) (source : String)
    (refusal : Toml.Refusal := Toml.bareRefusal) : String :=
  match f with
  | outline e => (LoadError.invalid source e).message refusal
  | config e => "fixture error: " ++ e.report refusal source
  | deviation d => d.text

/-- What came of a fixture; its description is known only if all of it could be read. -/
structure FixtureResult where
  description : Option String
  failure : Option FixtureFailure
deriving DecidableEq, Repr

namespace Fixture

/-- Runs the fixture of a document: its outline is read, then its expectation, and the script of
the outline is checked. -/
def runDocument (entries : Toml.Entries) : FixtureResult :=
  match Outline.ofDocument entries with
  | .error e => ⟨none, some (.outline (.schema e))⟩
  | .ok outline =>
      match FixtureConfig.ofDocument entries with
      | .error e => ⟨none, some (.config (.schema e))⟩
      | .ok config =>
          ⟨config.description, (config.expectation.check (outline.build 0 0)).map .deviation⟩

/-- Runs the fixture that a text describes. -/
def run (source : String) : FixtureResult :=
  match readDocument source with
  | .error e => ⟨none, some (.outline e)⟩
  | .ok entries => runDocument entries

end Fixture

end WorkflowOutline
