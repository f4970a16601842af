import WorkflowOutline.Command.Outcome
import WorkflowOutline.Fixture.Check
import WorkflowOutline.Fixture.Discovery
import WorkflowOutline.Outline.Decode
import WorkflowOutline.Text.Basic

/-!
# Reports on fixtures

Each fixture is run on its own (`File.run`). The report has one line for each fixture, then the
reasons of those that failed, and then the counts. A run in which no fixture was found is a failure.
-/

namespace WorkflowOutline.Fixture

/-! ## Results -/

/-- What came of a fixture file; `reason` is set if it failed. -/
structure TestResult where
  path : String
  name : String
  description : Option String
  reason : Option String
deriving DecidableEq, Repr

namespace TestResult

/-- Whether the fixture passed. -/
def passed (r : TestResult) : Bool := r.reason.isNone

end TestResult

/-- Runs a fixture file. -/
def File.run (refusal : Toml.Refusal) (f : File) : TestResult :=
  match f.content with
  | .error e => ⟨f.path, f.name, none, some ((LoadError.unreadable f.path e).message refusal)⟩
  | .ok source =>
      let result := Fixture.run source
      ⟨f.path, f.name, result.description,
        result.failure.map fun failure => failure.text source refusal⟩

/-! ## Lines of the report -/

/-- A word in green if it is good news and in red otherwise; without colours just the word. -/
def verdictWord (colored good : Bool) (word : String) : String :=
  if colored then (if good then "\x1b[32m" else "\x1b[31m") ++ word ++ "\x1b[0m" else word

/-- The line that tells whether a fixture passed. -/
def statusLine (colored : Bool) (r : TestResult) : String :=
  verdictWord colored r.passed (if r.passed then "PASS" else "FAIL") ++ "  " ++ r.name
    ++ (match r.description with
      | none => ""
      | some description => " (" ++ description ++ ")")

/-- The lines that explain a failure: the path, and the reason set in by two columns. -/
def detailLines (r : TestResult) : List String :=
  match r.reason with
  | none => []
  | some reason => "" :: (r.path ++ ":") :: (Text.lines reason).map fun line => "  " ++ line

/-- The number of fixtures that passed. -/
def passedCount (results : List TestResult) : Nat := (results.filter TestResult.passed).length

/-- The number of fixtures that failed. -/
def failedCount (results : List TestResult) : Nat :=
  (results.filter fun r => !r.passed).length

/-- The line with the counts. -/
def summaryLine (colored : Bool) (results : List TestResult) : String :=
  let good := failedCount results == 0
  verdictWord colored good (if good then "ok" else "FAILED") ++ ". "
    ++ toString (passedCount results) ++ " passed, " ++ toString (failedCount results) ++ " failed"

/-- The whole report on results, of which there are some. -/
def reportLines (colored : Bool) (results : List TestResult) : List String :=
  results.map (statusLine colored) ++ results.flatMap detailLines
    ++ ["", summaryLine colored results]

/-- Whether there are results and all are passes. -/
def allPassed (results : List TestResult) : Bool :=
  !results.isEmpty && results.all TestResult.passed

/-! ## The test command -/

/-- Runs the fixtures that a path stands for. The report goes where errors go. -/
def runAt (refusal : Toml.Refusal) (path : String) (target : Except FileError FileTree)
    (colored : Bool) : Outcome :=
  let results := (filesAt path target).map (File.run refusal)
  let lines :=
    if results.isEmpty then ["no " ++ nameEnd ++ " files found in " ++ path]
    else reportLines colored results
  ⟨if allPassed results then 0 else 1, "", Outcome.ofLines lines⟩

end WorkflowOutline.Fixture
