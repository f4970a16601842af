import WorkflowOutline.Command.Invocation
import WorkflowOutline.Snippet.Picture
import WorkflowOutline.Fixture.Report
import WorkflowOutline.Script.Dump

/-!
# Executing command lines

`Invocation.execute` does what an invocation asks for, given what its value leads to: `run` builds
and seals the script of an outline file and shows it, `test` reports on fixtures. `Outcome.ofVector`
is the program for an argument vector, wherever paths may lead, and `executeVector` the program in a
directory of its own.
-/

namespace WorkflowOutline

/-- The identity of the one script that a run of the program builds. -/
def soleIdentity : UInt64 := 0

/-- The number of the one source file that a run of the program reads. -/
def soleFileId : Nat := 0

/-- What a run of the program depends on besides its arguments and files: the environment, and what
is said of a text that is no TOML. -/
structure Surroundings extends Environment where
  refusal : Toml.Refusal

/-! ## Listing -/

/-- The interpreter line, if there is one, and the headers in canonical order. -/
def Script.listing (s : Script) : List String := s.shebang.toList ++ s.headers

/-- What a run with a valid script shows: only that it is valid, or all that it holds, or its
listing. -/
def showScript (i : Invocation) (s : SealedScript) : Outcome :=
  if i.has .check then ⟨0, "", Outcome.ofLines ["ok: " ++ i.value ++ " is a valid script"]⟩
  else if i.has .ast then .printed [s.script.dump.render]
  else .printed s.script.listing

/-! ## Commands -/

/-- Whether a run shows colours. -/
def Invocation.colored (i : Invocation) (env : Environment) : Bool :=
  !i.has .noColor && env.allowsColor

/-- The report on validation errors, each shown in the source. -/
def renderErrors (name source : String) (colored : Bool) (es : List ValidationError) : String :=
  String.join (es.map fun e => (e.toDiagnostic soleFileId).render name source colored)

/-- Loads an outline, seals its script and shows it. -/
def runOutline (i : Invocation) (env : Surroundings) (target : Except FileError FileTree) :
    Outcome :=
  match Outline.load i.value (target.bind FileTree.read) with
  | .error e => .failed 1 (Outcome.ofLines ["error: " ++ e.message env.refusal])
  | .ok (source, outline) =>
      match (outline.build soleIdentity soleFileId).finalize with
      | .error es => .failed 1 (renderErrors i.value source (i.colored env.toEnvironment) es)
      | .ok s => showScript i s

/-- Does what an invocation asks for, given what its value leads to. The colours of `test` hang on
its flag alone. -/
def Invocation.execute (i : Invocation) (env : Surroundings) (target : Except FileError FileTree) :
    Outcome :=
  match i.subcommand with
  | .run => runOutline i env target
  | .test => Fixture.runAt env.refusal i.value target (!i.has .noColor)

/-- The program with the given argument vector, where `target` is what each path leads to. -/
def Outcome.ofVector (argv : List String) (env : Surroundings)
    (target : String → Except FileError FileTree) : Outcome :=
  match Invocation.ofVector argv with
  | .error reply => reply.outcome
  | .ok i => i.execute env (target i.value)

/-- The program with the given argument vector, in the directory `tree`, which is all there is. -/
def executeVector (argv : List String) (env : Environment) (tree : FileTree) : Outcome :=
  .ofVector argv ⟨env, Toml.bareRefusal⟩ (FileSystem.ofDirectory tree).find

end WorkflowOutline
