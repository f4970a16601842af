import WorkflowOutline.Command.Execution

/-!
# The program

Reads what a command line names from the file system, and leaves all else to
`Invocation.execute`.
-/

namespace WorkflowOutline.Program

/-- The reason behind an error number of the system, which may come negated. -/
def fileErrorOf (words : String) (code : UInt32) : FileError :=
  .ofCode words (min code.toNat (-code).toNat)

/-- The reason behind an error of the system. -/
def reasonOf : IO.Error → FileError
  | .noFileOrDirectory _ code words | .interrupted _ code words => fileErrorOf words code
  | .permissionDenied _ code words | .inappropriateType _ code words
  | .invalidArgument _ code words | .resourceExhausted _ code words
  | .noSuchThing _ code words | .alreadyExists _ code words => fileErrorOf words code
  | .otherError code words | .resourceBusy code words | .resourceVanished code words
  | .unsupportedOperation code words | .hardwareFault code words
  | .unsatisfiedConstraints code words | .illegalOperation code words
  | .protocolError code words | .timeExpired code words => fileErrorOf words code
  | .userError words => .other words 0
  | .unexpectedEof => .other "unexpected end of file" 0

/-- What a path leads to, if it leads anywhere; it need not be readable. -/
def typeOf? (path : String) : BaseIO (Option IO.FS.FileType) := do
  match ← (do return (← (← IO.FS.realPath path).metadata).type : IO _).toBaseIO with
  | .ok type => return some type
  | .error _ => return none

/-- Reads a file; a directory shows as an empty one. -/
def readFile (path : String) : BaseIO (Except FileError FileTree) := do
  match ← (IO.FS.readBinFile path).toBaseIO with
  | .ok bytes => return .ok (.file (.ofBytes bytes))
  | .error e =>
      match reasonOf e, ← typeOf? path with
      | .isDirectory, _ => return .ok (.directory [])
      | reason, some .file => return .ok (.file (.error reason))
      | reason, _ => return .error reason

/-- The names of the entries of a directory, none where they cannot be listed. -/
def entryNames (path : String) : BaseIO (List String) := do
  match ← (do return ← (← IO.FS.realPath path).readDir : IO _).toBaseIO with
  | .ok entries => return (entries.map fun e => e.fileName).toList
  | .error _ => return []

/-- Reads a file, or a directory with all that is below it; a directory that cannot be read shows as
an empty one. -/
partial def readTree (path : String) : BaseIO (Except FileError FileTree) := do
  match ← readFile path with
  | .ok (.directory _) => do
      let entries ← (← entryNames path).mapM fun name => do
        match ← readTree (Path.below path [name]) with
        | .ok t => return (name, t)
        | .error reason => return (name, .file (.error reason))
      return .ok (.directory entries)
  | .error reason =>
      return if (← typeOf? path) == some .dir then .ok (.directory []) else .error reason
  | file => return file

/-- Reads what an invocation needs of what its value leads to. -/
def readTarget (i : Invocation) : BaseIO (Except FileError FileTree) :=
  match i.subcommand with
  | .run => readFile i.value
  | .test => readTree i.value

/-- What the environment says about colours; texts that are no TOML are refused without a reason. -/
def surroundings : BaseIO Surroundings := do
  return ⟨⟨← IO.getEnv "TERM", (← IO.getEnv "NO_COLOR").isSome⟩, Toml.bareRefusal⟩

/-- Writes what a run of the program leaves behind. -/
def report (o : Outcome) : IO UInt32 := do
  (← IO.getStdout).putStr o.stdout
  (← IO.getStderr).putStr o.stderr
  return o.exitCode.toUInt32

end WorkflowOutline.Program

open WorkflowOutline in
/-- Runs the program on the real file system. -/
def main (args : List String) : IO UInt32 := do
  match Invocation.ofVector (programName :: args) with
  | .error reply => Program.report reply.outcome
  | .ok i => do
      let target ← Program.readTarget i
      Program.report (i.execute (← Program.surroundings) target)
