import Mathlib
import WorkflowOutline.Proofs.Command.Completion
import WorkflowOutline.Proofs.Command.Running

/-!
# The default subcommand

A command line whose first word is no word of the command language is completed by `run`, right in
front of that word (`completeVector_file`). So of the flags of a bare run those behind the file are
read by the subcommand (`readSubcommand_flags`), but those in front of it by the program, which
knows only the flag against colours (`readProgram_colorless`, `readProgram_unknown`).

`runsAlike_iff` compares a bare run with the one that spells out the subcommand in front of the same
arguments: the two end alike if nothing but the flag against colours stands in front of the file,
and otherwise the bare run is refused.
-/

namespace WorkflowOutline

/-! ## Flags and words as arguments -/

theorem hasDash_spelling (f : Flag) : hasDash f.spelling = true := by cases f <;> decide

theorem Argument.ofString_spelling (f : Flag) : ofString f.spelling = .long f.name none := by
  cases f <;> decide

theorem Argument.ofString_eq_word {arg : String} (h : hasDash arg = false) :
    ofString arg = .word := by
  unfold hasDash at h
  unfold ofString
  split
  · next harg => simp [harg] at h
  · next harg => simp [harg] at h
  · next harg => simp [harg] at h
  · rfl

/-! ## Reading flags -/

namespace Invocation

variable {given flags : List Flag}

theorem addFlag_eq_ok (topic : Topic) {f : Flag} (h : f ∉ given) :
    addFlag topic given f none = .ok (given ++ [f]) :=
  if_neg h

theorem notMem_of_nodup_append_cons {f : Flag} (h : (given ++ f :: flags).Nodup) : f ∉ given :=
  fun hf => (List.nodup_append.1 h).2.2 f hf f List.mem_cons_self rfl

theorem flag?_name {c : Subcommand} {f : Flag} (h : f ∈ c.flags) : c.flag? f.name = some f := by
  cases c <;> cases f <;> revert h <;> decide

/-- A subcommand takes in its flags one by one. -/
theorem readSubcommand_flags {c : Subcommand} (given : List Flag)
    (hknown : ∀ f ∈ flags, f ∈ c.flags) (hdistinct : (given ++ flags).Nodup)
    (value : Option String) (rest : List String) :
    readSubcommand c given value (flags.map Flag.spelling ++ rest) =
      readSubcommand c (given ++ flags) value rest := by
  induction flags generalizing given with
  | nil => rw [List.map_nil, List.nil_append, List.append_nil]
  | cons f flags ih =>
    have hhelp : f.name ≠ "help" := by cases f <;> decide
    have hnew := addFlag_eq_ok (.subcommand c) (notMem_of_nodup_append_cons hdistinct)
    rw [List.append_cons] at hdistinct
    have hrest := ih _ (fun g hg => hknown g (List.mem_cons_of_mem _ hg)) hdistinct
    rw [List.map_cons, List.cons_append, readSubcommand, List.append_cons, ← hrest]
    simp only [Argument.ofString_spelling, if_neg hhelp, flag?_name (hknown f List.mem_cons_self),
      hnew]
    rfl

theorem readProgram_noColor (h : .noColor ∉ given) (rest : List String) :
    readProgram given (Flag.noColor.spelling :: rest) =
      readProgram (given ++ [.noColor]) rest := by
  conv_lhs => unfold readProgram
  simp only [Argument.ofString_spelling, addFlag_eq_ok .program h]
  rfl

theorem readProgram_of_ne_noColor {f : Flag} (h : f ≠ .noColor) (rest : List String) :
    ∃ e, readProgram given (f.spelling :: rest) = .error (.usage e) := by
  unfold readProgram
  simp only [Argument.ofString_spelling]
  cases f with
  | noColor => exact absurd rfl h
  | check => exact ⟨_, rfl⟩
  | ast => exact ⟨_, rfl⟩

theorem readProgram_run (rest : List String) :
    readProgram given (Subcommand.run.keyword :: rest) =
      (readSubcommand .run [] none rest).map fun i => { i with flags := given ++ i.flags } := by
  have hword : Argument.ofString Subcommand.run.keyword = .word := by decide
  have htopic : Topic.ofKeyword? Subcommand.run.keyword = some (.subcommand .run) := by decide
  unfold readProgram
  simp only [hword, htopic]
  rfl

/-- The program takes in the flag against colours, and reads on. -/
theorem readProgram_colorless (given : List Flag) (hflags : ∀ f ∈ flags, f = .noColor)
    (hdistinct : (given ++ flags).Nodup) (rest : List String) :
    readProgram given (flags.map Flag.spelling ++ rest) = readProgram (given ++ flags) rest := by
  induction flags generalizing given with
  | nil => rw [List.map_nil, List.nil_append, List.append_nil]
  | cons f flags ih =>
    obtain rfl := hflags f List.mem_cons_self
    have hnew := notMem_of_nodup_append_cons hdistinct
    rw [List.append_cons] at hdistinct
    have hrest := ih _ (fun g hg => hflags g (List.mem_cons_of_mem _ hg)) hdistinct
    rw [List.map_cons, List.cons_append, readProgram_noColor hnew, hrest, ← List.append_cons]

/-- The program refuses every other flag. -/
theorem readProgram_unknown (given : List Flag) (hflags : ∃ f ∈ flags, f ≠ .noColor)
    (hdistinct : (given ++ flags).Nodup) (rest : List String) :
    ∃ e, readProgram given (flags.map Flag.spelling ++ rest) = .error (.usage e) := by
  induction flags generalizing given with
  | nil =>
    obtain ⟨f, hf, -⟩ := hflags
    cases hf
  | cons f flags ih =>
    by_cases hf : f = .noColor
    · subst hf
      have hothers : ∃ g ∈ flags, g ≠ .noColor := by
        obtain ⟨g, hg, hne⟩ := hflags
        exact ⟨g, (List.mem_cons.1 hg).resolve_left hne, hne⟩
      have hnew := notMem_of_nodup_append_cons hdistinct
      rw [List.append_cons] at hdistinct
      obtain ⟨e, he⟩ := ih _ hothers hdistinct
      exact ⟨e, (readProgram_noColor hnew _).trans he⟩
    · exact readProgram_of_ne_noColor hf _

/-! ## Command lines of runs -/

/-- The arguments of a run: a file, with flags in front of it and behind it. -/
def runArguments (before after : List Flag) (file : String) : List String :=
  before.map Flag.spelling ++ file :: after.map Flag.spelling

variable {before after : List Flag} {file : String}

theorem readSubcommand_runArguments (hdash : hasDash file = false)
    (hdistinct : (before ++ after).Nodup) :
    readSubcommand .run [] none (runArguments before after file) =
      .ok ⟨.run, before ++ after, file⟩ := by
  have hknown : ∀ f : Flag, f ∈ Subcommand.run.flags := by rintro ⟨⟩ <;> decide
  have hbefore := readSubcommand_flags [] (fun f (_ : f ∈ before) => hknown f)
    (List.nodup_append.1 hdistinct).1 none (file :: after.map Flag.spelling)
  have hafter := readSubcommand_flags before (fun f (_ : f ∈ after) => hknown f) hdistinct
    (some file) []
  rw [List.append_nil] at hafter
  rw [runArguments, hbefore, List.nil_append, readSubcommand]
  simp only [Argument.ofString_eq_word hdash]
  exact hafter

/-- With the subcommand spelled out, the subcommand reads all flags. -/
theorem ofVector_run (hdash : hasDash file = false) (hdistinct : (before ++ after).Nodup)
    (program : String) :
    ofVector (program :: Subcommand.run.keyword :: runArguments before after file) =
      .ok ⟨.run, before ++ after, file⟩ := by
  rw [ofVector, completeVector, List.tail_cons,
    withDefaultSubcommand_keyword List.mem_cons_self, readProgram_run,
    readSubcommand_runArguments hdash hdistinct]
  rfl

theorem completeVector_runArguments (hdash : hasDash file = false) (hfile : file ∉ commandKeywords)
    (program : String) :
    completeVector (program :: runArguments before after file) =
      program :: (before.map Flag.spelling ++
        Subcommand.run.keyword :: runArguments [] after file) := by
  have hflags : ∀ arg ∈ before.map Flag.spelling, hasDash arg = true := by
    intro arg harg
    obtain ⟨f, -, rfl⟩ := List.mem_map.1 harg
    exact hasDash_spelling f
  exact completeVector_file hflags hdash hfile program _

theorem ofVector_bare (hdash : hasDash file = false) (hfile : file ∉ commandKeywords)
    (hdistinct : (before ++ after).Nodup) (hbefore : ∀ f ∈ before, f = .noColor)
    (program : String) :
    ofVector (program :: runArguments before after file) = .ok ⟨.run, before ++ after, file⟩ := by
  obtain ⟨hleft, hright, -⟩ := List.nodup_append.1 hdistinct
  have hread : readSubcommand .run [] none (runArguments [] after file) =
      .ok ⟨.run, after, file⟩ := readSubcommand_runArguments hdash hright
  rw [ofVector, completeVector_runArguments hdash hfile, List.tail_cons,
    readProgram_colorless [] hbefore hleft, readProgram_run, hread]
  rfl

theorem exists_ofVector_bare_eq_error (hdash : hasDash file = false)
    (hfile : file ∉ commandKeywords) (hdistinct : (before ++ after).Nodup)
    (hbefore : ∃ f ∈ before, f ≠ .noColor) (program : String) :
    ∃ e, ofVector (program :: runArguments before after file) = .error (.usage e) := by
  rw [ofVector, completeVector_runArguments hdash hfile, List.tail_cons]
  exact readProgram_unknown [] hbefore (List.nodup_append.1 hdistinct).1 _

end Invocation

/-! ## Bare runs -/

open Invocation (runArguments)

variable {before after flags : List Flag} {program file : String} {env : Surroundings}
  {target : String → Except FileError FileTree} {argv : List String}

/-- The program on a file, with some flags in front of it and some behind it, and no subcommand. -/
def bareRun (program : String) (before after : List Flag) (file : String) (env : Surroundings)
    (target : String → Except FileError FileTree) : Outcome :=
  .ofVector (program :: runArguments before after file) env target

/-- The program on the same arguments behind the subcommand `run`. -/
def fullRun (program : String) (before after : List Flag) (file : String) (env : Surroundings)
    (target : String → Except FileError FileTree) : Outcome :=
  .ofVector (program :: Subcommand.run.keyword :: runArguments before after file) env target

/-- What a path leads to, read as a file. -/
def contentAt (target : String → Except FileError FileTree) (path : String) : FileContent :=
  (target path).bind FileTree.read

theorem Outcome.ofVector_eq_runFile (h : Invocation.ofVector argv = .ok ⟨.run, flags, file⟩) :
    ofVector argv env target = runFile flags file env (contentAt target file) := by
  unfold ofVector
  rw [h]
  rfl

theorem Outcome.exists_ofVector_eq_failed {e : UsageError}
    (h : Invocation.ofVector argv = .error (.usage e)) :
    ∃ reason, ofVector argv env target = .failed 2 reason := by
  unfold ofVector
  rw [h]
  exact ⟨_, rfl⟩

section Runs

variable (program env target) (hdash : hasDash file = false) (hdistinct : (before ++ after).Nodup)

include hdash hdistinct

theorem fullRun_eq_runFile :
    fullRun program before after file env target =
      runFile (before ++ after) file env (contentAt target file) :=
  Outcome.ofVector_eq_runFile (Invocation.ofVector_run hdash hdistinct program)

theorem bareRun_eq_runFile (hfile : file ∉ commandKeywords)
    (hbefore : ∀ f ∈ before, f = .noColor) :
    bareRun program before after file env target =
      runFile (before ++ after) file env (contentAt target file) :=
  Outcome.ofVector_eq_runFile (Invocation.ofVector_bare hdash hfile hdistinct hbefore program)

theorem exists_bareRun_eq_failed (hfile : file ∉ commandKeywords)
    (hbefore : ∃ f ∈ before, f ≠ .noColor) :
    ∃ reason, bareRun program before after file env target = .failed 2 reason := by
  obtain ⟨e, he⟩ := Invocation.exists_ofVector_bare_eq_error hdash hfile hdistinct hbefore program
  exact Outcome.exists_ofVector_eq_failed he

/-- A bare run ends like the one that spells out the subcommand, and prints the same, if and only if
no flag but the one against colours stands in front of the file. With another one there, it is
refused, whatever the file holds. -/
theorem runsAlike_iff (hfile : file ∉ commandKeywords) :
    fullRun program before after file env target =
        runFile (before ++ after) file env (contentAt target file) ∧
      ((bareRun program before after file env target).exitCode =
            (fullRun program before after file env target).exitCode ∧
          (bareRun program before after file env target).stdout =
            (fullRun program before after file env target).stdout ↔
        ∀ f ∈ before, f = .noColor) ∧
      ((∀ f ∈ before, f = .noColor) →
        bareRun program before after file env target =
          fullRun program before after file env target) ∧
      ((∃ f ∈ before, f ≠ .noColor) →
        (bareRun program before after file env target).exitCode = 2 ∧
          (bareRun program before after file env target).stdout = "") := by
  have hfull : fullRun program before after file env target =
      runFile (before ++ after) file env (contentAt target file) :=
    fullRun_eq_runFile program env target hdash hdistinct
  have hsame : (∀ f ∈ before, f = .noColor) →
      bareRun program before after file env target = fullRun program before after file env target :=
    fun hbefore =>
      (bareRun_eq_runFile program env target hdash hdistinct hfile hbefore).trans hfull.symm
  refine ⟨hfull, ⟨fun halike => ?_, fun hbefore => ?_⟩, hsame, fun hbefore => ?_⟩
  · -- No run on a file ends with the exit code of a command line that is refused.
    by_contra hbefore
    obtain ⟨reason, hbare⟩ := exists_bareRun_eq_failed program env target hdash hdistinct hfile
      (by simpa using hbefore)
    have hexit := halike.1
    rw [hfull, hbare, exitCode_runFile] at hexit
    split at hexit <;> cases hexit
  · rw [hsame hbefore]
    exact ⟨rfl, rfl⟩
  · obtain ⟨reason, hbare⟩ := exists_bareRun_eq_failed program env target hdash hdistinct hfile
      hbefore
    rw [hbare]
    exact ⟨rfl, rfl⟩

end Runs

/-- Where paths lead in a directory with an empty file, which is the outline of an empty script. -/
def emptyFile : String → Except FileError FileTree :=
  (FileSystem.ofDirectory (.directory [("a", .file (.ok ""))])).find

theorem runsAlike_iff_emptyFile :
    hasDash "a" = false ∧ "a" ∉ commandKeywords ∧
      ([Flag.noColor] ++ [Flag.check]).Nodup ∧ ([Flag.ast] ++ [Flag.check]).Nodup ∧
      bareRun "fls" [.noColor] [.check] "a" .plain emptyFile =
        fullRun "fls" [.noColor] [.check] "a" .plain emptyFile ∧
      (bareRun "fls" [.ast] [.check] "a" .plain emptyFile).exitCode = 2 := by
  have hdash : hasDash "a" = false := by decide
  have hfile : "a" ∉ commandKeywords := by decide
  have hcolorless : ([Flag.noColor] ++ [Flag.check]).Nodup := by decide
  have hunknown : ([Flag.ast] ++ [Flag.check]).Nodup := by decide
  obtain ⟨-, -, hsame, -⟩ := runsAlike_iff "fls" .plain emptyFile hdash hcolorless hfile
  obtain ⟨-, -, -, hrefused⟩ := runsAlike_iff "fls" .plain emptyFile hdash hunknown hfile
  exact ⟨hdash, hfile, hcolorless, hunknown, hsame (by simp),
    (hrefused ⟨.ast, by simp, by simp⟩).1⟩

/-- Where flags stand in front of the file, a bare run need not end like the one that spells out the
subcommand: asked in this way to check a valid outline, the program refuses. -/
theorem not_forall_runsAlike :
    (¬ ∀ (program file : String) (before after : List Flag) (env : Surroundings)
        (target : String → Except FileError FileTree),
      hasDash file = false → file ∉ commandKeywords → (before ++ after).Nodup →
        (bareRun program before after file env target).exitCode =
            (fullRun program before after file env target).exitCode ∧
          (bareRun program before after file env target).stdout =
            (fullRun program before after file env target).stdout) ∧
      (bareRun "fls" [.check] [] "a" .plain emptyFile).exitCode = 2 ∧
      (fullRun "fls" [.check] [] "a" .plain emptyFile).exitCode = 0 := by
  have hdash : hasDash "a" = false := by decide
  have hfile : "a" ∉ commandKeywords := by decide
  have hdistinct : ([Flag.check] ++ []).Nodup := by decide
  have hread : Outline.read "" = .ok ⟨none, []⟩ := by cbv
  have hbare : (bareRun "fls" [.check] [] "a" .plain emptyFile).exitCode = 2 := by
    obtain ⟨reason, hfailed⟩ := exists_bareRun_eq_failed "fls" .plain emptyFile
      hdash hdistinct hfile (by simp)
    rw [hfailed]
    rfl
  have hfull : (fullRun "fls" [.check] [] "a" .plain emptyFile).exitCode = 0 := by
    rw [fullRun_eq_runFile _ _ _ hdash hdistinct]
    exact (exitCode_runFile_eq_zero_iff hread).2 rfl
  refine ⟨fun h => ?_, hbare, hfull⟩
  have hexit := (h "fls" "a" [.check] [] .plain emptyFile hdash hfile hdistinct).1
  rw [hbare, hfull] at hexit
  cases hexit

end WorkflowOutline
