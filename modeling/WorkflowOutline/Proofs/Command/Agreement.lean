import Mathlib
import WorkflowOutline.Proofs.Command.Running
import WorkflowOutline.Proofs.Fixture.Meeting

/-!
# Agreement of the subcommands

The subcommand `test` passes a fixture if the script of its outline meets its expectation
(`exitCode_testFile_eq_zero_iff`), and `run` accepts the same file if that script is valid. So they
agree where no errors are expected, and what one of them shows can be told the other: a run that
goes well prints what a fixture that passes expects (`stdout_runFile_of_passes`), and the outline
passes with an expectation of what a run prints, or of the errors for which it fails
(`passesWith_listing`, `passesWith_messages`).

All runs on a file exit alike, whatever their flags.
-/

namespace WorkflowOutline

open Fixture (Reads)

variable {flags : List Flag} {path : String} {env : Surroundings} {source : String}
  {entries : Toml.Entries} {o p : Outline} {config : FixtureConfig} {e : Expectation}

/-! ## Passing -/

theorem exitCode_testFile (flags : List Flag) (path : String) (env : Surroundings)
    (source : String) :
    (testFile flags path env (.ok source)).exitCode =
      if (Fixture.run source).failure = none then 0 else 1 := by
  have hpassed : Fixture.allPassed ((Fixture.filesAt path (.ok (.file (.ok source)))).map
      (Fixture.File.run env.refusal)) = (Fixture.run source).failure.isNone := by
    simp [Fixture.allPassed, Fixture.filesAt, Fixture.TestResult.passed, Fixture.File.run]
  unfold testFile Invocation.execute Fixture.runAt
  simp only [hpassed, Option.isNone_iff_eq_none]

theorem exitCode_testFile_eq_zero_iff (h : Reads source entries o config) :
    (testFile flags path env (.ok source)).exitCode = 0 ↔ config.expectation.IsMet o.sole := by
  rw [exitCode_testFile]
  have hpass : (Fixture.run source).failure = none ↔ config.expectation.IsMet o.sole :=
    Fixture.failure_run_eq_none_iff h
  by_cases hmet : config.expectation.IsMet o.sole <;> simp [hpass, hmet]

/-- Where declarations stand in the text does not matter to what a script meets. -/
theorem isMet_sole_of_unplaced_eq (h : p.unplaced = o.unplaced) (hmet : e.IsMet o.sole) :
    e.IsMet p.sole where
  order := by
    rw [Outline.headers_sole_eq h]
    exact hmet.order
  shebang := by
    rw [Outline.shebang_sole_eq h]
    exact hmet.shebang
  errors := by
    rw [Outline.messages_sole_eq h]
    exact hmet.errors

/-- The outline of a document passes with an expectation in place of the one there: the document
with this expectation does, and so does every text of the outline that has it. -/
structure PassesWith (entries : Toml.Entries) (o : Outline) (e : Expectation) : Prop where
  document : (Fixture.runDocument (withExpectation e entries)).failure = none
  outline : Outline.ofDocument (withExpectation e entries) = .ok o
  expectation : ∃ config, FixtureConfig.ofDocument (withExpectation e entries) = .ok config ∧
    config.expectation = e
  texts : ∀ source entries' p config, Reads source entries' p config → p.unplaced = o.unplaced →
    config.expectation = e →
      ∀ flags path env, (testFile flags path env (.ok source)).exitCode = 0

theorem passesWith_of_isMet (h : Reads source entries o config) (hmet : e.IsMet o.sole) :
    PassesWith entries o e := by
  have houtline : Outline.ofDocument (withExpectation e entries) = .ok o := by
    rw [Outline.ofDocument_withExpectation, h.outline]
  have hconfig : FixtureConfig.ofDocument (withExpectation e entries) =
      .ok ⟨config.description, e⟩ := FixtureConfig.ofDocument_withExpectation h.config e
  exact {
    document := (Fixture.failure_runDocument_eq_none_iff houtline hconfig).2 hmet
    outline := houtline
    expectation := ⟨_, hconfig, rfl⟩
    texts := by
      rintro source entries' p config hreads hp rfl flags path env
      exact (exitCode_testFile_eq_zero_iff hreads).2 (isMet_sole_of_unplaced_eq hp hmet) }

/-! ## What one subcommand tells of the other -/

section Reads

variable {flags' : List Flag} {path' : String} {env' : Surroundings}

/-- Without an expectation, to pass is to run well. -/
theorem passes_iff_runs (h : Reads source entries o config)
    (hexpect : entries.lookup "expect" = none) :
    (testFile flags path env (.ok source)).exitCode = 0 ↔
      (runFile flags' path' env' (.ok source)).exitCode = 0 := by
  rw [exitCode_testFile_eq_zero_iff h, exitCode_runFile_eq_zero_iff h.read_eq,
    FixtureConfig.expectation_eq_none h.config hexpect]
  constructor
  · intro hmet
    exact hmet.validate_eq_nil rfl
  · intro hvalid
    exact .of_messages nofun nofun (o.sole.validate_eq_nil_iff_messages.1 hvalid).symm

theorem validate_eq_nil_of_passes (h : Reads source entries o config)
    (hpasses : (testFile flags path env (.ok source)).exitCode = 0)
    (herrors : config.expectation.errors = none ∨ config.expectation.errors = some []) :
    o.sole.validate = [] := by
  have hmet := (exitCode_testFile_eq_zero_iff h).1 hpasses
  refine hmet.validate_eq_nil ?_
  rcases herrors with herrors | herrors <;> rw [herrors] <;> rfl

/-- The headers that a fixture expects are what a run prints below the interpreter line. -/
theorem stdout_runFile_of_passes (h : Reads source entries o config)
    (hpasses : (testFile flags path env (.ok source)).exitCode = 0)
    (hvalid : o.sole.validate = []) {headers : List String}
    (horder : config.expectation.order = some headers) (hcheck : .check ∉ flags')
    (hast : .ast ∉ flags') :
    (runFile flags' path' env' (.ok source)).stdout =
      Outcome.ofLines (o.sole.shebang.toList ++ headers) := by
  have hmet := (exitCode_testFile_eq_zero_iff h).1 hpasses
  rw [stdout_runFile hcheck hast h.read_eq hvalid, Script.listing, hmet.order headers horder]

theorem passesWith_listing (h : Reads source entries o config) (hvalid : o.sole.validate = [])
    {errors : Option (List String)} (herrors : errors = none ∨ errors = some []) :
    PassesWith entries o ⟨some o.sole.headers, o.sole.shebang, errors⟩ := by
  refine passesWith_of_isMet h (.of_messages ?_ ?_ ?_)
  · rintro headers ⟨⟩
    rfl
  · exact fun line hline => hline
  · rw [o.sole.validate_eq_nil_iff_messages.1 hvalid]
    rcases herrors with rfl | rfl <;> rfl

theorem passesWith_messages (h : Reads source entries o config) :
    PassesWith entries o ⟨none, none, some o.sole.messages⟩ :=
  passesWith_of_isMet h (.of_messages nofun nofun rfl)

end Reads

/-! ## Agreement -/

/-- How the outcome of `test` on a fixture and that of `run` with some flags go together. -/
structure Agree (entries : Toml.Entries) (o : Outline) (config : FixtureConfig)
    (flags : List Flag) (tested ran : Outcome) : Prop where
  passes_iff_runs : entries.lookup "expect" = none → (tested.exitCode = 0 ↔ ran.exitCode = 0)
  runs_of_passes : tested.exitCode = 0 →
    config.expectation.errors = none ∨ config.expectation.errors = some [] →
      ran.exitCode = 0 ∧
      (∀ line, config.expectation.shebang = some line → o.sole.shebang = some line) ∧
      ∀ headers, config.expectation.order = some headers → .check ∉ flags → .ast ∉ flags →
        ran.stdout = Outcome.ofLines (o.sole.shebang.toList ++ headers)
  passes_of_runs : ran.exitCode = 0 →
    (.check ∉ flags → .ast ∉ flags →
      ran.stdout = Outcome.ofLines (o.sole.shebang.toList ++ o.sole.headers)) ∧
    ∀ errors, errors = none ∨ errors = some [] →
      PassesWith entries o ⟨some o.sole.headers, o.sole.shebang, errors⟩
  passes_of_fails : ran.exitCode = 1 → PassesWith entries o ⟨none, none, some o.sole.messages⟩

/-- The subcommands agree on every fixture. On any content, flags do not change how a run exits, a
run that fails prints nothing, and neither does one that only checks, whatever other flags say. -/
theorem agree_test_run :
    (∀ source entries o config, Reads source entries o config →
      ∀ flags flags' path path' env env',
        Agree entries o config flags' (testFile flags path env (.ok source))
          (runFile flags' path' env' (.ok source))) ∧
    ∀ content flags flags' path path' env env',
      (runFile flags path env content).exitCode = (runFile flags' path' env' content).exitCode ∧
      ((runFile flags path env content).exitCode = 0 ∨
        (runFile flags path env content).exitCode = 1) ∧
      ((runFile flags path env content).exitCode = 1 →
        (runFile flags path env content).stdout = "") ∧
      (.check ∈ flags →
        (runFile flags path env content).stdout = "" ∧
        ((runFile flags path env content).exitCode = 0 →
          (runFile flags path env content).stderr =
            Outcome.ofLines ["ok: " ++ path ++ " is a valid script"])) := by
  constructor
  · intro source entries o config h flags flags' path path' env env'
    have hruns : (runFile flags' path' env' (.ok source)).exitCode = 0 ↔ o.sole.validate = [] :=
      exitCode_runFile_eq_zero_iff h.read_eq
    constructor
    case passes_iff_runs => exact passes_iff_runs h
    case runs_of_passes =>
      intro hpasses herrors
      have hvalid := validate_eq_nil_of_passes h hpasses herrors
      exact ⟨hruns.2 hvalid, ((exitCode_testFile_eq_zero_iff h).1 hpasses).shebang,
        fun headers => stdout_runFile_of_passes h hpasses hvalid⟩
    case passes_of_runs =>
      intro hran
      have hvalid := hruns.1 hran
      exact ⟨fun hcheck hast => stdout_runFile hcheck hast h.read_eq hvalid,
        fun errors => passesWith_listing h hvalid⟩
    case passes_of_fails => exact fun _ => passesWith_messages h
  · intro content flags flags' path path' env env'
    refine ⟨?_, ?_, fun hexit => ?_,
      fun hcheck => ⟨stdout_runFile_of_check hcheck, fun hexit => ?_⟩⟩
    · rw [exitCode_runFile, exitCode_runFile]
    · rw [exitCode_runFile_eq_one_iff]
      exact em _
    · exact stdout_runFile_eq_empty (exitCode_runFile_eq_one_iff.1 hexit)
    · rw [runFile_of_check hcheck hexit]

/-! A fixture that passes, and one that expects nothing of a named entry. -/

def orderText : String := "expect.order=[\"workflow\"]\ndeclaration=[[\"workflow\"]]"

def orderEntries : Toml.Entries :=
  [("expect", .table ⟨0, 6⟩ .dotted
      [("order", .array ⟨13, 25⟩ .brackets [.scalar ⟨14, 24⟩ (.string "workflow")])]),
    ("declaration", .array ⟨38, 52⟩ .brackets
      [.array ⟨39, 51⟩ .brackets [.scalar ⟨40, 50⟩ (.string "workflow")]])]

def orderOutline : Outline := ⟨none, [(⟨39, 51⟩, .workflow none none)]⟩

def namedText : String := "declaration=[[\"workflow\",\"N\",true]]"

def namedEntries : Toml.Entries :=
  [("declaration", .array ⟨12, 35⟩ .brackets
      [.array ⟨13, 34⟩ .brackets
        [.scalar ⟨14, 24⟩ (.string "workflow"), .scalar ⟨25, 28⟩ (.string "N"),
          .scalar ⟨29, 33⟩ (.boolean true)]])]

def namedOutline : Outline := ⟨none, [(⟨13, 34⟩, .workflow (some "N") (some true))]⟩

theorem reads_orderText :
    Reads orderText orderEntries orderOutline ⟨none, some ["workflow"], none, none⟩ :=
  ⟨by cbv, by cbv, by cbv⟩

theorem reads_namedText :
    Reads namedText namedEntries namedOutline ⟨none, Expectation.none⟩ :=
  ⟨by cbv, by cbv, by cbv⟩

theorem agree_test_run_named :
    Reads orderText orderEntries orderOutline ⟨none, some ["workflow"], none, none⟩ ∧
      (testFile [] "a" .plain (.ok orderText)).exitCode = 0 ∧
      (runFile [] "a" .plain (.ok orderText)).exitCode = 0 ∧
      (runFile [] "a" .plain (.ok orderText)).stdout = Outcome.ofLines ["workflow"] ∧
      PassesWith orderEntries orderOutline ⟨some ["workflow"], none, some []⟩ ∧
      Reads namedText namedEntries namedOutline ⟨none, Expectation.none⟩ ∧
      ((testFile [] "b" .plain (.ok namedText)).exitCode = 0 ↔
        (runFile [.ast] "b" .plain (.ok namedText)).exitCode = 0) ∧
      (runFile [.ast] "b" .plain (.ok namedText)).exitCode = 1 ∧
      PassesWith namedEntries namedOutline
        ⟨none, none, some ["entry workflow must be unnamed, found workflow `N`"]⟩ ∧
      (runFile [.check, .ast] "b" .plain (.ok namedText)).stdout = "" := by
  have hpasses : (testFile [] "a" .plain (.ok orderText)).exitCode = 0 := by
    rw [exitCode_testFile_eq_zero_iff reads_orderText, ← Expectation.check_eq_none_iff]
    rfl
  have hnamed : (runFile [.ast] "b" .plain (.ok namedText)).exitCode = 1 := by
    rw [exitCode_runFile_eq_one_iff, ne_eq, exitCode_runFile_eq_zero_iff reads_namedText.read_eq]
    decide
  have horder := agree_test_run.1 _ _ _ _ reads_orderText [] [] "a" "a" .plain .plain
  obtain ⟨hexit, -, hstdout⟩ := horder.runs_of_passes hpasses (.inl rfl)
  have hfails := agree_test_run.1 _ _ _ _ reads_namedText [] [.ast] "b" "b" .plain .plain
  have hchecks := agree_test_run.2 (.ok namedText) [.check, .ast] [] "b" "b" .plain .plain
  exact ⟨reads_orderText, hpasses, hexit, hstdout _ rfl nofun nofun,
    (horder.passes_of_runs hexit).2 _ (.inr rfl), reads_namedText, hfails.passes_iff_runs rfl,
    hnamed, hfails.passes_of_fails hnamed, (hchecks.2.2.2 (by decide)).1⟩

end WorkflowOutline
