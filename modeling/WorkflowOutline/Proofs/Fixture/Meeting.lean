import Mathlib.Data.List.Forall2
import Mathlib.Data.Option.Basic
import WorkflowOutline.Fixture.Check
import WorkflowOutline.Proofs.Script.Spans

/-!
# Meeting expectations

A script meets an expectation (`Expectation.IsMet`) if its headers and its interpreter line are
those expected, where any are, and its messages contain the expected texts one by one; with no
errors expected it has to be valid. A fixture passes if and only if the script of its outline meets
its expectation (`failure_run_eq_none_iff`).

`withExpectation` puts another expectation into a document. It leaves the outline alone and is what
the fixture then expects (`Outline.ofDocument_withExpectation`,
`FixtureConfig.ofDocument_withExpectation`), so a fixture can be given the expectation that its
script meets.
-/

namespace WorkflowOutline

open Toml (Node)

variable {s : Script} {e : Expectation} {entries : Toml.Entries} {config : FixtureConfig}
  {source : String} {o : Outline}

/-! ## Scripts that meet an expectation -/

/-- Nothing in the script deviates from what is expected of it. -/
structure Expectation.IsMet (e : Expectation) (s : Script) : Prop where
  order : ∀ headers, e.order = some headers → s.headers = headers
  shebang : ∀ line, e.shebang = some line → s.shebang = some line
  /-- Not to expect errors is to expect none. -/
  errors : List.Forall₂ (fun part message => Text.containsText part message = true)
    (e.errors.getD []) s.messages

namespace Expectation

theorem checkOrder_eq_none_iff :
    e.checkOrder s = .none ↔ ∀ headers, e.order = some headers → s.headers = headers := by
  unfold checkOrder
  rcases e.order with _ | headers <;> simp

theorem checkShebang_eq_none_iff :
    e.checkShebang s = .none ↔ ∀ line, e.shebang = some line → s.shebang = some line := by
  unfold checkShebang
  rcases e.shebang with _ | line <;> simp

theorem checkErrors_eq_none_iff {messages : List String} :
    e.checkErrors messages = .none ↔
      List.Forall₂ (fun part message => Text.containsText part message = true)
        (e.errors.getD []) messages := by
  unfold checkErrors
  rcases e.errors with _ | expected
  · simp
  · rw [Option.getD_some, List.forall₂_iff_zip]
    by_cases hlen : expected.length = messages.length
    · have hall : ((expected.zip messages).zipIdx.find? fun p =>
            !Text.containsText p.1.1 p.1.2) = .none ↔
          ∀ p ∈ expected.zip messages, Text.containsText p.1 p.2 = true := by
        rw [List.find?_eq_none, ← List.zipIdx_map_fst 0 (expected.zip messages),
          List.forall_mem_map]
        simp
      simp [hlen, hall]
    · simp [hlen]

theorem check_eq_none_iff : e.check s = .none ↔ e.IsMet s := by
  unfold check
  rw [Option.orElse_eq_none, Option.orElse_eq_none, checkOrder_eq_none_iff,
    checkShebang_eq_none_iff, checkErrors_eq_none_iff]
  exact ⟨fun h => ⟨h.1, h.2.1, h.2.2⟩, fun h => ⟨h.order, h.shebang, h.errors⟩⟩

/-- An expectation without errors can only be met by a valid script. -/
theorem IsMet.validate_eq_nil (h : e.IsMet s) (herrors : e.errors.getD [] = []) :
    s.validate = [] := by
  have hnil := h.errors
  rw [herrors, List.forall₂_nil_left_iff] at hnil
  exact s.validate_eq_nil_iff_messages.2 hnil

/-- Messages can be expected word by word. -/
theorem IsMet.of_messages (horder : ∀ headers, e.order = some headers → s.headers = headers)
    (hshebang : ∀ line, e.shebang = some line → s.shebang = some line)
    (herrors : e.errors.getD [] = s.messages) : e.IsMet s where
  order := horder
  shebang := hshebang
  errors := by
    rw [herrors]
    exact List.forall₂_same.2 fun _ _ => Text.containsText_iff.2 (List.infix_refl _)

end Expectation

/-! ## Fixtures that pass -/

/-- A text is a fixture if it is a document with an outline and an expectation. -/
structure Fixture.Reads (source : String) (entries : Toml.Entries) (o : Outline)
    (config : FixtureConfig) : Prop where
  document : readDocument source = .ok entries
  outline : Outline.ofDocument entries = .ok o
  config : FixtureConfig.ofDocument entries = .ok config

namespace Fixture

theorem Reads.read_eq (h : Reads source entries o config) : Outline.read source = .ok o := by
  unfold Outline.read
  rw [h.document]
  dsimp only [Bind.bind, Except.bind]
  rw [h.outline]
  rfl

theorem failure_runDocument_eq_none_iff (houtline : Outline.ofDocument entries = .ok o)
    (hconfig : FixtureConfig.ofDocument entries = .ok config) :
    (runDocument entries).failure = none ↔ config.expectation.IsMet (o.build 0 0) := by
  unfold runDocument
  rw [houtline]
  dsimp only
  rw [hconfig]
  dsimp only
  rw [Option.map_eq_none_iff, Expectation.check_eq_none_iff]

theorem failure_run_eq_none_iff (h : Reads source entries o config) :
    (run source).failure = none ↔ config.expectation.IsMet (o.build 0 0) := by
  unfold run
  rw [h.document]
  exact failure_runDocument_eq_none_iff h.outline h.config

end Fixture

/-! ## Documents with another expectation -/

namespace Expectation

def textNode (text : String) : Node := .scalar ⟨0, 0⟩ (.string text)

def textsNode (texts : List String) : Node := .array ⟨0, 0⟩ .brackets (texts.map textNode)

/-- The table in which a document states the expectation. -/
def toNode (e : Expectation) : Node :=
  .table ⟨0, 0⟩ .header
    ((e.order.map fun order => ("order", textsNode order)).toList
      ++ (e.shebang.map fun line => ("shebang", textNode line)).toList
      ++ (e.errors.map fun errors => ("errors", textsNode errors)).toList)

theorem decodeTexts_textsNode (texts : List String) :
    decodeTexts (textsNode texts) = .ok texts := by
  unfold decodeTexts textsNode
  dsimp only
  induction texts with
  | nil => rfl
  | cons text texts ih =>
    rw [List.map_cons, List.mapM_cons, ih]
    rfl

theorem decode_toNode (e : Expectation) : decode e.toNode = .ok e := by
  have horder : ∀ (e : Expectation) texts,
      decodeField e ("order", textsNode texts) = .ok { e with order := some texts } := by
    intro e texts
    simp only [decodeField, decodeTexts_textsNode]
    rfl
  have herrors : ∀ (e : Expectation) texts,
      decodeField e ("errors", textsNode texts) = .ok { e with errors := some texts } := by
    intro e texts
    simp only [decodeField, decodeTexts_textsNode]
    rfl
  have hshebang : ∀ (e : Expectation) line,
      decodeField e ("shebang", textNode line) = .ok { e with shebang := some line } :=
    fun _ _ => rfl
  obtain ⟨order, shebang, errors⟩ := e
  unfold decode toNode
  dsimp only
  rcases order with _ | order <;> rcases shebang with _ | line <;> rcases errors with _ | errors <;>
    simp only [Option.map_none, Option.map_some, Option.toList_none, Option.toList_some,
      List.nil_append, List.cons_append, List.foldlM_cons, List.foldlM_nil, horder, hshebang,
      herrors] <;>
    rfl

end Expectation

/-- The document with another expectation in place of its own. -/
def withExpectation (e : Expectation) (entries : Toml.Entries) : Toml.Entries :=
  entries.filter (·.1 != "expect") ++ [("expect", e.toNode)]

theorem Outline.ofDocument_withExpectation (e : Expectation) (entries : Toml.Entries) :
    Outline.ofDocument (withExpectation e entries) = Outline.ofDocument entries := by
  have hstep : (fun (o : Outline) (entry : String × Node) =>
      if entry.1 != "expect" then o.decodeEntry entry else pure o) = Outline.decodeEntry := by
    funext o ⟨key, n⟩
    by_cases hkey : key = "expect"
    · subst hkey
      rfl
    · simp [hkey]
  have hlast : (fun o : Outline => [("expect", e.toNode)].foldlM Outline.decodeEntry o) = pure :=
    funext fun _ => rfl
  unfold Outline.ofDocument withExpectation
  rw [List.foldlM_append, List.foldlM_filter, hstep, hlast, bind_pure]

namespace FixtureConfig

/-- Only the entry with the expectation sets it, and it sets nothing else. -/
theorem decodeEntry_cases {c c' : FixtureConfig} {key : String} {n : Node}
    (h : c.decodeEntry (key, n) = .ok c') :
    (key = "expect" ∧ c'.description = c.description) ∨
      key ≠ "expect" ∧
        ∀ e, decodeEntry ⟨c.description, e⟩ (key, n) = .ok ⟨c'.description, e⟩ := by
  unfold decodeEntry at h
  split at h
  · next node hentry =>
    obtain ⟨rfl, rfl⟩ := Prod.mk.inj hentry
    rcases htext : Expectation.decodeText n with err | text <;> rw [htext] at h <;> cases h
    refine .inr ⟨by decide, fun e => ?_⟩
    simp only [decodeEntry, htext]
    rfl
  · next node hentry =>
    obtain ⟨rfl, rfl⟩ := Prod.mk.inj hentry
    rcases hexpect : Expectation.decode n with err | e <;> rw [hexpect] at h <;> cases h
    exact .inl ⟨rfl, rfl⟩
  · next hdescription hexpect =>
    cases h
    have hkey : key ≠ "expect" := fun hkey => hexpect n (congrArg (·, n) hkey)
    exact .inr ⟨hkey, fun e => by simp [decodeEntry]⟩

/-- Without the entry with the expectation, any expectation from the start is kept. -/
theorem foldlM_decodeEntry_filter {c c' : FixtureConfig} (e : Expectation)
    (h : entries.foldlM decodeEntry c = .ok c') :
    (entries.filter (·.1 != "expect")).foldlM decodeEntry ⟨c.description, e⟩ =
      .ok ⟨c'.description, e⟩ := by
  induction entries generalizing c with
  | nil =>
    cases h
    rfl
  | cons entry entries ih =>
    obtain ⟨key, n⟩ := entry
    rw [List.foldlM_cons] at h
    rcases hentry : c.decodeEntry (key, n) with err | c₁
    · rw [hentry] at h
      cases h
    rw [hentry] at h
    rcases decodeEntry_cases hentry with ⟨rfl, hdescription⟩ | ⟨hkey, hdecode⟩
    · have hrest := ih h
      rwa [hdescription] at hrest
    · rw [List.filter_cons_of_pos (by simpa using hkey), List.foldlM_cons, hdecode e]
      exact ih h

/-- The fixture expects what was put in, and keeps its description. -/
theorem ofDocument_withExpectation (h : ofDocument entries = .ok config) (e : Expectation) :
    ofDocument (withExpectation e entries) = .ok ⟨config.description, e⟩ := by
  have hrest := foldlM_decodeEntry_filter Expectation.none h
  have hlast : decodeEntry ⟨config.description, Expectation.none⟩ ("expect", e.toNode) =
      .ok ⟨config.description, e⟩ := by
    simp only [decodeEntry, Expectation.decode_toNode]
    rfl
  unfold ofDocument withExpectation
  rw [List.foldlM_append, hrest]
  exact (bind_pure _).trans hlast

/-- A fixture that says nothing expects a script without errors. -/
theorem expectation_eq_none (h : ofDocument entries = .ok config)
    (hexpect : entries.lookup "expect" = none) : config.expectation = Expectation.none := by
  have hfilter : entries.filter (·.1 != "expect") = entries := by
    rw [List.filter_eq_self]
    intro entry hentry
    have hkey := List.lookup_eq_none_iff.1 hexpect entry hentry
    rwa [bne_comm]
  have hsame := foldlM_decodeEntry_filter Expectation.none h
  rw [hfilter] at hsame
  exact congrArg FixtureConfig.expectation (Except.ok.inj (h.symm.trans hsame))

end FixtureConfig

end WorkflowOutline
