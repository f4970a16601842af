import WorkflowOutline.Command.Execution
import WorkflowOutline.Proofs.Script.Extension
import WorkflowOutline.Proofs.Script.Spans

/-!
# Running on one file

`runFile` and `testFile` are the two subcommands on a file with a given content. What a run leaves
behind depends on the content in one way only, through the script of its outline: it goes well if
there is one without errors (`exitCode_runFile_eq_zero_iff`), and then it prints the listing of that
script, unless flags ask for something else (`stdout_runFile`). A run that goes wrong prints nothing
(`stdout_runFile_eq_empty`).

An outline has its texts up to the places of its declarations (`Outline.HasText`): a run prints no
spans, so it goes alike on all texts of an outline (`HasText.exitCode_eq`,
`HasText.stdout_eq`).
-/

namespace WorkflowOutline

/-- No terminal, no colours, and few words for texts that are no TOML. -/
def Surroundings.plain : Surroundings := ⟨⟨none, true⟩, Toml.bareRefusal⟩

/-- The subcommand `run` on a file. -/
def runFile (flags : List Flag) (path : String) (env : Surroundings) (content : FileContent) :
    Outcome :=
  (Invocation.mk .run flags path).execute env (.ok (.file content))

/-- The subcommand `test` on a file. -/
def testFile (flags : List Flag) (path : String) (env : Surroundings) (content : FileContent) :
    Outcome :=
  (Invocation.mk .test flags path).execute env (.ok (.file content))

/-- The script that a run builds for an outline. -/
def Outline.sole (o : Outline) : Script := o.build soleIdentity soleFileId

variable {flags flags' : List Flag} {path path' : String} {env env' : Surroundings}
  {content : FileContent} {source : String} {o : Outline}

/-! ## Reading outlines -/

theorem Outline.read_of_document {entries : Toml.Entries} (h : readDocument source = .ok entries) :
    Outline.read source = (Outline.ofDocument entries).mapError .schema := by
  unfold Outline.read
  rw [h]
  rfl

theorem Outline.read_of_document_error {e : ReadError} (h : readDocument source = .error e) :
    Outline.read source = .error e := by
  unfold Outline.read
  rw [h]
  rfl

/-! ## Showing a sealed script -/

theorem exitCode_showScript (i : Invocation) (t : SealedScript) :
    (showScript i t).exitCode = 0 := by
  unfold showScript
  split
  · rfl
  · split <;> rfl

theorem showScript_of_check {i : Invocation} (h : i.has .check = true) (t : SealedScript) :
    showScript i t = ⟨0, "", Outcome.ofLines ["ok: " ++ i.value ++ " is a valid script"]⟩ := by
  unfold showScript
  rw [if_pos h]

theorem stdout_showScript {i : Invocation} (hcheck : i.has .check = false)
    (hast : i.has .ast = false) (t : SealedScript) :
    (showScript i t).stdout = Outcome.ofLines t.script.listing := by
  unfold showScript
  rw [hcheck, hast]
  rfl

theorem has_eq_false_iff {f : Flag} :
    (Invocation.mk .run flags path).has f = false ↔ f ∉ flags := by
  unfold Invocation.has
  rw [Bool.eq_false_iff, ne_eq, List.contains_iff_mem]

/-! ## Outcomes of runs -/

/-- The script that a content leads to, if it has an outline whose script has no errors. -/
def sealedOf (content : FileContent) : Option SealedScript :=
  match content with
  | .error _ => none
  | .ok source =>
      match Outline.read source with
      | .error _ => none
      | .ok o => o.sole.finalize.toOption

/-- A run shows the script that the content leads to, and without one it writes the reason. -/
theorem runFile_eq (flags : List Flag) (path : String) (env : Surroundings)
    (content : FileContent) :
    ∃ reason, runFile flags path env content =
      match sealedOf content with
      | some t => showScript ⟨.run, flags, path⟩ t
      | none => .failed 1 reason := by
  unfold runFile Invocation.execute runOutline Outline.load sealedOf
  dsimp only [Except.bind, FileTree.read]
  rcases content with e | source
  · exact ⟨_, rfl⟩
  · dsimp only
    rcases Outline.read source with e | o
    · exact ⟨_, rfl⟩
    · dsimp only [Outline.sole]
      rcases (o.build soleIdentity soleFileId).finalize with es | t
      · exact ⟨_, rfl⟩
      · exact ⟨"", rfl⟩

theorem exitCode_runFile (flags : List Flag) (path : String) (env : Surroundings)
    (content : FileContent) :
    (runFile flags path env content).exitCode = if (sealedOf content).isSome then 0 else 1 := by
  obtain ⟨reason, h⟩ := runFile_eq flags path env content
  rw [h]
  rcases sealedOf content with _ | t
  · rfl
  · exact exitCode_showScript _ t

theorem sealedOf_of_read (h : Outline.read source = .ok o) :
    sealedOf (.ok source) = o.sole.finalize.toOption := by
  simp only [sealedOf, h]

/-- Of a file with an outline, a run goes well if and only if the script has no errors. -/
theorem exitCode_runFile_eq_zero_iff (h : Outline.read source = .ok o) :
    (runFile flags path env (.ok source)).exitCode = 0 ↔ o.sole.validate = [] := by
  rw [exitCode_runFile, sealedOf_of_read h]
  rcases hfinal : o.sole.finalize with es | t
  · have hne := Script.finalize_eq_error_iff.1 hfinal
    simp [Except.toOption, hne.1, hne.2]
  · have hvalid := t.valid
    rw [Script.finalize_eq_ok_iff.1 hfinal] at hvalid
    simp [Except.toOption, hvalid]

theorem exitCode_runFile_eq_one_iff :
    (runFile flags path env content).exitCode = 1 ↔
      (runFile flags path env content).exitCode ≠ 0 := by
  rw [exitCode_runFile]
  split <;> decide

/-- What goes wrong is not printed. -/
theorem stdout_runFile_eq_empty (h : (runFile flags path env content).exitCode ≠ 0) :
    (runFile flags path env content).stdout = "" := by
  obtain ⟨reason, hrun⟩ := runFile_eq flags path env content
  rw [hrun] at h ⊢
  rcases hsealed : sealedOf content with _ | t
  · rfl
  · rw [hsealed] at h
    exact absurd (exitCode_showScript _ t) h

/-- Asked for a check only, a run says that the script is valid, and nothing on it. -/
theorem runFile_of_check (h : .check ∈ flags)
    (hexit : (runFile flags path env content).exitCode = 0) :
    runFile flags path env content =
      ⟨0, "", Outcome.ofLines ["ok: " ++ path ++ " is a valid script"]⟩ := by
  obtain ⟨reason, hrun⟩ := runFile_eq flags path env content
  rw [hrun] at hexit ⊢
  rcases hsealed : sealedOf content with _ | t
  · rw [hsealed] at hexit
    cases hexit
  · exact showScript_of_check (List.contains_iff_mem.2 h) t

theorem stdout_runFile_of_check (h : .check ∈ flags) :
    (runFile flags path env content).stdout = "" := by
  by_cases hexit : (runFile flags path env content).exitCode = 0
  · rw [runFile_of_check h hexit]
  · exact stdout_runFile_eq_empty hexit

/-- Without flags that ask for something else, a run prints the listing of the script. -/
theorem stdout_runFile (hcheck : .check ∉ flags) (hast : .ast ∉ flags)
    (h : Outline.read source = .ok o) (hvalid : o.sole.validate = []) :
    (runFile flags path env (.ok source)).stdout = Outcome.ofLines o.sole.listing := by
  obtain ⟨reason, hrun⟩ := runFile_eq flags path env (.ok source)
  have hfinal : o.sole.finalize = .ok ⟨o.sole, hvalid⟩ := Script.finalize_eq_ok_iff.2 rfl
  rw [hrun, sealedOf_of_read h, hfinal]
  exact stdout_showScript (has_eq_false_iff.2 hcheck) (has_eq_false_iff.2 hast) _

/-! ## Texts of an outline -/

theorem OutlineItem.replay_mapSpans (f : Span → Span) (s : Script) (span : Span) (d : OutlineItem) :
    (d.replay s span).mapSpans f = d.replay (s.mapSpans f) (f span) := by
  have hitem : (d.toItem span).mapSpans f = d.toItem (f span) := by
    cases d with
    | output names => simp [toItem, Item.mapSpans, OutputBlock.mapSpans, Output.mapSpan]
    | _ => rfl
  unfold replay
  rw [← hitem, ← Script.add_mapSpans]
  split
  · rw [Script.setEntry_mapSpans, Script.nextId_mapSpans]
  · rfl

namespace Outline

/-- The outline with its declarations in other places of the text. -/
def mapSpans (f : Span → Span) (o : Outline) : Outline :=
  { o with declarations := o.declarations.map (Prod.map f id) }

theorem build_mapSpans (f : Span → Span) (o : Outline) (identity : UInt64) (fileId : Nat) :
    (o.build identity fileId).mapSpans f = (o.mapSpans f).build identity fileId := by
  have hlines : o.shebangLines.foldl Script.setShebang ((Script.empty identity fileId).mapSpans f) =
      (o.shebangLines.foldl Script.setShebang (.empty identity fileId)).mapSpans f :=
    List.foldl_hom (Script.mapSpans f) fun s line => (s.setShebang_mapSpans f line).symm
  have hstart : (o.mapSpans f).shebangLines.foldl Script.setShebang (.empty identity fileId) =
      (o.shebangLines.foldl Script.setShebang (.empty identity fileId)).mapSpans f := hlines
  unfold build
  rw [hstart, mapSpans, List.foldl_map]
  exact (List.foldl_hom (Script.mapSpans f) fun s d => (d.2.replay_mapSpans f s d.1).symm).symm

/-- The outline without the places of its declarations. -/
def unplaced (o : Outline) : Outline := o.mapSpans fun _ => ⟨0, 0⟩

/-- The outline can be read from the text, except for where its declarations stand there. -/
def HasText (o : Outline) (source : String) : Prop :=
  ∃ p, read source = .ok p ∧ p.unplaced = o.unplaced

theorem hasText_of_read (h : read source = .ok o) : o.HasText source := ⟨o, h, rfl⟩

section Unplaced

variable {o p : Outline} (h : p.unplaced = o.unplaced)

include h

theorem sole_mapSpans_eq :
    p.sole.mapSpans (fun _ => ⟨0, 0⟩) = o.sole.mapSpans fun _ => ⟨0, 0⟩ := by
  unfold sole
  rw [build_mapSpans, build_mapSpans]
  exact congrArg (build · soleIdentity soleFileId) h

theorem messages_sole_eq : p.sole.messages = o.sole.messages := by
  rw [← p.sole.messages_mapSpans fun _ => ⟨0, 0⟩, sole_mapSpans_eq h, Script.messages_mapSpans]

theorem headers_sole_eq : p.sole.headers = o.sole.headers := by
  rw [← p.sole.headers_mapSpans fun _ => ⟨0, 0⟩, sole_mapSpans_eq h, Script.headers_mapSpans]

theorem shebang_sole_eq : p.sole.shebang = o.sole.shebang := by
  have hmoved := congrArg Script.shebang (sole_mapSpans_eq h)
  exact hmoved

end Unplaced

theorem HasText.exitCode_eq (h : o.HasText source) :
    (runFile flags path env (.ok source)).exitCode = if o.sole.validate = [] then 0 else 1 := by
  obtain ⟨p, hread, hp⟩ := h
  have hzero : (runFile flags path env (.ok source)).exitCode = 0 ↔ o.sole.validate = [] := by
    rw [exitCode_runFile_eq_zero_iff hread, Script.validate_eq_nil_iff_messages,
      messages_sole_eq hp, Script.validate_eq_nil_iff_messages]
  split
  · next hvalid => exact hzero.2 hvalid
  · next hvalid => exact exitCode_runFile_eq_one_iff.2 (mt hzero.1 hvalid)

theorem HasText.stdout_eq (h : o.HasText source) (hcheck : .check ∉ flags) (hast : .ast ∉ flags)
    (hvalid : o.sole.validate = []) :
    (runFile flags path env (.ok source)).stdout = Outcome.ofLines o.sole.listing := by
  obtain ⟨p, hread, hp⟩ := h
  have hvalid' : p.sole.validate = [] := by
    rwa [Script.validate_eq_nil_iff_messages, messages_sole_eq hp,
      ← Script.validate_eq_nil_iff_messages]
  rw [stdout_runFile hcheck hast hread hvalid', Script.listing, Script.listing, headers_sole_eq hp,
    shebang_sole_eq hp]

end Outline

end WorkflowOutline
