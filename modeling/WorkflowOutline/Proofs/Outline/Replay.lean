import Mathlib.Data.List.Induction
import WorkflowOutline.Outline.Build
import WorkflowOutline.Proofs.Script.History
import WorkflowOutline.Script.Validation

/-!
# What the script of an outline holds

`Outline.build` fills a script one declaration at a time. Here every field of the result is read off
the whole outline (`build_eq_fields`): each category holds the declarations of its kind in document
order (`declared`), the single-valued fields hold what was written last, and what validation reports
is one error for each repetition in the document, and one for a named entry. `Outline.IsReplay`
collects these laws and `isReplay_build` states them of the script that is built.

A workflow is designated as the entry if it says so, or if it says nothing and has no name
(`OutlineItem.designated?`). Its id is its ordinal among all workflows of the document, so an entry
resolves to the declaration that designated it whatever follows (`workflow?_of_mem_designations`).
-/

namespace WorkflowOutline

/-! ## What one declaration declares -/

namespace OutlineItem

def featureFlag? (span : Span) : OutlineItem → Option FeatureFlag
  | feature name value => some ⟨name, value.literal, span⟩
  | _ => none

def include? (span : Span) : OutlineItem → Option Include
  | inclusion source names => some ⟨source, names, span⟩
  | _ => none

def param? (span : Span) : OutlineItem → Option Param
  | param name default => some ⟨name, default.map Toml.Value.literal, span⟩
  | _ => none

def workflow? (span : Span) : OutlineItem → Option Workflow
  | workflow name _ => some ⟨name, span⟩
  | _ => none

/-- The workflow, if it is designated as the entry. -/
def designated? (span : Span) : OutlineItem → Option Workflow
  | workflow name (some true) => some ⟨name, span⟩
  | workflow none none => some ⟨none, span⟩
  | _ => none

/-- The output block; its outputs have no place of their own. -/
def outputs? (span : Span) : OutlineItem → Option OutputBlock
  | output names => some ⟨names.map fun name => ⟨name, span⟩, span⟩
  | _ => none

def process? (span : Span) : OutlineItem → Option ProcessDef
  | process name => some ⟨name, span⟩
  | _ => none

def function? (span : Span) : OutlineItem → Option FunctionDef
  | function name params => some ⟨name, params, span⟩
  | _ => none

/-- The type, an enumeration or not. -/
def hostClass? (span : Span) : OutlineItem → Option ClassDef
  | enum name values => some ⟨name, .enum, values, span⟩
  | hostClass name => some ⟨name, .plain, [], span⟩
  | _ => none

end OutlineItem

namespace Outline

open OutlineItem

/-! ## What a document declares -/

/-- What the declarations of one sort declare, in document order. -/
def declared {α : Type} (read : Span → OutlineItem → Option α) (ds : List (Span × OutlineItem)) :
    List α :=
  ds.filterMap fun d => read d.1 d.2

/-- The designated workflows, each with its ordinal among all workflows. -/
def designations (ds : List (Span × OutlineItem)) : List (Nat × Workflow) :=
  withEarlier
    (fun earlier d => (d.2.designated? d.1).map ((declared workflow? earlier).length, ·)) ds

/-- The error for a declaration, if an earlier one of its sort is replaced by it: a designated
workflow replaces the one designated before, and an output block the block before. -/
def repetition? (earlier : List (Span × OutlineItem)) (d : Span × OutlineItem) :
    Option ValidationError :=
  match d.2.designated? d.1, d.2.outputs? d.1 with
  | some w, _ =>
      (declared designated? earlier).getLast?.map fun old =>
        .duplicateEntry (some old.span) (some w.span)
  | none, some b =>
      (declared outputs? earlier).getLast?.map fun old => .duplicateOutputs old.span b.span
  | none, none => none

/-- The error for each pair of interpreter lines of which one follows the other. -/
def shebangRepetitions (lines : List String) : List ValidationError :=
  (lines.zip lines.tail).map fun p => .duplicateShebang p.1 p.2

/-- The error for the entry, if it has a name. -/
def nameError? (ds : List (Span × OutlineItem)) : Option ValidationError :=
  (declared designated? ds).getLast?.bind fun w => w.name.map fun name => .entryIsNamed name w.span

/-- A script is the replay of an outline if it holds what the outline declares, and validation
reports what the outline repeats. -/
structure IsReplay (o : Outline) (fileId : Nat) (s : Script) : Prop where
  fileId : s.host.fileId = fileId
  shebang :
    s.shebang = match o.shebang with
      | none => none
      | some (.one line) => some line
      | some (.many lines) => lines.getLast?
  outputs : s.outputs = (declared outputs? o.declarations).getLast?
  /-- Every output stands where its block stands. -/
  span_outputs : ∀ b ∈ s.outputs, ∀ output ∈ b.outputs, output.span = b.span
  entry : s.entry? = (declared designated? o.declarations).getLast?
  /-- Of two equal workflows the entry is the one that was designated. -/
  entryIndex : s.entryIndex? = (designations o.declarations).getLast?.map Prod.fst
  featureFlags : s.featureFlags = declared featureFlag? o.declarations
  includes : s.includes = declared include? o.declarations
  params : s.params = declared param? o.declarations
  workflows : s.workflows = declared workflow? o.declarations
  processes : s.processes = declared process? o.declarations
  functions : s.functions = declared function? o.declarations
  classes : s.host.classes = declared hostClass? o.declarations
  /-- The interpreter lines first, then the declarations in document order, then the entry. -/
  validate :
    s.validate =
      shebangRepetitions o.shebangLines ++ withEarlier repetition? o.declarations ++
        (nameError? o.declarations).toList

variable {α : Type} {ds : List (Span × OutlineItem)}

theorem declared_concat (read : Span → OutlineItem → Option α) (ds : List (Span × OutlineItem))
    (d : Span × OutlineItem) :
    declared read (ds ++ [d]) = declared read ds ++ (read d.1 d.2).toList := by
  unfold declared
  rw [List.filterMap_append]
  cases h : read d.1 d.2 <;> simp [h]

theorem designations_concat (ds : List (Span × OutlineItem)) (d : Span × OutlineItem) :
    designations (ds ++ [d]) =
      designations ds ++
        ((d.2.designated? d.1).map ((declared workflow? ds).length, ·)).toList :=
  withEarlier_concat _ ds d

theorem map_snd_designations (ds : List (Span × OutlineItem)) :
    (designations ds).map Prod.snd = declared designated? ds := by
  induction ds using List.reverseRecOn with
  | nil => rfl
  | append_singleton ds d ih =>
    rw [designations_concat, declared_concat, List.map_append, ih]
    cases d.2.designated? d.1 <;> rfl

theorem workflow?_of_designated? {span : Span} {d : OutlineItem} {w : Workflow}
    (h : d.designated? span = some w) : d.workflow? span = some w := by
  unfold designated? at h
  split at h
  · exact h
  · exact h
  · cases h

theorem getElem?_of_mem_designations {i : Nat} {w : Workflow} (h : (i, w) ∈ designations ds) :
    (declared workflow? ds)[i]? = some w := by
  induction ds using List.reverseRecOn with
  | nil => cases h
  | append_singleton ds d ih =>
    rw [designations_concat, List.mem_append] at h
    rw [declared_concat]
    rcases h with h | h
    · have hi := ih h
      rwa [List.getElem?_append_left (List.getElem?_eq_some_iff.1 hi).1]
    · obtain ⟨w', hw', hiw⟩ := Option.map_eq_some_iff.1 (Option.mem_toList.1 h)
      obtain ⟨rfl, rfl⟩ := Prod.mk.inj hiw
      rw [workflow?_of_designated? hw', List.getElem?_append_right (Nat.le_refl _), Nat.sub_self]
      rfl

/-! ## The fields of the built script -/

def shebangOverwrites (lines : List String) : List Overwrite :=
  (lines.zip lines.tail).map fun p => .shebang p.1 p.2

/-- What a declaration replaces, in terms of the ids that the script issues. -/
def overwrite? (identity : UInt64) (earlier : List (Span × OutlineItem))
    (d : Span × OutlineItem) : Option Overwrite :=
  match d.2.designated? d.1, d.2.outputs? d.1 with
  | some _, _ =>
      (designations earlier).getLast?.map fun old =>
        .entry ⟨identity, old.1⟩ ⟨identity, (declared workflow? earlier).length⟩
  | none, some b => (declared outputs? earlier).getLast?.map fun old => .outputs old.span b.span
  | none, none => none

/-- The fields of the script of an outline, read off its lines and declarations. -/
def fields (identity : UInt64) (fileId : Nat) (lines : List String)
    (ds : List (Span × OutlineItem)) : Script where
  identity := identity
  host := ⟨fileId, declared hostClass? ds⟩
  shebang := lines.getLast?
  featureFlags := declared featureFlag? ds
  includes := declared include? ds
  params := declared param? ds
  entryId := (designations ds).getLast?.map fun x => ⟨identity, x.1⟩
  outputs := (declared outputs? ds).getLast?
  workflows := declared workflow? ds
  processes := declared process? ds
  functions := declared function? ds
  overwrites := shebangOverwrites lines ++ withEarlier (overwrite? identity) ds

theorem shebangOverwrites_concat (lines : List String) (line : String) :
    shebangOverwrites (lines ++ [line]) =
      shebangOverwrites lines ++ (lines.getLast?.map fun old => .shebang old line).toList := by
  unfold shebangOverwrites
  induction lines with
  | nil => rfl
  | cons first rest ih =>
    cases rest with
    | nil => rfl
    | cons second rest => simpa using ih

theorem foldl_setShebang (identity : UInt64) (fileId : Nat) (lines : List String) :
    lines.foldl Script.setShebang (.empty identity fileId) = fields identity fileId lines [] := by
  induction lines using List.reverseRecOn with
  | nil => rfl
  | append_singleton lines line ih =>
    rw [List.foldl_append, List.foldl_cons, List.foldl_nil, ih]
    simp [fields, Script.setShebang, shebangOverwrites_concat, declared, designations, withEarlier]

/-- Replaying one more declaration. -/
theorem fields_concat (identity : UInt64) (fileId : Nat) (lines : List String)
    (ds : List (Span × OutlineItem)) (d : Span × OutlineItem) :
    fields identity fileId lines (ds ++ [d]) =
      d.2.replay (fields identity fileId lines ds) d.1 := by
  obtain ⟨span, d⟩ := d
  simp only [fields, declared_concat, designations_concat, withEarlier_concat]
  -- A declaration adds to the list of its kind; an output block or an entry may replace another.
  rcases d with _ | _ | _ | ⟨_ | _, _ | _ | _⟩ | _ | _ | _ | _ | _ <;>
    simp [replay, isDesignated, toItem, Script.add, featureFlag?, include?, param?, workflow?,
      designated?, outputs?, process?, function?, hostClass?, overwrite?, Script.nextId,
      Script.addFeatureFlag, Script.addInclude, Script.addParam, Script.addWorkflow,
      Script.addProcess, Script.addFunction, Script.addClass, HostModule.addClass,
      Script.setOutputs, Script.setEntry, ClassDef.enumeration, ClassDef.plain, Function.comp_def]

theorem build_eq_fields (o : Outline) (identity : UInt64) (fileId : Nat) :
    o.build identity fileId = fields identity fileId o.shebangLines o.declarations := by
  unfold build
  rw [foldl_setShebang]
  generalize o.declarations = ds
  induction ds using List.reverseRecOn with
  | nil => rfl
  | append_singleton ds d ih =>
    rw [List.foldl_append, ih, fields_concat]
    rfl

/-! ## What the built script shows -/

theorem mem_designations_append {x : Nat × Workflow} (h : x ∈ designations ds)
    (later : List (Span × OutlineItem)) : x ∈ designations (ds ++ later) := by
  induction later using List.reverseRecOn with
  | nil => rwa [List.append_nil]
  | append_singleton later d ih =>
    rw [← List.append_assoc, designations_concat]
    exact List.mem_append_left _ ih

section Fields

variable {identity : UInt64} {fileId : Nat} {lines : List String}

theorem workflow?_of_mem_designations {i : Nat} {w : Workflow} (h : (i, w) ∈ designations ds) :
    (fields identity fileId lines ds).workflow? ⟨identity, i⟩ = some w :=
  Script.workflow?_eq_some_iff.2 ⟨rfl, getElem?_of_mem_designations h⟩

theorem getLast?_declared_designated? (ds : List (Span × OutlineItem)) :
    (declared designated? ds).getLast? = (designations ds).getLast?.map Prod.snd := by
  rw [← map_snd_designations, List.getLast?_map]

theorem entry?_fields :
    Script.entry? (fields identity fileId lines ds) = (declared designated? ds).getLast? := by
  rw [getLast?_declared_designated?]
  have hentry : (fields identity fileId lines ds).entryId =
      (designations ds).getLast?.map fun x => ⟨identity, x.1⟩ := rfl
  unfold Script.entry?
  rw [hentry]
  rcases h : (designations ds).getLast? with _ | ⟨i, w⟩
  · rfl
  · exact workflow?_of_mem_designations (List.mem_of_getLast? h)

theorem entryIndex?_fields :
    (fields identity fileId lines ds).entryIndex? = (designations ds).getLast?.map Prod.fst := by
  rcases h : (designations ds).getLast? with _ | ⟨i, w⟩
  · simp [Script.entryIndex?, fields, h]
  · refine Script.entryIndex?_eq_some_iff.2 ⟨by simp [fields, h], ?_⟩
    have hw := getElem?_of_mem_designations (List.mem_of_getLast? h)
    exact (List.getElem?_eq_some_iff.1 hw).1

/-- The ids in the log resolve to the workflows that were designated, also at the end. -/
theorem overwriteError_overwrite? {earlier later : List (Span × OutlineItem)}
    {d : Span × OutlineItem} (hds : ds = earlier ++ d :: later) :
    (overwrite? identity earlier d).map (fields identity fileId lines ds).overwriteError =
      repetition? earlier d := by
  unfold overwrite? repetition?
  rcases hw : d.2.designated? d.1 with _ | w
  · cases d.2.outputs? d.1 with
    | none => rfl
    | some b => exact Option.map_map ..
  · have hnew : ((declared workflow? earlier).length, w) ∈ designations ds := by
      have hlast : ((declared workflow? earlier).length, w) ∈ designations (earlier ++ [d]) := by
        rw [designations_concat, hw]
        exact List.mem_append_right _ (List.mem_singleton.2 rfl)
      have hall := mem_designations_append hlast later
      rwa [List.append_assoc, List.singleton_append, ← hds] at hall
    simp only [getLast?_declared_designated?]
    rcases h : (designations earlier).getLast? with _ | ⟨i, old⟩
    · rfl
    · have hold : (i, old) ∈ designations ds := by
        rw [hds]
        exact mem_designations_append (List.mem_of_getLast? h) _
      simp only [Option.map_some, Script.overwriteError, workflow?_of_mem_designations hold,
        workflow?_of_mem_designations hnew]

theorem entryErrors_fields :
    ((fields identity fileId lines ds).entryId.map
      (fields identity fileId lines ds).entryErrors).getD [] = (nameError? ds).toList := by
  have hentry : (fields identity fileId lines ds).entryId =
      (designations ds).getLast?.map fun x => ⟨identity, x.1⟩ := rfl
  rw [hentry, nameError?, getLast?_declared_designated?]
  rcases h : (designations ds).getLast? with _ | ⟨i, w⟩
  · rfl
  · have hw : (fields identity fileId lines ds).workflow? ⟨identity, i⟩ = some w :=
      workflow?_of_mem_designations (List.mem_of_getLast? h)
    obtain ⟨_ | name, span⟩ := w <;> simp [Script.entryErrors, hw]

theorem validate_fields :
    (fields identity fileId lines ds).validate =
      shebangRepetitions lines ++ withEarlier repetition? ds ++ (nameError? ds).toList := by
  have hlines : (shebangOverwrites lines).map (fields identity fileId lines ds).overwriteError =
      shebangRepetitions lines := List.map_map ..
  have hlog : (withEarlier (overwrite? identity) ds).map
      (fields identity fileId lines ds).overwriteError = withEarlier repetition? ds := by
    rw [map_withEarlier]
    exact withEarlier_congr fun earlier d later hds => overwriteError_overwrite? hds
  unfold Script.validate
  rw [entryErrors_fields, ← hlines, ← hlog, ← List.map_append]
  rfl

end Fields

theorem span_of_mem_outputs? {span : Span} {d : OutlineItem} {b : OutputBlock}
    (h : d.outputs? span = some b) : ∀ output ∈ b.outputs, output.span = b.span := by
  unfold outputs? at h
  split at h
  · obtain rfl := Option.some.inj h
    intro output houtput
    obtain ⟨name, -, rfl⟩ := List.mem_map.1 houtput
    rfl
  · cases h

/-- The script of an outline is its replay, whatever the outline, the file and the identity. -/
theorem isReplay_build (o : Outline) (identity : UInt64) (fileId : Nat) :
    o.IsReplay fileId (o.build identity fileId) := by
  rw [build_eq_fields]
  exact {
    fileId := rfl
    shebang := by
      unfold shebangLines
      rcases o.shebang with _ | line | lines <;> rfl
    outputs := rfl
    span_outputs := fun b hb => by
      obtain ⟨d, -, hd⟩ := List.mem_filterMap.1 (List.mem_of_getLast? hb)
      exact span_of_mem_outputs? hd
    entry := entry?_fields
    entryIndex := entryIndex?_fields
    featureFlags := rfl
    includes := rfl
    params := rfl
    workflows := rfl
    processes := rfl
    functions := rfl
    classes := rfl
    validate := validate_fields }

/-- Repetitions of both sorts stand in the order of the document. -/
example :
    (build ⟨some (.many ["#!a", "#!b"]),
      [(⟨0, 1⟩, .workflow none none), (⟨2, 3⟩, .output ["x"]),
        (⟨4, 5⟩, .workflow (some "N") (some true)), (⟨6, 7⟩, .workflow none (some false)),
        (⟨8, 9⟩, .output []), (⟨10, 11⟩, .workflow (some "M") (some true))]⟩ 0 0).validate =
      [.duplicateShebang "#!a" "#!b", .duplicateEntry (some ⟨0, 1⟩) (some ⟨4, 5⟩),
        .duplicateOutputs ⟨2, 3⟩ ⟨8, 9⟩, .duplicateEntry (some ⟨4, 5⟩) (some ⟨10, 11⟩),
        .entryIsNamed "M" ⟨10, 11⟩] := rfl

end Outline

end WorkflowOutline
