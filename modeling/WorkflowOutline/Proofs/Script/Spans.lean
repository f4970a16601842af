import Mathlib.Data.List.InsertIdx
import WorkflowOutline.Proofs.Script.Listing
import WorkflowOutline.Script.Session
import WorkflowOutline.Script.Validation

/-!
# Spans are only carried

`Script.mapSpans` moves every span that a script holds. Each building step commutes with it
(`add_mapSpans`, `setEntry_mapSpans`, `setShebang_mapSpans`), and so do the listing and validation
(`declarations_mapSpans`, `validate_mapSpans`). No header and no message shows a span, so scripts
that differ in their spans alone are listed in the same words, and have the same messages
(`headers_mapSpans`, `messages_mapSpans`).
-/

namespace WorkflowOutline

/-! ## Items with other spans -/

def FeatureFlag.mapSpan (f : Span → Span) (x : FeatureFlag) : FeatureFlag :=
  { x with span := f x.span }

def Include.mapSpan (f : Span → Span) (i : Include) : Include := { i with span := f i.span }

def Param.mapSpan (f : Span → Span) (p : Param) : Param := { p with span := f p.span }

def Workflow.mapSpan (f : Span → Span) (w : Workflow) : Workflow := { w with span := f w.span }

def ProcessDef.mapSpan (f : Span → Span) (p : ProcessDef) : ProcessDef :=
  { p with span := f p.span }

def FunctionDef.mapSpan (f : Span → Span) (d : FunctionDef) : FunctionDef :=
  { d with span := f d.span }

def Output.mapSpan (f : Span → Span) (o : Output) : Output := { o with span := f o.span }

/-- The outputs have spans of their own. -/
def OutputBlock.mapSpans (f : Span → Span) (b : OutputBlock) : OutputBlock :=
  ⟨b.outputs.map (Output.mapSpan f), f b.span⟩

def ClassDef.mapSpan (f : Span → Span) (c : ClassDef) : ClassDef := { c with span := f c.span }

def Item.mapSpans (f : Span → Span) : Item → Item
  | featureFlag x => featureFlag (x.mapSpan f)
  | inclusion i => inclusion (i.mapSpan f)
  | param p => param (p.mapSpan f)
  | workflow w => workflow (w.mapSpan f)
  | process p => process (p.mapSpan f)
  | function d => function (d.mapSpan f)
  | outputs b => outputs (b.mapSpans f)
  | hostClass c => hostClass (c.mapSpan f)

namespace Declaration

def mapSpans (f : Span → Span) : Declaration → Declaration
  | featureFlag x => featureFlag (x.mapSpan f)
  | inclusion i => inclusion (i.mapSpan f)
  | param p => param (p.mapSpan f)
  | entry w => entry (w.mapSpan f)
  | outputs b => outputs (b.mapSpans f)
  | workflow w => workflow (w.mapSpan f)
  | process p => process (p.mapSpan f)
  | function d => function (d.mapSpan f)
  | enum c => enum (c.mapSpan f)

theorem header_mapSpans (f : Span → Span) (d : Declaration) : (d.mapSpans f).header = d.header := by
  cases d with
  | outputs b =>
    simp only [mapSpans, header, OutputBlock.header, OutputBlock.mapSpans, List.map_map]
    rfl
  | _ => rfl

end Declaration

/-! ## Scripts with other spans -/

def HostModule.mapSpans (f : Span → Span) (m : HostModule) : HostModule :=
  { m with classes := m.classes.map (ClassDef.mapSpan f) }

def Overwrite.mapSpans (f : Span → Span) : Overwrite → Overwrite
  | outputs replaced replacement => outputs (f replaced) (f replacement)
  | shebang replaced replacement => shebang replaced replacement
  | entry replaced replacement => entry replaced replacement

namespace ValidationError

def mapSpans (f : Span → Span) : ValidationError → ValidationError
  | entryNotInWorkflows index len => entryNotInWorkflows index len
  | foreignEntry index => foreignEntry index
  | entryIsNamed name span => entryIsNamed name (f span)
  | duplicateEntry first second => duplicateEntry (first.map f) (second.map f)
  | duplicateOutputs first second => duplicateOutputs (f first) (f second)
  | duplicateShebang first second => duplicateShebang first second

theorem message_mapSpans (f : Span → Span) (e : ValidationError) :
    (e.mapSpans f).message = e.message := by
  cases e <;> rfl

end ValidationError

namespace Script

variable (f : Span → Span) (s : Script)

/-- The script with all spans moved; ids, texts and the order of everything stay. -/
def mapSpans : Script :=
  { s with
    host := s.host.mapSpans f
    featureFlags := s.featureFlags.map (FeatureFlag.mapSpan f)
    includes := s.includes.map (Include.mapSpan f)
    params := s.params.map (Param.mapSpan f)
    outputs := s.outputs.map (OutputBlock.mapSpans f)
    workflows := s.workflows.map (Workflow.mapSpan f)
    processes := s.processes.map (ProcessDef.mapSpan f)
    functions := s.functions.map (FunctionDef.mapSpan f)
    overwrites := s.overwrites.map (Overwrite.mapSpans f) }

/-! ## Building -/

theorem nextId_mapSpans : (s.mapSpans f).nextId = s.nextId := by
  unfold nextId mapSpans
  rw [List.length_map]

theorem setOutputs_mapSpans (b : OutputBlock) :
    (s.setOutputs b).mapSpans f = (s.mapSpans f).setOutputs (b.mapSpans f) := by
  unfold setOutputs mapSpans
  rcases s.outputs with _ | old <;> simp [OutputBlock.mapSpans, Overwrite.mapSpans]

theorem setEntry_mapSpans (id : WorkflowId) :
    (s.setEntry id).mapSpans f = (s.mapSpans f).setEntry id := by
  unfold setEntry mapSpans
  rcases s.entryId with _ | old <;> simp [Overwrite.mapSpans]

theorem setShebang_mapSpans (line : String) :
    (s.setShebang line).mapSpans f = (s.mapSpans f).setShebang line := by
  unfold setShebang mapSpans
  rcases s.shebang with _ | old <;> simp [Overwrite.mapSpans]

theorem add_mapSpans (item : Item) :
    (s.add item).mapSpans f = (s.mapSpans f).add (item.mapSpans f) := by
  cases item with
  | outputs b => exact s.setOutputs_mapSpans f b
  | _ =>
    simp [add, Item.mapSpans, mapSpans, addFeatureFlag, addInclude, addParam, addWorkflow,
      addProcess, addFunction, addClass, HostModule.addClass, HostModule.mapSpans]

/-! ## Ids -/

theorem owns_mapSpans (id : WorkflowId) : (s.mapSpans f).owns id = s.owns id := rfl

theorem ownedIndex?_mapSpans (id : WorkflowId) :
    (s.mapSpans f).ownedIndex? id = s.ownedIndex? id := by
  unfold ownedIndex?
  rw [owns_mapSpans, mapSpans, List.length_map]

theorem workflow?_mapSpans (id : WorkflowId) :
    (s.mapSpans f).workflow? id = (s.workflow? id).map (Workflow.mapSpan f) := by
  unfold workflow?
  rw [ownedIndex?_mapSpans, Option.map_bind]
  refine congrArg _ (funext fun i => ?_)
  exact List.getElem?_map

theorem entry?_mapSpans : Script.entry? (s.mapSpans f) = s.entry?.map (Workflow.mapSpan f) := by
  unfold entry?
  rw [Option.map_bind]
  exact congrArg _ (funext (s.workflow?_mapSpans f))

theorem entryIndex?_mapSpans : (s.mapSpans f).entryIndex? = s.entryIndex? := by
  unfold entryIndex?
  exact congrArg _ (funext (s.ownedIndex?_mapSpans f))

/-! ## The listing -/

theorem workflowsExcept_mapSpans (entry : Option Nat) :
    (s.mapSpans f).workflowsExcept entry =
      (s.workflowsExcept entry).map (Workflow.mapSpan f) := by
  cases entry with
  | none =>
    rw [workflowsExcept_none, workflowsExcept_none]
    rfl
  | some i =>
    rw [workflowsExcept_some, workflowsExcept_some]
    exact List.eraseIdx_map _ _ i

theorem enums_mapSpans : (s.mapSpans f).enums = s.enums.map (ClassDef.mapSpan f) := by
  unfold enums HostModule.enums
  exact List.filter_map.trans rfl

theorem declarations_mapSpans :
    (s.mapSpans f).declarations = s.declarations.map (Declaration.mapSpans f) := by
  unfold declarations
  rw [entry?_mapSpans, entryIndex?_mapSpans, workflowsExcept_mapSpans, enums_mapSpans]
  simp only [List.map_append, List.map_map, Option.toList_map, mapSpans]
  rfl

theorem headers_mapSpans : (s.mapSpans f).headers = s.headers := by
  unfold headers
  rw [declarations_mapSpans, List.map_map]
  exact List.map_congr_left fun d _ => d.header_mapSpans f

/-! ## Validation -/

theorem overwriteError_mapSpans (o : Overwrite) :
    (s.mapSpans f).overwriteError (o.mapSpans f) = (s.overwriteError o).mapSpans f := by
  cases o with
  | entry replaced replacement =>
    simp only [Overwrite.mapSpans, overwriteError, workflow?_mapSpans, Option.map_map,
      ValidationError.mapSpans]
    rfl
  | _ => rfl

theorem entryErrors_mapSpans (id : WorkflowId) :
    (s.mapSpans f).entryErrors id = (s.entryErrors id).map (ValidationError.mapSpans f) := by
  unfold entryErrors
  rw [workflow?_mapSpans, owns_mapSpans, mapSpans, List.length_map]
  rcases s.workflow? id with _ | ⟨_ | name, span⟩
  · rcases s.owns id with _ | _ <;> rfl
  · rfl
  · rfl

theorem validate_mapSpans :
    (s.mapSpans f).validate = s.validate.map (ValidationError.mapSpans f) := by
  have hlog : (s.mapSpans f).overwrites.map (s.mapSpans f).overwriteError =
      (s.overwrites.map s.overwriteError).map (ValidationError.mapSpans f) := by
    simp only [mapSpans, List.map_map]
    exact List.map_congr_left fun o _ => s.overwriteError_mapSpans f o
  have hid : (s.mapSpans f).entryId = s.entryId := rfl
  unfold validate
  rw [hlog, hid, List.map_append]
  rcases s.entryId with _ | id
  · rfl
  · rw [Option.map_some, Option.map_some, Option.getD_some, Option.getD_some, entryErrors_mapSpans]

/-- The messages of all errors. -/
def messages : List String := s.validate.map ValidationError.message

theorem messages_mapSpans : (s.mapSpans f).messages = s.messages := by
  unfold messages
  rw [validate_mapSpans, List.map_map]
  exact List.map_congr_left fun e _ => e.message_mapSpans f

theorem validate_eq_nil_iff_messages : s.validate = [] ↔ s.messages = [] :=
  List.map_eq_nil_iff.symm

end Script

end WorkflowOutline
