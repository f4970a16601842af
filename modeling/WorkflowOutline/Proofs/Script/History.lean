import Mathlib.Data.List.Basic
import Mathlib.Data.List.Induction
import WorkflowOutline.Proofs.Script.Listing
import WorkflowOutline.Script.Session

/-!
# The history of a script

A `History` says how a script came about: around which host module and under which identity it was
created, and which building steps were taken since. All that a script shows is a function of its
history. `script_eq_fields` gives every field of the script in terms of the calls, from which follow

* `declarations_script`: the canonical listing is `History.listing`, which reads off the calls what
  was added, in the order of the calls;
* `validate_script`: the errors are those of `History.duplicates`, one for each call that replaced
  an earlier value of the same setter, and then those of `History.entryErrors` on the last entry.

The log of overwrites that a script keeps is recovered from the calls by `replacements`.
-/

namespace WorkflowOutline

/-! ## The arguments of the calls

What a call of one sort adds, declares or sets; all other calls have no such argument. -/

namespace Call

def featureFlag? : Call → Option FeatureFlag
  | .add (.featureFlag f) => some f
  | _ => none

def inclusion? : Call → Option Include
  | .add (.inclusion i) => some i
  | _ => none

def param? : Call → Option Param
  | .add (.param p) => some p
  | _ => none

def workflow? : Call → Option Workflow
  | .add (.workflow w) => some w
  | _ => none

def process? : Call → Option ProcessDef
  | .add (.process p) => some p
  | _ => none

def function? : Call → Option FunctionDef
  | .add (.function f) => some f
  | _ => none

def hostClass? : Call → Option ClassDef
  | .add (.hostClass c) => some c
  | _ => none

def outputs? : Call → Option OutputBlock
  | .add (.outputs b) => some b
  | _ => none

def entry? : Call → Option WorkflowId
  | .setEntry id => some id
  | _ => none

def shebang? : Call → Option String
  | .setShebang line => some line
  | _ => none

/-- Whether the call can show in the listing: it sets no interpreter line and declares no class. -/
def isListed : Call → Bool
  | .setShebang _ => false
  | .add (.hostClass c) => c.isEnum
  | _ => true

end Call

/-- The argument of the last call of one sort. -/
def lastArgument? {α : Type} (select : Call → Option α) (calls : List Call) : Option α :=
  (calls.filterMap select).getLast?

theorem lastArgument?_concat {α : Type} (select : Call → Option α) (calls : List Call) (c : Call) :
    lastArgument? select (calls ++ [c]) = (select c).or (lastArgument? select calls) := by
  unfold lastArgument?
  rw [List.filterMap_append, List.getLast?_append]
  cases h : select c <;> simp [h]

/-- Reads each member of a list together with all members before it. -/
def withEarlier {α β : Type} (read : List α → α → Option β) (l : List α) : List β :=
  l.zipIdx.filterMap fun p => read (l.take p.2) p.1

theorem withEarlier_concat {α β : Type} (read : List α → α → Option β) (l : List α) (a : α) :
    withEarlier read (l ++ [a]) = withEarlier read l ++ (read l a).toList := by
  have hearlier : (l.zipIdx.filterMap fun p => read ((l ++ [a]).take p.2) p.1) =
      withEarlier read l := by
    refine List.filterMap_congr fun p hp => ?_
    have hlt := List.snd_lt_of_mem_zipIdx hp
    rw [List.take_append_of_le_length (by omega)]
  rw [withEarlier, List.zipIdx_append, List.filterMap_append, hearlier]
  cases h : read l a <;> simp [h]

theorem map_withEarlier {α β γ : Type} (read : List α → α → Option β) (f : β → γ) (l : List α) :
    (withEarlier read l).map f = withEarlier (fun earlier a => (read earlier a).map f) l :=
  List.map_filterMap

theorem withEarlier_congr {α β : Type} {read read' : List α → α → Option β} {l : List α}
    (h : ∀ earlier a later, l = earlier ++ a :: later → read earlier a = read' earlier a) :
    withEarlier read l = withEarlier read' l := by
  refine List.filterMap_congr fun p hp => h _ _ (l.drop (p.2 + 1)) ?_
  have hget := List.mk_mem_zipIdx_iff_getElem?.1 hp
  obtain ⟨hlt, ha⟩ := List.getElem?_eq_some_iff.1 hget
  rw [← ha, ← List.drop_eq_getElem_cons hlt, List.take_append_drop]

/-- What a call replaces, if its setter was called before. -/
def replacement? (before : List Call) : Call → Option Overwrite
  | .setShebang line => (lastArgument? Call.shebang? before).map fun old => .shebang old line
  | .setEntry id => (lastArgument? Call.entry? before).map fun old => .entry old id
  | .add (.outputs b) =>
      (lastArgument? Call.outputs? before).map fun old => .outputs old.span b.span
  | .add _ => none

/-- What the calls replace, one after the other. -/
def replacements (calls : List Call) : List Overwrite := withEarlier replacement? calls

theorem length_lastArgument? {α : Type} (select : Call → Option α) (calls : List Call) :
    (lastArgument? select calls).toList.length + ((calls.filterMap select).length - 1) =
      (calls.filterMap select).length := by
  unfold lastArgument?
  rcases h : calls.filterMap select with _ | ⟨a, l⟩
  · rfl
  · rw [List.getLast?_cons, Option.toList_some, List.length_singleton, List.length_cons]
    omega

/-- Every call of a setter but the first one replaces something. -/
theorem length_replacements (calls : List Call) :
    (replacements calls).length =
      ((calls.filterMap Call.shebang?).length - 1) + ((calls.filterMap Call.entry?).length - 1) +
        ((calls.filterMap Call.outputs?).length - 1) := by
  induction calls using List.reverseRecOn with
  | nil => rfl
  | append_singleton calls c ih =>
    have hshebang := length_lastArgument? Call.shebang? calls
    have hentry := length_lastArgument? Call.entry? calls
    have houtputs := length_lastArgument? Call.outputs? calls
    rw [replacements, withEarlier_concat, List.length_append, ← replacements, ih]
    simp only [List.filterMap_append, List.length_append]
    rcases c with (_ | _ | _ | _ | _ | _ | _ | _) | id | line <;>
      simp only [replacement?, List.filterMap_cons, List.filterMap_nil, Call.shebang?, Call.entry?,
        Call.outputs?, Option.toList_none, Option.toList_map, List.length_map, List.length_nil,
        List.length_singleton] <;>
      omega

/-! ## Histories -/

/-- How a script came about: its creation around a host module and the building steps since. -/
structure History where
  identity : UInt64
  host : HostModule
  calls : List Call
deriving DecidableEq, Repr

namespace History

def concat (h : History) (c : Call) : History := { h with calls := h.calls ++ [c] }

/-- The script with this history. -/
def script (h : History) : Script := (Script.ofModule h.identity h.host).applyAll h.calls

/-- The arguments of the calls of one sort, in the order of the calls. -/
def arguments {α : Type} (h : History) (select : Call → Option α) : List α :=
  h.calls.filterMap select

def workflows (h : History) : List Workflow := h.arguments Call.workflow?

def entryId? (h : History) : Option WorkflowId := lastArgument? Call.entry? h.calls

/-- The workflow an id refers to: that of the call with this ordinal, if the id is the script's. -/
def workflow? (h : History) (id : WorkflowId) : Option Workflow :=
  if id.script = h.identity then h.workflows[id.index]? else none

theorem arguments_concat {α : Type} (h : History) (select : Call → Option α) (c : Call) :
    (h.concat c).arguments select = h.arguments select ++ (select c).toList := by
  unfold arguments concat
  rw [List.filterMap_append]
  cases hc : select c <;> simp [hc]

theorem script_concat (h : History) (c : Call) : (h.concat c).script = h.script.apply c := by
  simp only [script, concat, Script.applyAll_append, Script.applyAll_cons, Script.applyAll_nil]

/-- The fields of the script with this history, read off the calls. -/
def fields (h : History) : Script where
  identity := h.identity
  host := { h.host with classes := h.host.classes ++ h.arguments Call.hostClass? }
  shebang := lastArgument? Call.shebang? h.calls
  featureFlags := h.arguments Call.featureFlag?
  includes := h.arguments Call.inclusion?
  params := h.arguments Call.param?
  entryId := h.entryId?
  outputs := lastArgument? Call.outputs? h.calls
  workflows := h.workflows
  processes := h.arguments Call.process?
  functions := h.arguments Call.function?
  overwrites := replacements h.calls

theorem fields_concat (h : History) (c : Call) : (h.concat c).fields = h.fields.apply c := by
  have hlast : ∀ {α : Type} (select : Call → Option α),
      lastArgument? select (h.concat c).calls = (select c).or (lastArgument? select h.calls) :=
    fun select => lastArgument?_concat select h.calls c
  have hlog : replacements (h.concat c).calls =
      replacements h.calls ++ (replacement? h.calls c).toList :=
    withEarlier_concat replacement? h.calls c
  simp only [fields, workflows, entryId?, arguments_concat, hlast, hlog]
  -- An added item changes its own list, or the output block; a setter its own slot.
  rcases c with (_ | _ | _ | _ | _ | _ | _ | _) | id | line <;>
    simp [concat, replacement?, Call.featureFlag?, Call.inclusion?, Call.param?, Call.workflow?,
      Call.process?, Call.function?, Call.hostClass?, Call.outputs?, Call.entry?, Call.shebang?,
      Script.apply, Script.add, Script.addFeatureFlag, Script.addInclude, Script.addParam,
      Script.addWorkflow, Script.addProcess, Script.addFunction, Script.addClass,
      HostModule.addClass, Script.setOutputs, Script.setEntry, Script.setShebang]

/-- Every field of a script, in terms of its history. -/
theorem script_eq_fields (h : History) : h.script = h.fields := by
  obtain ⟨identity, host, calls⟩ := h
  induction calls using List.reverseRecOn with
  | nil =>
    simp [script, fields, Script.ofModule, arguments, workflows, entryId?, lastArgument?,
      replacements, withEarlier]
  | append_singleton calls c ih =>
    calc (concat ⟨identity, host, calls⟩ c).script
        = (script ⟨identity, host, calls⟩).apply c := script_concat _ _
      _ = (fields ⟨identity, host, calls⟩).apply c := by rw [ih]
      _ = (concat ⟨identity, host, calls⟩ c).fields := (fields_concat _ _).symm

theorem identity_script (h : History) : h.script.identity = h.identity := by
  rw [script_eq_fields]
  rfl

theorem workflows_script (h : History) : h.script.workflows = h.workflows := by
  rw [script_eq_fields]
  rfl

theorem entryId_script (h : History) : h.script.entryId = h.entryId? := by
  rw [script_eq_fields]
  rfl

theorem overwrites_script (h : History) : h.script.overwrites = replacements h.calls := by
  rw [script_eq_fields]
  rfl

/-! ## Ids and errors, read off the calls -/

theorem workflow?_script (h : History) (id : WorkflowId) :
    h.script.workflow? id = h.workflow? id := by
  rw [script_eq_fields, workflow?]
  ext w
  rw [Script.workflow?_eq_some_iff]
  split
  · next hid => exact ⟨And.right, fun hw => ⟨hid, hw⟩⟩
  · next hid => exact ⟨fun hw => absurd hw.1 hid, fun hw => by cases hw⟩

/-- The error for a replaced value; entries are looked up among all added workflows. -/
def duplicateError (h : History) : Overwrite → ValidationError
  | .shebang replaced replacement => .duplicateShebang replaced replacement
  | .entry replaced replacement =>
      .duplicateEntry ((h.workflow? replaced).map (·.span)) ((h.workflow? replacement).map (·.span))
  | .outputs replaced replacement => .duplicateOutputs replaced replacement

/-- One error for every call whose setter was called before, in the order of the calls. -/
def duplicates (h : History) : List ValidationError :=
  (replacements h.calls).map h.duplicateError

/-- What is wrong with the last designated entry. -/
def entryErrors (h : History) : List ValidationError :=
  match h.entryId? with
  | none => []
  | some id =>
      if id.script ≠ h.identity then [.foreignEntry id.index]
      else
        match h.workflows[id.index]? with
        | none => [.entryNotInWorkflows id.index h.workflows.length]
        | some ⟨none, _⟩ => []
        | some ⟨some name, span⟩ => [.entryIsNamed name span]

theorem overwriteError_script (h : History) (o : Overwrite) :
    h.script.overwriteError o = h.duplicateError o := by
  cases o with
  | entry replaced replacement =>
    simp only [Script.overwriteError, duplicateError, workflow?_script]
  | _ => rfl

theorem entryErrors_script (h : History) (id : WorkflowId) (hid : h.entryId? = some id) :
    h.script.entryErrors id = h.entryErrors := by
  simp only [Script.entryErrors, entryErrors, hid, workflow?_script, workflow?, Script.owns,
    identity_script, workflows_script]
  by_cases howns : id.script = h.identity
  · simp only [howns]
    rcases h.workflows[id.index]? with _ | ⟨_ | name, span⟩ <;> simp
  · simp [howns]

/-- Validation reports what the setters replaced, and then what is wrong with the last entry. -/
theorem validate_script (h : History) : h.script.validate = h.duplicates ++ h.entryErrors := by
  unfold Script.validate duplicates
  rw [overwrites_script, entryId_script, List.map_congr_left fun o _ => h.overwriteError_script o]
  congr 1
  rcases hid : h.entryId? with _ | id
  · simp [entryErrors, hid]
  · exact h.entryErrors_script id hid

/-! ## The listing, read off the calls -/

/-- The entry: the workflow that the last designated id refers to. -/
def entry? (h : History) : Option Workflow := h.entryId?.bind h.workflow?

def otherWorkflows (h : History) : List Workflow :=
  match h.entryId? with
  | none => h.workflows
  | some id => if id.script = h.identity then h.workflows.eraseIdx id.index else h.workflows

/-- The canonical listing of the script with this history. -/
def listing (h : History) : List Declaration :=
  (h.arguments Call.featureFlag?).map .featureFlag
    ++ (h.arguments Call.inclusion?).map .inclusion
    ++ (h.arguments Call.param?).map .param
    ++ (h.entry?.map .entry).toList
    ++ ((lastArgument? Call.outputs? h.calls).map .outputs).toList
    ++ h.otherWorkflows.map .workflow
    ++ (h.arguments Call.process?).map .process
    ++ (h.arguments Call.function?).map .function
    ++ (h.host.enums ++ (h.arguments Call.hostClass?).filter ClassDef.isEnum).map .enum

theorem entry?_script (h : History) : h.script.entry? = h.entry? := by
  unfold Script.entry? entry?
  rw [entryId_script]
  exact congrArg _ (funext h.workflow?_script)

theorem workflowsExcept_script (h : History) :
    h.script.workflowsExcept h.script.entryIndex? = h.otherWorkflows := by
  rw [Script.workflowsExcept_entryIndex?, script_eq_fields]
  rfl

/-- The listing shows what the calls added, in canonical order. -/
theorem declarations_script (h : History) : h.script.declarations = h.listing := by
  have henums : h.script.enums =
      h.host.enums ++ (h.arguments Call.hostClass?).filter ClassDef.isEnum := by
    rw [script_eq_fields]
    exact List.filter_append _ _
  unfold Script.declarations listing
  rw [entry?_script, workflowsExcept_script, henums, script_eq_fields]
  rfl

/-! ## Calls that never show -/

/-- The history without the interpreter lines and the types that are no enumerations. -/
def listed (h : History) : History where
  identity := h.identity
  host := { h.host with classes := h.host.enums }
  calls := h.calls.filter Call.isListed

theorem filterMap_filter_isListed {α : Type} {select : Call → Option α}
    (hshebang : ∀ line, select (.setShebang line) = none)
    (hclass : ∀ c : ClassDef, c.isEnum = false → select (.add (.hostClass c)) = none)
    (calls : List Call) :
    (calls.filter Call.isListed).filterMap select = calls.filterMap select := by
  rw [List.filterMap_filter]
  refine List.filterMap_congr fun call _ => ?_
  split
  · rfl
  · next hcall =>
    cases call with
    | setShebang line => exact (hshebang line).symm
    | setEntry id => exact absurd rfl hcall
    | add item =>
      cases item with
      | hostClass c => exact (hclass c (by simpa [Call.isListed] using hcall)).symm
      | _ => exact absurd rfl hcall

theorem arguments_listed {α : Type} (h : History) {select : Call → Option α}
    (hshebang : ∀ line, select (.setShebang line) = none)
    (hclass : ∀ c : ClassDef, c.isEnum = false → select (.add (.hostClass c)) = none) :
    h.listed.arguments select = h.arguments select :=
  filterMap_filter_isListed hshebang hclass h.calls

theorem lastArgument?_listed {α : Type} (h : History) {select : Call → Option α}
    (hshebang : ∀ line, select (.setShebang line) = none)
    (hclass : ∀ c : ClassDef, c.isEnum = false → select (.add (.hostClass c)) = none) :
    lastArgument? select h.listed.calls = lastArgument? select h.calls :=
  congrArg List.getLast? (filterMap_filter_isListed hshebang hclass h.calls)

theorem enums_listed (h : History) :
    h.listed.host.enums ++ (h.listed.arguments Call.hostClass?).filter ClassDef.isEnum =
      h.host.enums ++ (h.arguments Call.hostClass?).filter ClassDef.isEnum := by
  have hhost : h.listed.host.enums = h.host.enums := by
    simp only [listed, HostModule.enums, List.filter_filter, Bool.and_self]
  have hcalls : (h.listed.arguments Call.hostClass?).filter ClassDef.isEnum =
      (h.arguments Call.hostClass?).filter ClassDef.isEnum := by
    unfold arguments
    rw [List.filter_filterMap, List.filter_filterMap]
    refine filterMap_filter_isListed (fun _ => rfl) (fun c hc => ?_) h.calls
    simp [Call.hostClass?, hc]
  rw [hhost, hcalls]

/-- Interpreter lines, and types that are no enumerations, leave no trace in the listing. -/
theorem listing_listed (h : History) : h.listed.listing = h.listing := by
  have hworkflows : h.listed.workflows = h.workflows :=
    h.arguments_listed (fun _ => rfl) (fun _ _ => rfl)
  have hid : h.listed.entryId? = h.entryId? :=
    h.lastArgument?_listed (fun _ => rfl) (fun _ _ => rfl)
  have hworkflow : h.listed.workflow? = h.workflow? := by
    funext id
    simp only [workflow?, hworkflows]
    rfl
  have hentry : h.listed.entry? = h.entry? := by
    unfold entry?
    rw [hid, hworkflow]
  have hothers : h.listed.otherWorkflows = h.otherWorkflows := by
    simp only [otherWorkflows, hid, hworkflows]
    rfl
  have hflags : h.listed.arguments Call.featureFlag? = h.arguments Call.featureFlag? :=
    h.arguments_listed (fun _ => rfl) (fun _ _ => rfl)
  have hincludes : h.listed.arguments Call.inclusion? = h.arguments Call.inclusion? :=
    h.arguments_listed (fun _ => rfl) (fun _ _ => rfl)
  have hparams : h.listed.arguments Call.param? = h.arguments Call.param? :=
    h.arguments_listed (fun _ => rfl) (fun _ _ => rfl)
  have houtputs :
      lastArgument? Call.outputs? h.listed.calls = lastArgument? Call.outputs? h.calls :=
    h.lastArgument?_listed (fun _ => rfl) (fun _ _ => rfl)
  have hprocesses : h.listed.arguments Call.process? = h.arguments Call.process? :=
    h.arguments_listed (fun _ => rfl) (fun _ _ => rfl)
  have hfunctions : h.listed.arguments Call.function? = h.arguments Call.function? :=
    h.arguments_listed (fun _ => rfl) (fun _ _ => rfl)
  unfold listing
  rw [hflags, hincludes, hparams, hentry, houtputs, hothers, hprocesses, hfunctions, enums_listed]

end History

end WorkflowOutline
