import WorkflowOutline.Declaration.Item

/-!
# Scripts under construction

A `Script` collects the items of one workflow script in the order in which they are added. Nothing
is rejected while building: `setEntry` takes any `WorkflowId`, and a repeated setter replaces the
previous value and records an `Overwrite`.

A script stamps its `identity` into the ids it issues, so ids of different scripts can be told
apart; copies of a script share the identity.
-/

namespace WorkflowOutline

/-- The name of a workflow: the identity of the issuing script and the ordinal of the workflow. -/
structure WorkflowId where
  script : UInt64
  index : Nat
deriving DecidableEq, Repr

/-- A value replaced by a repeated call of a single-valued setter. -/
inductive Overwrite where
  | shebang (replaced replacement : String)
  | entry (replaced replacement : WorkflowId)
  | outputs (replaced replacement : Span)
deriving DecidableEq, Repr

/-- The host module of a script: a source file and the types that it declares. -/
structure HostModule where
  fileId : Nat
  classes : List ClassDef
deriving DecidableEq, Repr

namespace HostModule

/-- A module that declares no type. -/
def empty (fileId : Nat) : HostModule := ⟨fileId, []⟩

/-- Declares one more type. -/
def addClass (m : HostModule) (c : ClassDef) : HostModule :=
  { m with classes := m.classes ++ [c] }

/-- The declared enumerations, in order. -/
def enums (m : HostModule) : List ClassDef := m.classes.filter ClassDef.isEnum

@[simp] theorem fileId_addClass (m : HostModule) (c : ClassDef) :
    (m.addClass c).fileId = m.fileId := rfl

@[simp] theorem classes_addClass (m : HostModule) (c : ClassDef) :
    (m.addClass c).classes = m.classes ++ [c] := rfl

end HostModule

/-- A script under construction; every list keeps the order of addition. -/
structure Script where
  /-- Stamped into every id that this script issues; copies share it. -/
  identity : UInt64
  host : HostModule
  shebang : Option String
  featureFlags : List FeatureFlag
  includes : List Include
  params : List Param
  entryId : Option WorkflowId
  outputs : Option OutputBlock
  workflows : List Workflow
  processes : List ProcessDef
  functions : List FunctionDef
  /-- What repeated setters replaced, oldest first. -/
  overwrites : List Overwrite
deriving DecidableEq, Repr

namespace Script

/-- The script around a host module, with nothing added yet. -/
def ofModule (identity : UInt64) (host : HostModule) : Script :=
  { identity, host, shebang := none, featureFlags := [], includes := [], params := [],
    entryId := none, outputs := none, workflows := [], processes := [], functions := [],
    overwrites := [] }

def empty (identity : UInt64) (fileId : Nat) : Script := ofModule identity (.empty fileId)

/-! ## Ids -/

/-- Whether the id carries this script's identity. -/
def owns (s : Script) (id : WorkflowId) : Bool := id.script == s.identity

/-- The ordinal of an id of this script that names one of its workflows. -/
def ownedIndex? (s : Script) (id : WorkflowId) : Option Nat :=
  if s.owns id ∧ id.index < s.workflows.length then some id.index else none

/-- The workflow an id refers to, none for ids of other scripts. -/
def workflow? (s : Script) (id : WorkflowId) : Option Workflow :=
  (s.ownedIndex? id).bind fun index => s.workflows[index]?

/-- The entry workflow, if one is set and refers to a workflow of this script. -/
def entry? (s : Script) : Option Workflow := s.entryId.bind s.workflow?

/-- The enumerations of the host module, in order. -/
def enums (s : Script) : List ClassDef := s.host.enums

/-- The id that the next added workflow gets. -/
def nextId (s : Script) : WorkflowId := ⟨s.identity, s.workflows.length⟩

/-! ## Building -/

/-- Sets the interpreter line; a previous line is replaced and recorded. -/
def setShebang (s : Script) (line : String) : Script :=
  { s with
    shebang := some line
    overwrites := s.overwrites ++ (s.shebang.map fun old => Overwrite.shebang old line).toList }

def addFeatureFlag (s : Script) (f : FeatureFlag) : Script :=
  { s with featureFlags := s.featureFlags ++ [f] }

def addInclude (s : Script) (i : Include) : Script := { s with includes := s.includes ++ [i] }

def addParam (s : Script) (p : Param) : Script := { s with params := s.params ++ [p] }

/-- Appends a workflow, which `nextId` names from then on. -/
def addWorkflow (s : Script) (w : Workflow) : Script := { s with workflows := s.workflows ++ [w] }

/-- Designates the entry workflow without checking the id; a previous entry is recorded. -/
def setEntry (s : Script) (id : WorkflowId) : Script :=
  { s with
    entryId := some id
    overwrites := s.overwrites ++ (s.entryId.map fun old => Overwrite.entry old id).toList }

/-- Sets the output block; the span of a previous block is recorded. -/
def setOutputs (s : Script) (b : OutputBlock) : Script :=
  { s with
    outputs := some b
    overwrites :=
      s.overwrites ++ (s.outputs.map fun old => Overwrite.outputs old.span b.span).toList }

def addProcess (s : Script) (p : ProcessDef) : Script := { s with processes := s.processes ++ [p] }

def addFunction (s : Script) (f : FunctionDef) : Script :=
  { s with functions := s.functions ++ [f] }

/-- Declares a type in the host module. -/
def addClass (s : Script) (c : ClassDef) : Script := { s with host := s.host.addClass c }

/-- Adds any item; an output block replaces the previous one. -/
def add (s : Script) : Item → Script
  | .featureFlag f => s.addFeatureFlag f
  | .inclusion i => s.addInclude i
  | .param p => s.addParam p
  | .workflow w => s.addWorkflow w
  | .process p => s.addProcess p
  | .function f => s.addFunction f
  | .outputs b => s.setOutputs b
  | .hostClass c => s.addClass c

/-! ## What ids refer to -/

theorem owns_iff {s : Script} {id : WorkflowId} : s.owns id = true ↔ id.script = s.identity := by
  simp [owns]

theorem owns_nextId (s : Script) : s.owns s.nextId = true := by simp [owns, nextId]

theorem ownedIndex?_eq_some_iff {s : Script} {id : WorkflowId} {i : Nat} :
    s.ownedIndex? id = some i ↔
      id.script = s.identity ∧ id.index = i ∧ i < s.workflows.length := by
  unfold ownedIndex?
  split
  · next h =>
    rw [owns_iff] at h
    constructor
    · rintro ⟨rfl⟩
      exact ⟨h.1, rfl, h.2⟩
    · rintro ⟨-, rfl, -⟩
      rfl
  · next h =>
    rw [owns_iff] at h
    constructor
    · simp
    · rintro ⟨h₁, rfl, h₂⟩
      exact absurd ⟨h₁, h₂⟩ h

theorem workflow?_eq_some_iff {s : Script} {id : WorkflowId} {w : Workflow} :
    s.workflow? id = some w ↔ id.script = s.identity ∧ s.workflows[id.index]? = some w := by
  unfold workflow?
  rw [Option.bind_eq_some_iff]
  constructor
  · rintro ⟨i, hi, hw⟩
    obtain ⟨h₁, rfl, -⟩ := ownedIndex?_eq_some_iff.1 hi
    exact ⟨h₁, hw⟩
  · rintro ⟨h₁, hw⟩
    exact ⟨id.index, ownedIndex?_eq_some_iff.2 ⟨h₁, rfl, (List.getElem?_eq_some_iff.1 hw).1⟩, hw⟩

end Script

end WorkflowOutline
