import WorkflowOutline.Declaration.Basic
import WorkflowOutline.Script.Basic

/-!
# The canonical listing of a script

`Script.declarations` lists the declarations of a script by category: feature flags, includes,
parameters, the entry workflow, the output block, the other workflows, processes, functions and
enumerations. Within a category the order of addition is kept.
-/

namespace WorkflowOutline

namespace Script

/-- The workflows other than the one whose ordinal is given. -/
def workflowsExcept (s : Script) (entry : Option Nat) : List Workflow :=
  (s.workflows.zipIdx.filter fun p => some p.2 != entry).map Prod.fst

/-- The ordinal of the entry workflow, if the entry refers to a workflow of this script. -/
def entryIndex? (s : Script) : Option Nat := s.entryId.bind s.ownedIndex?

/-- All declarations in canonical order, recomputed on each call. -/
def declarations (s : Script) : List Declaration :=
  s.featureFlags.map .featureFlag
    ++ s.includes.map .inclusion
    ++ s.params.map .param
    ++ (s.entry?.map .entry).toList
    ++ (s.outputs.map .outputs).toList
    ++ (s.workflowsExcept s.entryIndex?).map .workflow
    ++ s.processes.map .process
    ++ s.functions.map .function
    ++ s.enums.map .enum

/-- The headers of the declarations, in canonical order. -/
def headers (s : Script) : List String := s.declarations.map Declaration.header

@[simp] theorem declarations_empty (identity : UInt64) (fileId : Nat) :
    (empty identity fileId).declarations = [] := rfl

theorem entryIndex?_eq_some_iff {s : Script} {i : Nat} :
    s.entryIndex? = some i ↔
      s.entryId = some ⟨s.identity, i⟩ ∧ i < s.workflows.length := by
  unfold entryIndex?
  rw [Option.bind_eq_some_iff]
  constructor
  · rintro ⟨⟨script, index⟩, hid, hi⟩
    obtain ⟨h₁, h₂, h₃⟩ := ownedIndex?_eq_some_iff.1 hi
    subst h₁ h₂
    exact ⟨hid, h₃⟩
  · rintro ⟨hid, hi⟩
    exact ⟨_, hid, ownedIndex?_eq_some_iff.2 ⟨rfl, rfl, hi⟩⟩

end Script

end WorkflowOutline
