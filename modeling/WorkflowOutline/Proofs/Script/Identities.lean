import Mathlib.Logic.Equiv.Basic
import WorkflowOutline.Proofs.Script.Listing
import WorkflowOutline.Script.Session
import WorkflowOutline.Script.Validation

/-!
# Identities are only compared

`Script.rename` gives a script another identity, and renames the identities of the ids that it keeps
by the same permutation. Building commutes with it (`setEntry_rename`, `add_rename`), a renamed id
refers to what it referred to before (`workflow?_rename`), and the listing and validation do not
change at all (`declarations_rename`, `validate_rename`): identities are compared with each other,
and nothing else about them matters.
-/

namespace WorkflowOutline

/-- The permutations of identities. -/
abbrev Renaming := Equiv.Perm UInt64

def WorkflowId.rename (ρ : Renaming) (id : WorkflowId) : WorkflowId :=
  { id with script := ρ id.script }

theorem WorkflowId.rename_inj {ρ : Renaming} {id id' : WorkflowId} :
    id.rename ρ = id'.rename ρ ↔ id = id' := by
  obtain ⟨script, index⟩ := id
  obtain ⟨script', index'⟩ := id'
  simp [rename]

def Overwrite.rename (ρ : Renaming) : Overwrite → Overwrite
  | shebang replaced replacement => shebang replaced replacement
  | entry replaced replacement => entry (replaced.rename ρ) (replacement.rename ρ)
  | outputs replaced replacement => outputs replaced replacement

namespace Script

variable (ρ : Renaming) (s : Script)

/-- The script with all identities renamed; ordinals and all that was added stay. -/
def rename : Script :=
  { s with
    identity := ρ s.identity
    entryId := s.entryId.map (WorkflowId.rename ρ)
    overwrites := s.overwrites.map (Overwrite.rename ρ) }

/-! ## Building -/

theorem setEntry_rename (id : WorkflowId) :
    (s.setEntry id).rename ρ = (s.rename ρ).setEntry (id.rename ρ) := by
  unfold setEntry rename
  rcases s.entryId with _ | old <;> simp [Overwrite.rename]

theorem setShebang_rename (line : String) :
    (s.setShebang line).rename ρ = (s.rename ρ).setShebang line := by
  unfold setShebang rename
  rcases s.shebang with _ | old <;> simp [Overwrite.rename]

theorem setOutputs_rename (b : OutputBlock) :
    (s.setOutputs b).rename ρ = (s.rename ρ).setOutputs b := by
  unfold setOutputs rename
  rcases s.outputs with _ | old <;> simp [Overwrite.rename]

theorem add_rename (item : Item) : (s.add item).rename ρ = (s.rename ρ).add item := by
  cases item with
  | outputs b => exact s.setOutputs_rename ρ b
  | _ => rfl

theorem nextId_rename : (s.rename ρ).nextId = s.nextId.rename ρ := rfl

/-! ## Ids -/

theorem owns_rename (id : WorkflowId) : (s.rename ρ).owns (id.rename ρ) = s.owns id := by
  rw [Bool.eq_iff_iff, owns_iff, owns_iff]
  exact ρ.apply_eq_iff_eq

theorem ownedIndex?_rename (id : WorkflowId) :
    (s.rename ρ).ownedIndex? (id.rename ρ) = s.ownedIndex? id := by
  unfold ownedIndex?
  rw [owns_rename]
  rfl

theorem workflow?_rename (id : WorkflowId) :
    (s.rename ρ).workflow? (id.rename ρ) = s.workflow? id := by
  unfold workflow?
  rw [ownedIndex?_rename]
  rfl

theorem entry?_rename : Script.entry? (s.rename ρ) = s.entry? := by
  unfold entry? rename
  rcases s.entryId with _ | id
  · rfl
  · exact s.workflow?_rename ρ id

theorem entryIndex?_rename : (s.rename ρ).entryIndex? = s.entryIndex? := by
  unfold entryIndex? rename
  rcases s.entryId with _ | id
  · rfl
  · exact s.ownedIndex?_rename ρ id

/-! ## The listing and validation -/

theorem declarations_rename : (s.rename ρ).declarations = s.declarations := by
  unfold declarations
  rw [entry?_rename, entryIndex?_rename]
  rfl

theorem overwriteError_rename (o : Overwrite) :
    (s.rename ρ).overwriteError (o.rename ρ) = s.overwriteError o := by
  cases o with
  | entry replaced replacement =>
    simp only [Overwrite.rename, overwriteError, workflow?_rename]
  | _ => rfl

theorem entryErrors_rename (id : WorkflowId) :
    (s.rename ρ).entryErrors (id.rename ρ) = s.entryErrors id := by
  unfold entryErrors
  rw [workflow?_rename, owns_rename]
  rfl

theorem validate_rename : (s.rename ρ).validate = s.validate := by
  have hlog : (s.rename ρ).overwrites.map (s.rename ρ).overwriteError =
      s.overwrites.map s.overwriteError := by
    unfold rename
    rw [List.map_map]
    exact List.map_congr_left fun o _ => s.overwriteError_rename ρ o
  have hentry : (s.rename ρ).entryId.map (s.rename ρ).entryErrors =
      s.entryId.map s.entryErrors := by
    unfold rename
    rw [Option.map_map]
    exact congrArg (Option.map · s.entryId) (funext (s.entryErrors_rename ρ))
  unfold validate
  rw [hlog, hentry]

end Script

end WorkflowOutline
