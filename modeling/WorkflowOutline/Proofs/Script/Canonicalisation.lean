import Mathlib.Data.List.Induction
import WorkflowOutline.Proofs.Session.Sealing

/-!
# Canonical forms of scripts

Declaring again, in a new script, what the listing of a script shows gives its canonical form
(`Script.canonical`). It holds the listed items and nothing else (`canonical_eq_fields`): its
workflows start with the entry, and nothing was ever replaced in it. So it is listed like the script
(`declarations_canonical`), however that one came about, and it has no errors unless its entry has a
name (`validate_canonical`). A canonical form is its own canonical form (`canonical_canonical`).
-/

namespace WorkflowOutline

/-- Declares again what a listing shows; an entry is designated by the id that its workflow gets. -/
def Declaration.replay (s : Script) : Declaration → Script
  | featureFlag f => s.add (.featureFlag f)
  | inclusion i => s.add (.inclusion i)
  | param p => s.add (.param p)
  | entry w => (s.add (.workflow w)).setEntry s.nextId
  | outputs b => s.add (.outputs b)
  | workflow w => s.add (.workflow w)
  | process p => s.add (.process p)
  | function f => s.add (.function f)
  | enum c => s.add (.hostClass c)

namespace Script

open Declaration (replay)

/-- The script of a new source file in which the listing is declared again, from front to back. -/
def canonical (s : Script) (identity : UInt64) (fileId : Nat) : Script :=
  s.declarations.foldl replay (.empty identity fileId)

variable {s : Script} {identity identity' : UInt64} {fileId fileId' : Nat}

/-! ## What canonical forms hold -/

/-- The fields of the canonical form, in which the entry stands in front of the other workflows. -/
def canonicalFields (s : Script) (identity : UInt64) (fileId : Nat) : Script where
  identity := identity
  host := ⟨fileId, s.enums⟩
  shebang := none
  featureFlags := s.featureFlags
  includes := s.includes
  params := s.params
  entryId := s.entry?.map fun _ => ⟨identity, 0⟩
  outputs := s.outputs
  workflows := s.entry?.toList ++ s.workflowsExcept s.entryIndex?
  processes := s.processes
  functions := s.functions
  overwrites := []

/-- A block of the listing, if each of its members is put behind those put before. -/
theorem foldl_replay_map {α : Type} (shown : α → Declaration) (t : Script) (put : List α → Script)
    (hnil : put [] = t) (hput : ∀ items a, (shown a).replay (put items) = put (items ++ [a]))
    (items : List α) : (items.map shown).foldl replay t = put items := by
  induction items using List.reverseRecOn with
  | nil => exact hnil.symm
  | append_singleton items a ih =>
    rw [List.map_append, List.foldl_append, ih, List.map_singleton, List.foldl_cons,
      List.foldl_nil, hput]

theorem canonical_eq_fields (s : Script) (identity : UInt64) (fileId : Nat) :
    s.canonical identity fileId = s.canonicalFields identity fileId := by
  have hflags := fun t : Script =>
    foldl_replay_map .featureFlag t (fun fs => { t with featureFlags := t.featureFlags ++ fs })
      (by simp) (fun _ _ => by simp [replay, add, addFeatureFlag]) s.featureFlags
  have hincludes := fun t : Script =>
    foldl_replay_map .inclusion t (fun is => { t with includes := t.includes ++ is })
      (by simp) (fun _ _ => by simp [replay, add, addInclude]) s.includes
  have hparams := fun t : Script =>
    foldl_replay_map .param t (fun ps => { t with params := t.params ++ ps })
      (by simp) (fun _ _ => by simp [replay, add, addParam]) s.params
  have hworkflows := fun t : Script =>
    foldl_replay_map .workflow t (fun ws => { t with workflows := t.workflows ++ ws })
      (by simp) (fun _ _ => by simp [replay, add, addWorkflow]) (s.workflowsExcept s.entryIndex?)
  have hprocesses := fun t : Script =>
    foldl_replay_map .process t (fun ps => { t with processes := t.processes ++ ps })
      (by simp) (fun _ _ => by simp [replay, add, addProcess]) s.processes
  have hfunctions := fun t : Script =>
    foldl_replay_map .function t (fun fs => { t with functions := t.functions ++ fs })
      (by simp) (fun _ _ => by simp [replay, add, addFunction]) s.functions
  have henums := fun t : Script =>
    foldl_replay_map .enum t (fun cs => { t with host := ⟨t.host.fileId, t.host.classes ++ cs⟩ })
      (by simp) (fun _ _ => by simp [replay, add, addClass, HostModule.addClass]) s.enums
  unfold canonical declarations canonicalFields
  simp only [List.foldl_append, hflags, hincludes, hparams, hworkflows, hprocesses, hfunctions,
    henums]
  -- An entry and an output block are set once, so they replace nothing.
  rcases s.entry? with _ | w <;> rcases s.outputs with _ | b <;> rfl

/-! ## What canonical forms show -/

theorem enums_canonicalFields : (s.canonicalFields identity fileId).enums = s.enums := by
  simp only [canonicalFields, enums, HostModule.enums, List.filter_filter, Bool.and_self]

theorem workflow?_canonicalFields {w : Workflow} (h : s.entry? = some w) :
    (s.canonicalFields identity fileId).workflow? ⟨identity, 0⟩ = some w := by
  rw [workflow?_eq_some_iff]
  simp [canonicalFields, h]

theorem entryId_canonicalFields :
    (s.canonicalFields identity fileId).entryId = s.entry?.map fun _ => ⟨identity, 0⟩ := rfl

theorem entry?_canonicalFields : Script.entry? (s.canonicalFields identity fileId) = s.entry? := by
  rcases h : s.entry? with _ | w <;> rw [Script.entry?, entryId_canonicalFields, h]
  · rfl
  · exact workflow?_canonicalFields h

/-- Without the entry, which stands in front, the workflows are the others of the script. -/
theorem workflowsExcept_canonicalFields :
    (s.canonicalFields identity fileId).workflowsExcept
        (s.canonicalFields identity fileId).entryIndex? =
      s.workflowsExcept s.entryIndex? := by
  rw [workflowsExcept_entryIndex?]
  rcases h : s.entry? with _ | w <;> simp [canonicalFields, h]

theorem declarations_canonical (s : Script) (identity : UInt64) (fileId : Nat) :
    (s.canonical identity fileId).declarations = s.declarations := by
  rw [canonical_eq_fields]
  unfold declarations
  rw [entry?_canonicalFields, workflowsExcept_canonicalFields, enums_canonicalFields]
  rfl

theorem validate_canonical (s : Script) (identity : UInt64) (fileId : Nat) :
    (s.canonical identity fileId).validate =
      match s.entry? with
      | some ⟨some name, span⟩ => [.entryIsNamed name span]
      | _ => [] := by
  have hlog : (s.canonicalFields identity fileId).overwrites = [] := rfl
  rw [canonical_eq_fields]
  unfold validate
  rw [hlog, entryId_canonicalFields]
  rcases h : s.entry? with _ | ⟨_ | name, span⟩
  · rfl
  · simp [entryErrors, workflow?_canonicalFields h]
  · simp [entryErrors, workflow?_canonicalFields h]

/-- The entry of a valid script has no name. -/
theorem validate_canonical_eq_nil (h : s.validate = []) :
    (s.canonical identity fileId).validate = [] := by
  rw [validate_canonical]
  split
  · next name span hentry =>
    cases SealedScript.isUnnamed_entry ⟨s, h⟩ hentry
  · rfl

theorem canonical_canonical (s : Script) (identity identity' : UInt64) (fileId fileId' : Nat) :
    (s.canonical identity fileId).canonical identity' fileId' = s.canonical identity' fileId' := by
  unfold canonical
  exact congrArg (List.foldl replay _) (declarations_canonical s identity fileId)

/-- Declaring the listing of a script again, which may have any history, gives a script that is
listed alike; doing it once more changes nothing. -/
theorem canonical_idempotent (s : Script) (identity : UInt64) (fileId : Nat) :
    (s.canonical identity fileId).declarations = s.declarations ∧
      ((s.canonical identity fileId).validate =
        match s.entry? with
        | some ⟨some name, span⟩ => [.entryIsNamed name span]
        | _ => []) ∧
      ((∃ t, s.finalize = .ok t) → ∃ t, (s.canonical identity fileId).finalize = .ok t) ∧
      ∀ identity' fileId',
        (s.canonical identity fileId).canonical identity' fileId' =
          s.canonical identity' fileId' := by
  refine ⟨s.declarations_canonical identity fileId, s.validate_canonical identity fileId, ?_,
    fun identity' fileId' => s.canonical_canonical identity identity' fileId fileId'⟩
  rw [exists_finalize_iff, exists_finalize_iff]
  exact validate_canonical_eq_nil

/-! A script with repeated setters and a named entry behind another workflow, and a valid one. -/

def tangled : Script :=
  (empty 7 3).applyAll
    [.setShebang "#!a", .add (.hostClass (.plain "C" ⟨0, 1⟩)), .add (.workflow ⟨none, ⟨2, 3⟩⟩),
      .setEntry ⟨9, 0⟩, .add (.outputs ⟨[], ⟨4, 5⟩⟩), .add (.workflow ⟨some "N", ⟨6, 7⟩⟩),
      .setEntry ⟨7, 1⟩, .add (.outputs ⟨[⟨"x", ⟨8, 9⟩⟩], ⟨8, 9⟩⟩),
      .add (.hostClass (.enumeration "E" ["a"] ⟨10, 11⟩)), .add (.param ⟨"p", none, ⟨12, 13⟩⟩)]

def untangled : Script :=
  (empty 7 3).applyAll
    [.add (.workflow ⟨some "N", ⟨0, 1⟩⟩), .add (.workflow ⟨none, ⟨2, 3⟩⟩), .setEntry ⟨7, 1⟩]

theorem canonical_idempotent_tangled :
    tangled.validate =
        [.duplicateEntry none (some ⟨6, 7⟩), .duplicateOutputs ⟨4, 5⟩ ⟨8, 9⟩,
          .entryIsNamed "N" ⟨6, 7⟩] ∧
      (tangled.canonical 0 0).declarations =
        [.param ⟨"p", none, ⟨12, 13⟩⟩, .entry ⟨some "N", ⟨6, 7⟩⟩,
          .outputs ⟨[⟨"x", ⟨8, 9⟩⟩], ⟨8, 9⟩⟩, .workflow ⟨none, ⟨2, 3⟩⟩,
          .enum ⟨"E", .enum, ["a"], ⟨10, 11⟩⟩] ∧
      (tangled.canonical 0 0).validate = [.entryIsNamed "N" ⟨6, 7⟩] ∧
      (tangled.canonical 0 0).canonical 7 3 = tangled.canonical 7 3 ∧
      (∃ t, untangled.finalize = .ok t) ∧
      ∃ t, (untangled.canonical 0 0).finalize = .ok t := by
  have hvalid : ∃ t, untangled.finalize = .ok t := exists_finalize_iff.2 (by decide)
  obtain ⟨hdeclarations, hvalidate, -, hagain⟩ := canonical_idempotent tangled 0 0
  obtain ⟨-, -, hfinalize, -⟩ := canonical_idempotent untangled 0 0
  exact ⟨by decide, hdeclarations, hvalidate, hagain 7 3, hvalid, hfinalize hvalid⟩

end Script

end WorkflowOutline
