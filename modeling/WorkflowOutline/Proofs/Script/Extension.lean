import WorkflowOutline.Proofs.Script.Listing
import WorkflowOutline.Script.Session
import WorkflowOutline.Script.Validation

/-!
# Scripts that only grow

Adding anything but an output block extends a script: its lists grow at the end, and all else stays
(`Script.Extends`, `extends_addAll`). An extended script keeps what the ids of its workflows refer
to (`Extends.workflow?_eq_some`), so a script without errors stays without errors, with the same
entry (`Extends.validate_eq_nil`, `Extends.entry?_eq`), and its listing stays part of the longer one
(`Extends.declarations_sublist`).

Any other building step may set a new entry, output block or interpreter line, but it keeps the
identity, the workflows and the log (`Script.Keeps`, `keeps_applyAll`).

`validate_eq_nil_iff` says when a script has no errors.
-/

namespace WorkflowOutline

/-- Whether adding the item replaces nothing: it is no output block. -/
def Item.isAddition : Item → Bool
  | .outputs _ => false
  | _ => true

namespace Script

variable {s t u : Script}

/-! ## Scripts without errors -/

theorem entryErrors_eq_nil_iff {id : WorkflowId} :
    s.entryErrors id = [] ↔ ∃ w, s.workflow? id = some w ∧ w.isUnnamed = true := by
  unfold entryErrors
  rcases s.workflow? id with _ | ⟨_ | name, span⟩
  · by_cases howns : s.owns id = true <;> simp [howns]
  · simp [Workflow.isUnnamed]
  · simp [Workflow.isUnnamed]

/-- A script has no errors if nothing was replaced and the entry, if one is designated, refers to an
unnamed workflow of the script. -/
theorem validate_eq_nil_iff :
    s.validate = [] ↔
      s.overwrites = [] ∧
        ∀ id, s.entryId = some id → ∃ w, s.workflow? id = some w ∧ w.isUnnamed = true := by
  unfold validate
  rw [List.append_eq_nil_iff, List.map_eq_nil_iff]
  refine and_congr_right fun _ => ?_
  rcases s.entryId with _ | id
  · simp
  · simp [entryErrors_eq_nil_iff]

theorem exists_finalize_iff : (∃ t, s.finalize = .ok t) ↔ s.validate = [] := by
  constructor
  · rintro ⟨t, ht⟩
    have hvalid := t.valid
    rwa [finalize_eq_ok_iff.1 ht] at hvalid
  · intro hvalid
    exact ⟨⟨s, hvalid⟩, finalize_eq_ok_iff.2 rfl⟩

/-! ## What every building step keeps -/

/-- The second script has the identity of the first one, and its workflows and its log at least. -/
structure Keeps (s t : Script) : Prop where
  identity : t.identity = s.identity
  workflows : s.workflows <+: t.workflows
  overwrites : s.overwrites <+: t.overwrites

theorem Keeps.refl (s : Script) : s.Keeps s := ⟨rfl, List.prefix_refl _, List.prefix_refl _⟩

theorem Keeps.trans (h : s.Keeps t) (h' : t.Keeps u) : s.Keeps u where
  identity := h'.identity.trans h.identity
  workflows := h.workflows.trans h'.workflows
  overwrites := h.overwrites.trans h'.overwrites

theorem keeps_apply (s : Script) (c : Call) : s.Keeps (s.apply c) := by
  rcases c with (_ | _ | _ | _ | _ | _ | _ | _) | _ | _ <;> constructor <;>
    first | exact List.prefix_append _ _ | exact List.prefix_refl _ | rfl

theorem keeps_applyAll (s : Script) (calls : List Call) : s.Keeps (s.applyAll calls) := by
  induction calls generalizing s with
  | nil => exact .refl s
  | cons c calls ih => exact (s.keeps_apply c).trans (ih _)

theorem Keeps.workflow?_eq_some (h : s.Keeps t) {id : WorkflowId} {w : Workflow}
    (hw : s.workflow? id = some w) : t.workflow? id = some w := by
  rw [workflow?_eq_some_iff] at hw ⊢
  obtain ⟨rest, hrest⟩ := h.workflows
  refine ⟨hw.1.trans h.identity.symm, ?_⟩
  rw [← hrest, List.getElem?_append_left (List.getElem?_eq_some_iff.1 hw.2).1]
  exact hw.2

/-! ## Extensions -/

/-- The second script has all that the first one has, and possibly more at the end of its lists. -/
structure Extends (s t : Script) : Prop where
  identity : t.identity = s.identity
  shebang : t.shebang = s.shebang
  entryId : t.entryId = s.entryId
  outputs : t.outputs = s.outputs
  overwrites : t.overwrites = s.overwrites
  featureFlags : s.featureFlags <+: t.featureFlags
  includes : s.includes <+: t.includes
  params : s.params <+: t.params
  workflows : s.workflows <+: t.workflows
  processes : s.processes <+: t.processes
  functions : s.functions <+: t.functions
  classes : s.host.classes <+: t.host.classes

theorem Extends.refl (s : Script) : s.Extends s := by
  constructor <;> first | exact List.prefix_refl _ | rfl

theorem Extends.trans (h : s.Extends t) (h' : t.Extends u) : s.Extends u where
  identity := h'.identity.trans h.identity
  shebang := h'.shebang.trans h.shebang
  entryId := h'.entryId.trans h.entryId
  outputs := h'.outputs.trans h.outputs
  overwrites := h'.overwrites.trans h.overwrites
  featureFlags := h.featureFlags.trans h'.featureFlags
  includes := h.includes.trans h'.includes
  params := h.params.trans h'.params
  workflows := h.workflows.trans h'.workflows
  processes := h.processes.trans h'.processes
  functions := h.functions.trans h'.functions
  classes := h.classes.trans h'.classes

theorem extends_add (s : Script) {item : Item} (h : item.isAddition = true) :
    s.Extends (s.add item) := by
  cases item with
  | outputs b => cases h
  | _ => constructor <;> first | exact List.prefix_append _ _ | exact List.prefix_refl _ | rfl

theorem extends_addAll (s : Script) {items : List Item} (h : ∀ i ∈ items, i.isAddition = true) :
    s.Extends (s.applyAll (items.map .add)) := by
  induction items generalizing s with
  | nil => exact .refl s
  | cons item items ih =>
    rw [List.map_cons, applyAll_cons]
    have hitem : s.Extends (s.add item) := s.extends_add (h item List.mem_cons_self)
    exact hitem.trans (ih _ fun i hi => h i (List.mem_cons_of_mem _ hi))

theorem Extends.keeps (h : s.Extends t) : s.Keeps t :=
  ⟨h.identity, h.workflows, h.overwrites ▸ List.prefix_refl _⟩

theorem Extends.workflow?_eq_some (h : s.Extends t) {id : WorkflowId} {w : Workflow}
    (hw : s.workflow? id = some w) : t.workflow? id = some w :=
  h.keeps.workflow?_eq_some hw

theorem Extends.validate_eq_nil (h : s.Extends t) (hs : s.validate = []) : t.validate = [] := by
  rw [validate_eq_nil_iff] at hs ⊢
  refine ⟨h.overwrites.trans hs.1, fun id hid => ?_⟩
  obtain ⟨w, hw, hunnamed⟩ := hs.2 id (h.entryId.symm.trans hid)
  exact ⟨w, h.workflow?_eq_some hw, hunnamed⟩

theorem Extends.entryIndex?_eq (h : s.Extends t) (hs : s.validate = []) :
    t.entryIndex? = s.entryIndex? := by
  ext i
  rw [entryIndex?_eq_some_iff, entryIndex?_eq_some_iff, h.entryId, h.identity]
  refine and_congr_right fun hid => ⟨fun _ => ?_, fun hlt => ?_⟩
  · -- The entry of a script without errors is in range.
    obtain ⟨w, hw, -⟩ := (validate_eq_nil_iff.1 hs).2 _ hid
    exact (List.getElem?_eq_some_iff.1 (workflow?_eq_some_iff.1 hw).2).1
  · exact Nat.lt_of_lt_of_le hlt h.workflows.length_le

theorem Extends.entry?_eq (h : s.Extends t) (hs : s.validate = []) : t.entry? = s.entry? :=
  entry?_congr (h.entryIndex?_eq hs) h.workflows

theorem Extends.workflowsExcept_sublist (h : s.Extends t) (i : Option Nat) :
    (s.workflowsExcept i).Sublist (t.workflowsExcept i) := by
  cases i with
  | none =>
    rw [workflowsExcept_none, workflowsExcept_none]
    exact h.workflows.sublist
  | some i =>
    rw [workflowsExcept_some, workflowsExcept_some]
    exact (h.workflows.eraseIdx i).sublist

/-- What the listing of a script without errors shows, that of an extended script shows too, in the
same order and in the same way. -/
theorem Extends.declarations_sublist (h : s.Extends t) (hs : s.validate = []) :
    s.declarations.Sublist t.declarations := by
  have hbefore : s.declarationsBeforeEntry.Sublist t.declarationsBeforeEntry :=
    .append (.append (h.featureFlags.sublist.map _) (h.includes.sublist.map _))
      (h.params.sublist.map _)
  have hothers :
      (s.workflowsExcept s.entryIndex?).Sublist (t.workflowsExcept t.entryIndex?) := by
    rw [h.entryIndex?_eq hs]
    exact h.workflowsExcept_sublist _
  have henums : s.enums.Sublist t.enums := (h.classes.filter _).sublist
  have hafter : s.declarationsAfterEntry.Sublist t.declarationsAfterEntry := by
    unfold declarationsAfterEntry
    rw [h.outputs]
    exact .append (.append (.append (.append (.refl _) (hothers.map _))
      (h.processes.sublist.map _)) (h.functions.sublist.map _)) (henums.map _)
  rw [declarations_eq_append, declarations_eq_append, h.entry?_eq hs]
  exact .append hbefore (.append (.refl _) hafter)

end Script

end WorkflowOutline
