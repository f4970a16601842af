import WorkflowOutline.Proofs.Outline.Interleaving
import WorkflowOutline.Proofs.Session.Sealing

/-!
# Unnamed workflows and the entry

The entry of a sealed script is unnamed, since validation looks at the designated workflow. The
converse (`Script.UnnamedIsEntry`) nothing checks: an unnamed workflow that is never designated is
accepted as one of the others.

So in a sealed script the unnamed workflows are the entry, if there is one, and those of the others
that have no name (`perm_filter_isUnnamed`), and the converse holds exactly if the entry is all
there is (`unnamedIsEntry_iff_filter`). In a run this is so if every unnamed workflow is designated.
In an outline workflows without a name are designated unless they say otherwise
(`OutlineItem.isUndesignated`), and it is so if none does. `not_forall_unnamedIsEntry` has a run and
an outline where it is not.
-/

namespace WorkflowOutline

/-! ## Lists of at most one member -/

theorem length_le_of_neighbours_eq_nil {α : Type} {l : List α} (h : neighbours l = []) :
    l.length ≤ 1 := by
  rcases l with _ | ⟨a, _ | ⟨b, l⟩⟩
  · simp
  · simp
  · cases h

theorem toList_getLast?_of_length_le {α : Type} {l : List α} (h : l.length ≤ 1) :
    l.getLast?.toList = l := by
  rcases l with _ | ⟨a, _ | ⟨b, l⟩⟩
  · rfl
  · rfl
  · simp at h

/-- The workflows without a name are those that are the entry. -/
def Script.UnnamedIsEntry (s : Script) : Prop :=
  ∀ i w, s.workflows[i]? = some w → (w.isUnnamed = true ↔ s.entryIndex? = some i)

/-! ## The unnamed workflows of a sealed script -/

namespace SealedScript

variable (t : SealedScript)

theorem isUnnamed_of_entryIndex? {i : Nat} {w : Workflow} (hi : t.script.entryIndex? = some i)
    (hw : t.script.workflows[i]? = some w) : w.isUnnamed = true :=
  t.isUnnamed_entry ((Script.entry?_of_entryIndex? hi).trans hw)

theorem unnamedIsEntry_iff :
    t.script.UnnamedIsEntry ↔ ∀ i w, t.script.workflows[i]? = some w → w.isUnnamed = true →
      t.script.entryIndex? = some i :=
  ⟨fun h i w hw => (h i w hw).1,
    fun h i w hw => ⟨h i w hw, fun hi => t.isUnnamed_of_entryIndex? hi hw⟩⟩

/-- None of the others is unnamed exactly if every unnamed workflow is the entry. -/
theorem filter_isUnnamed_workflowsExcept_eq_nil_iff :
    (t.script.workflowsExcept t.script.entryIndex?).filter Workflow.isUnnamed = [] ↔
      t.script.UnnamedIsEntry := by
  rw [t.unnamedIsEntry_iff, List.filter_eq_nil_iff]
  constructor
  · intro h i w hw hunnamed
    by_contra hi
    exact h w (Script.mem_workflowsExcept_iff.2 ⟨i, hw, hi⟩) hunnamed
  · intro h w hw hunnamed
    obtain ⟨i, hi, hentry⟩ := Script.mem_workflowsExcept_iff.1 hw
    exact hentry (h i w hi hunnamed)

theorem perm_filter_isUnnamed :
    (t.script.workflows.filter Workflow.isUnnamed).Perm
      (t.script.entry?.toList ++
        (t.script.workflowsExcept t.script.entryIndex?).filter Workflow.isUnnamed) := by
  have hentry : t.script.entry?.toList.filter Workflow.isUnnamed = t.script.entry?.toList :=
    List.filter_eq_self.2 fun w hw => t.isUnnamed_entry (Option.mem_toList.1 hw)
  have hperm := t.script.perm_workflows.filter Workflow.isUnnamed
  rwa [List.filter_append, hentry] at hperm

theorem unnamedIsEntry_iff_length :
    t.script.UnnamedIsEntry ↔
      (t.script.workflows.filter Workflow.isUnnamed).length = t.script.entry?.toList.length := by
  have hlength := t.perm_filter_isUnnamed.length_eq
  rw [List.length_append] at hlength
  rw [← t.filter_isUnnamed_workflowsExcept_eq_nil_iff, ← List.length_eq_zero_iff]
  omega

/-- Unnamed means entry exactly if the entry, or nothing, is all that is unnamed. -/
theorem unnamedIsEntry_iff_filter :
    t.script.UnnamedIsEntry ↔
      t.script.workflows.filter Workflow.isUnnamed = t.script.entry?.toList := by
  constructor
  · intro h
    have hperm := t.perm_filter_isUnnamed
    rw [t.filter_isUnnamed_workflowsExcept_eq_nil_iff.2 h, List.append_nil] at hperm
    rcases hentry : t.script.entry? with _ | w
    · rw [hentry] at hperm
      exact hperm.eq_nil
    · rw [hentry] at hperm
      exact List.perm_singleton.1 hperm
  · intro h
    exact t.unnamedIsEntry_iff_length.2 (congrArg List.length h)

end SealedScript

/-! ## Designating in a run -/

/-- A sealed script was given at most one entry, which is the one that it has. -/
theorem History.mem_arguments_entry?_iff {h : History} (hvalid : h.script.validate = [])
    {id : WorkflowId} : id ∈ h.arguments Call.entry? ↔ h.script.entryId = some id := by
  obtain ⟨-, hlength, -⟩ := Session.length_arguments_le_of_validate_eq_nil hvalid
  have hlast : h.script.entryId = (h.arguments Call.entry?).getLast? := h.entryId_script
  rw [hlast, ← Option.mem_toList, toList_getLast?_of_length_le hlength]

namespace Session

theorem unnamedIsEntry_iff_of_history {t : SealedScript} {h : History}
    (hscript : h.script = t.script) :
    t.script.UnnamedIsEntry ↔ ∀ i w, h.workflows[i]? = some w → w.isUnnamed = true →
      ⟨h.identity, i⟩ ∈ h.arguments Call.entry? := by
  have hvalid : h.script.validate = [] := hscript ▸ t.valid
  rw [t.unnamedIsEntry_iff, ← hscript, h.workflows_script]
  refine forall₃_congr fun i w hw => ?_
  have hi : i < h.script.workflows.length := by
    rw [h.workflows_script]
    exact (List.getElem?_eq_some_iff.1 hw).1
  rw [History.mem_arguments_entry?_iff hvalid, Script.entryIndex?_eq_some_iff, h.identity_script,
    and_iff_left hi]

end Session

/-! ## Designating in an outline -/

/-- Whether this is a workflow without a name that says that it is not the entry. -/
def OutlineItem.isUndesignated : OutlineItem → Bool
  | workflow none (some false) => true
  | _ => false

namespace Outline

open OutlineItem

variable {o : Outline} {identity : UInt64} {fileId : Nat} {t : SealedScript}

/-- If only unnamed workflows are designated, the unnamed ones are those that are designated and
those that are not. -/
theorem length_filter_isUnnamed (ds : List (Span × OutlineItem))
    (hunnamed : ∀ w ∈ declared designated? ds, w.isUnnamed = true) :
    ((declared workflow? ds).filter Workflow.isUnnamed).length =
      (declared designated? ds).length + (ds.filter fun d => d.2.isUndesignated).length := by
  induction ds using List.reverseRecOn with
  | nil => rfl
  | append_singleton ds d ih =>
    rw [declared_concat] at hunnamed
    have hearlier := ih fun w hw => hunnamed w (List.mem_append_left _ hw)
    have hlast : ∀ w ∈ (d.2.designated? d.1).toList, w.isUnnamed = true :=
      fun w hw => hunnamed w (List.mem_append_right _ hw)
    rw [declared_concat, declared_concat, List.filter_append, List.filter_append]
    simp only [List.length_append, hearlier]
    have hd : ((d.2.workflow? d.1).toList.filter Workflow.isUnnamed).length =
        (d.2.designated? d.1).toList.length +
          ([d].filter fun d => d.2.isUndesignated).length := by
      obtain ⟨span, d⟩ := d
      rcases d with _ | _ | _ | ⟨_ | _, _ | _ | _⟩ | _ | _ | _ | _ | _ <;>
        simp [workflow?, designated?, isUndesignated, Workflow.isUnnamed, List.filter_cons]
          at hlast ⊢
    omega

/-- A document that gives a valid script designates, declares and sets nothing twice. -/
theorem length_declared_le_of_validate_eq_nil (hvalid : (o.build identity fileId).validate = []) :
    o.shebangLines.length ≤ 1 ∧ (declared designated? o.declarations).length ≤ 1 ∧
      (declared outputs? o.declarations).length ≤ 1 := by
  have hnone : ∀ k, ((o.build identity fileId).validate.filter fun e => e.kind = k) = [] := by
    simp [hvalid]
  have hshebang := hnone .duplicateShebang
  have hentry := hnone .duplicateEntry
  have houtputs := hnone .duplicateOutputs
  rw [filter_validate, List.map_eq_nil_iff] at hentry houtputs
  rw [filter_validate, shebangRepetitions, List.map_eq_nil_iff] at hshebang
  exact ⟨length_le_of_neighbours_eq_nil hshebang, length_le_of_neighbours_eq_nil hentry,
    length_le_of_neighbours_eq_nil houtputs⟩

theorem unnamedIsEntry_iff_of_build (ht : (o.build identity fileId).finalize = .ok t) :
    t.script.UnnamedIsEntry ↔ ∀ d ∈ o.declarations, d.2.isUndesignated = false := by
  have hscript : t.script = o.build identity fileId := Script.finalize_eq_ok_iff.1 ht
  have hreplay : o.IsReplay fileId t.script := hscript ▸ o.isReplay_build identity fileId
  obtain ⟨-, hlength, -⟩ := length_declared_le_of_validate_eq_nil (hscript ▸ t.valid)
  have hentry : t.script.entry?.toList = declared designated? o.declarations := by
    rw [hreplay.entry, toList_getLast?_of_length_le hlength]
  have hunnamed : ∀ w ∈ declared designated? o.declarations, w.isUnnamed = true :=
    fun w hw => t.isUnnamed_entry (Option.mem_toList.1 (hentry ▸ hw))
  rw [t.unnamedIsEntry_iff_length, hreplay.workflows, hentry, length_filter_isUnnamed _ hunnamed,
    Nat.add_eq_left, List.length_eq_zero_iff, List.filter_eq_nil_iff]
  simp only [Bool.not_eq_true]

end Outline

/-! ## Sealed scripts -/

open Session

/-- The entry of a sealed script is unnamed. The unnamed workflows are the entry, if there is one,
and no others, exactly if every unnamed workflow of the run that built the script was designated, or
if no workflow without a name in the outline that it was built from says that it is not the
entry. -/
theorem unnamedIsEntry_iff_designated (t : SealedScript) :
    (∀ w, t.script.entry? = some w → w.isUnnamed = true) ∧
    (t.script.UnnamedIsEntry ↔
      t.script.workflows.filter Workflow.isUnnamed = t.script.entry?.toList) ∧
    (∀ (first : UInt64) (actions : List (String × Action)) (name : String),
      ((start first).run actions).1.slot? name = some (.sealed t) →
        ∃ h, historiesOf first actions name = some h ∧
          (t.script.UnnamedIsEntry ↔ ∀ i w, h.workflows[i]? = some w → w.isUnnamed = true →
            ⟨h.identity, i⟩ ∈ h.arguments Call.entry?)) ∧
    ∀ (o : Outline) (identity : UInt64) (fileId : Nat),
      (o.build identity fileId).finalize = .ok t →
        (t.script.UnnamedIsEntry ↔ ∀ d ∈ o.declarations, d.2.isUndesignated = false) := by
  refine ⟨fun w => t.isUnnamed_entry, t.unnamedIsEntry_iff_filter,
    fun first actions name hslot => ?_,
    fun o identity fileId => Outline.unnamedIsEntry_iff_of_build⟩
  obtain ⟨h, hh, hscript⟩ := exists_history_of_run hslot
  exact ⟨h, hh, unnamedIsEntry_iff_of_history hscript⟩

/-- A document with an unnamed workflow that is the entry and a named one that says it is not. -/
def entryAndOther : Outline :=
  ⟨none, [(⟨0, 1⟩, .workflow (some "N") (some false)), (⟨2, 3⟩, .workflow none none)]⟩

theorem unnamedIsEntry_iff_designated_layered :
    ((start 0).run layeredActions).1.slot? "m" = some (.sealed layeredSealed) ∧
      layeredScript.UnnamedIsEntry ∧
      (∃ h, historiesOf 0 layeredActions "m" = some h ∧
        ∀ i w, h.workflows[i]? = some w → w.isUnnamed = true →
          ⟨h.identity, i⟩ ∈ h.arguments Call.entry?) ∧
      ∃ t, (entryAndOther.build 0 0).finalize = .ok t ∧ t.script.UnnamedIsEntry := by
  have hslot : ((start 0).run layeredActions).1.slot? "m" = some (.sealed layeredSealed) := rfl
  obtain ⟨-, hfilter, hrun, -⟩ := unnamedIsEntry_iff_designated layeredSealed
  have hentry : layeredScript.UnnamedIsEntry := hfilter.2 rfl
  obtain ⟨h, hh, hdesignated⟩ := hrun 0 layeredActions "m" hslot
  have houtline : (entryAndOther.build 0 0).finalize = .ok ⟨entryAndOther.build 0 0, rfl⟩ := rfl
  obtain ⟨-, -, -, hbuild⟩ := unnamedIsEntry_iff_designated ⟨entryAndOther.build 0 0, rfl⟩
  exact ⟨hslot, hentry, ⟨h, hh, hdesignated.1 hentry⟩, _, houtline,
    (hbuild entryAndOther 0 0 houtline).2 (by decide)⟩

/-- A run that seals a script with two unnamed workflows, of which the first is designated. -/
def twoUnnamedActions : List (String × Action) :=
  [("a", .create (.empty 0)),
    ("a", .add (.workflow ⟨none, ⟨0, 4⟩⟩) (some "x")),
    ("a", .add (.workflow ⟨none, ⟨5, 9⟩⟩) none),
    ("a", .setEntry "x"),
    ("a", .finalize)]

/-- The script that `twoUnnamedActions` seals. -/
def twoUnnamed : SealedScript where
  script :=
    { Script.empty 0 0 with
      entryId := some ⟨0, 0⟩
      workflows := [⟨none, ⟨0, 4⟩⟩, ⟨none, ⟨5, 9⟩⟩] }
  valid := rfl

/-- A document whose only workflow has no name and says that it is not the entry. -/
def undesignatedOutline : Outline := ⟨none, [(⟨0, 1⟩, .workflow none (some false))]⟩

/-- A script with two unnamed workflows is sealed, and one with an unnamed workflow and no entry. -/
theorem not_forall_unnamedIsEntry :
    (¬ ∀ (first : UInt64) (actions : List (String × Action)) (name : String) (t : SealedScript),
      ((start first).run actions).1.slot? name = some (.sealed t) → t.script.UnnamedIsEntry) ∧
    ¬ ∀ (o : Outline) (identity : UInt64) (fileId : Nat) (t : SealedScript),
      (o.build identity fileId).finalize = .ok t → t.script.UnnamedIsEntry := by
  constructor
  · intro h
    have hslot : ((start 0).run twoUnnamedActions).1.slot? "a" = some (.sealed twoUnnamed) := rfl
    have hsecond := (h 0 twoUnnamedActions "a" twoUnnamed hslot 1 ⟨none, ⟨5, 9⟩⟩ rfl).1 rfl
    cases hsecond
  · intro h
    have hentry := (h undesignatedOutline 0 0 ⟨undesignatedOutline.build 0 0, rfl⟩ rfl 0
      ⟨none, ⟨0, 1⟩⟩ rfl).1 rfl
    cases hentry

end WorkflowOutline
