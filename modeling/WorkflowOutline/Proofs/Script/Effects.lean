import Mathlib.Data.List.Perm.Basic
import WorkflowOutline.Proofs.Script.History

/-!
# What one building step changes

A building step changes the listing in one place, or moves workflows between the entry and the
ordinary workflows, and it leaves alone every reading of the script that it is not about
(`lists_and_reads_apply`):

* an added item joins the end of the block of its category (`joins_add`), unless it is a class
  that does not show;
* an output block takes the place of the previous one (`takesPlace_setOutputs`);
* a new entry leaves all but the workflows where they are, and the previous entry returns to the
  ordinary workflows, in the order of addition (`redesignates_setEntry`).

`Script.block` cuts the listing into its nine categories, so that a step that concerns one category
is a statement about one block (`exists_append_block`).

An entry that dangles with the ordinal of the next workflow is a special case: that workflow joins
the listing as the entry (`joins_addWorkflow`). The laws for all steps exclude it.
-/

namespace WorkflowOutline

namespace Declaration

/-- The listed workflow, be it the entry or an ordinary one. -/
def workflow? : Declaration → Option Workflow
  | entry w => some w
  | workflow w => some w
  | _ => none

/-- The listed workflow, unless it is the entry. -/
def ordinary? : Declaration → Option Workflow
  | workflow w => some w
  | _ => none

end Declaration

/-- The declaration by which an item shows once it is added; of the classes, only enumerations
show. -/
def Item.shown? : Item → Option Declaration
  | .featureFlag f => some (.featureFlag f)
  | .inclusion i => some (.inclusion i)
  | .param p => some (.param p)
  | .workflow w => some (.workflow w)
  | .process p => some (.process p)
  | .function f => some (.function f)
  | .outputs b => some (.outputs b)
  | .hostClass c => if c.isEnum then some (.enum c) else none

/-- The second listing is the first one with a declaration more, at the end of the block of its
category. -/
def Joins (d : Declaration) (l l' : List Declaration) : Prop :=
  ∃ upTo beyond, l = upTo ++ beyond ∧ l' = upTo ++ d :: beyond ∧
    (∀ x ∈ upTo, x.precedence ≤ d.precedence) ∧ ∀ x ∈ beyond, d.precedence < x.precedence

/-- The second listing is the first one with an output block in the place of the old one, or where
the old one would stand. -/
def TakesPlace (old : Option OutputBlock) (b : OutputBlock) (l l' : List Declaration) : Prop :=
  ∃ ahead behind, l = ahead ++ (old.map .outputs).toList ++ behind ∧
    l' = ahead ++ .outputs b :: behind ∧
    (∀ x ∈ ahead, x.precedence < (Declaration.outputs b).precedence) ∧
    ∀ x ∈ behind, (Declaration.outputs b).precedence < x.precedence

namespace Script

variable {s t : Script}

/-- The entry id is unset, foreign or in range. -/
def EntryIsPlaced (s : Script) : Prop :=
  ∀ id, s.entryId = some id → s.owns id = false ∨ id.index < s.workflows.length

/-- The second script is the first one after the designation of an entry, as far as the workflows
and the listing show. -/
structure Redesignates (s : Script) (id : WorkflowId) (t : Script) : Prop where
  workflows : t.workflows = s.workflows
  /-- What is no workflow stays, in its order. -/
  others : t.declarations.filter (·.kind != .workflow) =
    s.declarations.filter (·.kind != .workflow)
  /-- The same workflows are listed. -/
  listed : (t.declarations.filterMap Declaration.workflow?).Perm
    (s.declarations.filterMap Declaration.workflow?)
  /-- The workflow that the id refers to, and no other, stands right behind the parameters as the
  entry. -/
  entry : ∀ w,
    t.declarations[s.featureFlags.length + s.includes.length + s.params.length]? =
      some (.entry w) ↔ s.workflow? id = some w
  /-- All other workflows are ordinary, in the order of addition. -/
  ordinary : t.declarations.filterMap Declaration.ordinary? =
    (s.ownedIndex? id).elim s.workflows s.workflows.eraseIdx
  /-- The previous entry, if it is another workflow, stands behind the ordinary workflows that were
  added before it and ahead of those that were added after it. -/
  returned : ∀ j w, s.entryIndex? = some j → s.workflows[j]? = some w →
    s.ownedIndex? id ≠ some j →
    ∃ earlier later, t.declarations.filterMap Declaration.ordinary? = earlier ++ w :: later ∧
      earlier.Sublist (s.workflows.take j) ∧ later.Sublist (s.workflows.drop (j + 1))
  /-- Nothing moves if the id refers to the previous entry, or if neither the id nor the previous
  entry refers to anything. -/
  same : s.ownedIndex? id = s.entryIndex? → t.declarations = s.declarations

/-- How the listing of a script and that after a building step differ. -/
def ListsAfter (s : Script) : Call → Script → Prop
  | .add (.outputs b), t => TakesPlace s.outputs b s.declarations t.declarations
  | .add item, t =>
      match item.shown? with
      | none => t.declarations = s.declarations
      | some d => Joins d s.declarations t.declarations
  | .setEntry id, t => s.Redesignates id t
  | .setShebang _, t => t.declarations = s.declarations

/-- What can be read off a script after a building step, in terms of what could be read before:
the argument of the step has its effect on its own category, and on no other. -/
structure ReadsAfter (s : Script) (c : Call) (t : Script) : Prop where
  identity : t.identity = s.identity
  fileId : t.host.fileId = s.host.fileId
  classes : t.host.classes = s.host.classes ++ c.hostClass?.toList
  enums : t.enums = s.enums ++ c.hostClass?.toList.filter ClassDef.isEnum
  shebang : t.shebang = c.shebang?.or s.shebang
  featureFlags : t.featureFlags = s.featureFlags ++ c.featureFlag?.toList
  includes : t.includes = s.includes ++ c.inclusion?.toList
  params : t.params = s.params ++ c.param?.toList
  entryId : t.entryId = c.entry?.or s.entryId
  /-- The entry stays the workflow that it is, unless another one is designated. -/
  entry : t.entry? = c.entry?.elim s.entry? s.workflow?
  outputs : t.outputs = c.outputs?.or s.outputs
  workflows : t.workflows = s.workflows ++ c.workflow?.toList
  processes : t.processes = s.processes ++ c.process?.toList
  functions : t.functions = s.functions ++ c.function?.toList
  owns : ∀ id, t.owns id = s.owns id
  /-- An added workflow is what the next id refers to; no other id changes its meaning. -/
  workflow : ∀ id, t.workflow? id = if id = s.nextId then c.workflow? else s.workflow? id

/-! ## The blocks of the listing -/

/-- The elements of one category, numbered by its precedence, in the listing. -/
def block (s : Script) : Nat → List Declaration
  | 0 => s.featureFlags.map .featureFlag
  | 1 => s.includes.map .inclusion
  | 2 => s.params.map .param
  | 3 => (s.entry?.map .entry).toList
  | 4 => (s.outputs.map .outputs).toList
  | 5 => (s.workflowsExcept s.entryIndex?).map .workflow
  | 6 => s.processes.map .process
  | 7 => s.functions.map .function
  | 8 => s.enums.map .enum
  | _ => []

theorem declarations_eq_flatMap (s : Script) :
    s.declarations = (List.range 9).flatMap s.block := by
  have hrange : List.range 9 = [0, 1, 2, 3, 4, 5, 6, 7, 8] := by decide
  rw [hrange]
  simp only [declarations, List.flatMap_cons, List.flatMap_nil, block, List.append_assoc,
    List.append_nil]

theorem precedence_of_mem_block {k : Nat} {d : Declaration} (h : d ∈ s.block k) :
    d.precedence = k := by
  unfold block at h
  split at h <;>
    simp only [List.mem_map, Option.mem_toList, Option.map_eq_some_iff, List.not_mem_nil] at h
  all_goals
    obtain ⟨_, -, rfl⟩ := h
    rfl

theorem declarations_congr (h : ∀ k, t.block k = s.block k) : t.declarations = s.declarations := by
  rw [declarations_eq_flatMap, declarations_eq_flatMap, funext h]

/-- Scripts with the same blocks but one have the same listing around that block. -/
theorem exists_append_block {k : Nat} (hk : k < 9) (h : ∀ j ≠ k, t.block j = s.block j) :
    ∃ ahead behind, s.declarations = ahead ++ s.block k ++ behind ∧
      t.declarations = ahead ++ t.block k ++ behind ∧
      (∀ x ∈ ahead, x.precedence < k) ∧ ∀ x ∈ behind, k < x.precedence := by
  have hsplit : ∀ k < 9, List.range 9 = List.range k ++ k :: List.range' (k + 1) (8 - k) := by
    decide
  have hrange := hsplit k hk
  have hahead : (List.range k).flatMap t.block = (List.range k).flatMap s.block :=
    List.flatMap_congr fun j hj => h j (Nat.ne_of_lt (List.mem_range.1 hj))
  have hbehind : (List.range' (k + 1) (8 - k)).flatMap t.block =
      (List.range' (k + 1) (8 - k)).flatMap s.block :=
    List.flatMap_congr fun j hj => h j (by have := List.mem_range'_1.1 hj; omega)
  refine ⟨(List.range k).flatMap s.block, (List.range' (k + 1) (8 - k)).flatMap s.block,
    ?_, ?_, fun x hx => ?_, fun x hx => ?_⟩
  · rw [declarations_eq_flatMap, hrange, List.flatMap_append, List.flatMap_cons,
      List.append_assoc]
  · rw [declarations_eq_flatMap, hrange, List.flatMap_append, List.flatMap_cons, hahead, hbehind,
      List.append_assoc]
  · obtain ⟨j, hj, hmem⟩ := List.mem_flatMap.1 hx
    rw [precedence_of_mem_block hmem]
    exact List.mem_range.1 hj
  · obtain ⟨j, hj, hmem⟩ := List.mem_flatMap.1 hx
    rw [precedence_of_mem_block hmem]
    have := List.mem_range'_1.1 hj
    omega

theorem joins_of_block {d : Declaration} (hd : t.block d.precedence = s.block d.precedence ++ [d])
    (h : ∀ j ≠ d.precedence, t.block j = s.block j) : Joins d s.declarations t.declarations := by
  have hk : d.precedence < 9 := by cases d <;> simp only [Declaration.precedence] <;> omega
  obtain ⟨ahead, behind, hs, ht, hahead, hbehind⟩ := exists_append_block hk h
  refine ⟨ahead ++ s.block d.precedence, behind, hs, ?_, fun x hx => ?_, hbehind⟩
  · rw [ht, hd]
    simp only [List.append_assoc, List.singleton_append]
  · rcases List.mem_append.1 hx with hx | hx
    · exact Nat.le_of_lt (hahead x hx)
    · exact Nat.le_of_eq (precedence_of_mem_block hx)

/-! ## Adding -/

theorem EntryIsPlaced.entryId_ne (h : s.EntryIsPlaced) : s.entryId ≠ some s.nextId := by
  intro hid
  rcases h _ hid with howns | hlt
  · rw [owns_nextId] at howns
    cases howns
  · exact Nat.lt_irrefl _ hlt

theorem entryIndex?_addWorkflow (h : s.entryId ≠ some s.nextId) (w : Workflow) :
    (s.addWorkflow w).entryIndex? = s.entryIndex? := by
  ext i
  rw [entryIndex?_eq_some_iff, entryIndex?_eq_some_iff]
  refine and_congr_right fun hid => ?_
  have hi : i ≠ s.workflows.length := by
    rintro rfl
    exact h hid
  simp only [addWorkflow, List.length_append, List.length_singleton]
  omega

theorem entry?_addWorkflow (h : s.entryId ≠ some s.nextId) (w : Workflow) :
    entry? (s.addWorkflow w) = s.entry? :=
  entry?_congr (entryIndex?_addWorkflow h w) (List.prefix_append _ _)

theorem workflowsExcept_addWorkflow (h : s.entryId ≠ some s.nextId) (w : Workflow) :
    (s.addWorkflow w).workflowsExcept (s.addWorkflow w).entryIndex? =
      s.workflowsExcept s.entryIndex? ++ [w] := by
  rw [entryIndex?_addWorkflow h]
  rcases hi : s.entryIndex? with _ | i
  · rw [workflowsExcept_none, workflowsExcept_none]
    rfl
  · rw [workflowsExcept_some, workflowsExcept_some]
    exact List.eraseIdx_append_of_lt_length (entryIndex?_lt hi) [w]

theorem block_addWorkflow_of_ne (s : Script) (w : Workflow) {j : Nat} (h₃ : j ≠ 3) (h₅ : j ≠ 5) :
    (s.addWorkflow w).block j = s.block j := by
  unfold block
  split
  any_goals contradiction
  all_goals rfl

theorem entryIndex?_of_entryId_eq_nextId (h : s.entryId = some s.nextId) :
    s.entryIndex? = none := by
  rw [Option.eq_none_iff_forall_ne_some]
  intro i hi
  obtain ⟨hid, hlt⟩ := entryIndex?_eq_some_iff.1 hi
  rw [h, nextId] at hid
  simp only [Option.some.injEq, WorkflowId.mk.injEq, true_and] at hid
  omega

theorem entryIndex?_addWorkflow_of_entryId_eq_nextId (h : s.entryId = some s.nextId)
    (w : Workflow) : (s.addWorkflow w).entryIndex? = some s.workflows.length := by
  rw [entryIndex?_eq_some_iff]
  exact ⟨h, by simp [addWorkflow]⟩

/-- An added workflow joins the ordinary workflows, unless the entry id already names it. -/
theorem joins_addWorkflow (s : Script) (w : Workflow) :
    Joins (if s.entryId = some s.nextId then .entry w else .workflow w) s.declarations
      (s.addWorkflow w).declarations := by
  split
  · next h =>
    -- The workflow fills the empty block of the entry, and the ordinary workflows stay.
    have hnone := entryIndex?_of_entryId_eq_nextId h
    have hsome := entryIndex?_addWorkflow_of_entryId_eq_nextId h w
    have hentry : entry? (s.addWorkflow w) = some w := by
      rw [entry?_of_entryIndex? hsome]
      exact List.getElem?_concat_length
    have hordinary : (s.addWorkflow w).workflows.eraseIdx s.workflows.length = s.workflows := by
      rw [addWorkflow, List.eraseIdx_append_of_length_le (Nat.le_refl _), Nat.sub_self]
      exact List.append_nil _
    refine joins_of_block ?_ fun j hj => ?_
    · simp only [Declaration.precedence, block, hentry, entry?_eq_none_iff.2 hnone]
      rfl
    · by_cases h₅ : j = 5
      · subst h₅
        simp only [block, hsome, hnone, workflowsExcept_some, workflowsExcept_none, hordinary]
      · exact s.block_addWorkflow_of_ne w hj h₅
  · next h =>
    refine joins_of_block ?_ fun j hj => ?_
    · simp only [Declaration.precedence, block, workflowsExcept_addWorkflow h, List.map_append,
        List.map_cons, List.map_nil]
    · by_cases h₃ : j = 3
      · subst h₃
        simp only [block, entry?_addWorkflow h]
      · exact s.block_addWorkflow_of_ne w h₃ hj

theorem enums_addClass (s : Script) (c : ClassDef) :
    (s.addClass c).enums = s.enums ++ [c].filter ClassDef.isEnum :=
  List.filter_append _ _

/-- An added item that shows joins the end of the block of its category. -/
theorem joins_add (h : s.entryId ≠ some s.nextId) {item : Item} {d : Declaration}
    (hitem : ∀ b, item ≠ .outputs b) (hd : item.shown? = some d) :
    Joins d s.declarations (s.add item).declarations := by
  cases item with
  | workflow w =>
    cases hd
    have hjoins := s.joins_addWorkflow w
    rwa [if_neg h] at hjoins
  | outputs b => exact absurd rfl (hitem b)
  | hostClass c =>
    by_cases hc : c.isEnum = true
    · rw [Item.shown?, if_pos hc] at hd
      cases hd
      have henums : (s.addClass c).enums = s.enums ++ [c] := by
        rw [enums_addClass, List.filter_cons_of_pos hc, List.filter_nil]
      refine joins_of_block ?_ fun j hj => ?_
      · simp only [Declaration.precedence, block, add, henums, List.map_append, List.map_cons,
          List.map_nil]
      · unfold block
        split
        any_goals contradiction
        all_goals rfl
    · rw [Item.shown?, if_neg hc] at hd
      cases hd
  | _ =>
    cases hd
    refine joins_of_block (List.map_append) fun j hj => ?_
    unfold block
    split
    any_goals contradiction
    all_goals rfl

/-- An added item that does not show leaves the listing alone. -/
theorem declarations_add_of_shown?_eq_none {item : Item} (h : item.shown? = none) :
    (s.add item).declarations = s.declarations := by
  cases item with
  | hostClass c =>
    have hc : ¬ c.isEnum = true := by
      intro hc
      rw [Item.shown?, if_pos hc] at h
      cases h
    have henums : (s.addClass c).enums = s.enums := by
      rw [enums_addClass, List.filter_cons_of_neg hc, List.filter_nil, List.append_nil]
    show (s.addClass c).declarations = s.declarations
    unfold declarations
    rw [henums]
    rfl
  | _ => cases h

theorem takesPlace_setOutputs (s : Script) (b : OutputBlock) :
    TakesPlace s.outputs b s.declarations (s.setOutputs b).declarations := by
  have hblocks : ∀ j ≠ 4, (s.setOutputs b).block j = s.block j := by
    intro j hj
    unfold block
    split
    any_goals contradiction
    all_goals rfl
  obtain ⟨ahead, behind, hs, ht, hahead, hbehind⟩ := exists_append_block (by omega) hblocks
  refine ⟨ahead, behind, hs, ?_, hahead, hbehind⟩
  rw [ht, List.append_assoc]
  rfl

/-! ## Designating an entry -/

theorem eq_take_append_cons_drop {α : Type} {l : List α} {j : Nat} {a : α} (ha : l[j]? = some a) :
    l = l.take j ++ a :: l.drop (j + 1) := by
  obtain ⟨hj, rfl⟩ := List.getElem?_eq_some_iff.1 ha
  rw [← List.drop_eq_getElem_cons hj, List.take_append_drop]

/-- Leaving out one member of a list, any other member stays between those ahead of it and those
behind it. -/
theorem exists_append_eraseIdx {α : Type} {l : List α} {i j : Nat} {a : α} (ha : l[j]? = some a)
    (hij : i ≠ j) :
    ∃ earlier later, l.eraseIdx i = earlier ++ a :: later ∧ earlier.Sublist (l.take j) ∧
      later.Sublist (l.drop (j + 1)) := by
  have hl := eq_take_append_cons_drop ha
  have hlength : (l.take j).length = j :=
    List.length_take_of_le (Nat.le_of_lt (List.getElem?_eq_some_iff.1 ha).1)
  rcases Nat.lt_or_gt_of_ne hij with hlt | hgt
  · refine ⟨(l.take j).eraseIdx i, l.drop (j + 1), ?_, List.eraseIdx_sublist _ _, .refl _⟩
    conv_lhs => rw [hl]
    exact List.eraseIdx_append_of_lt_length (by omega) _
  · obtain ⟨k, rfl⟩ := Nat.exists_eq_add_of_lt hgt
    refine ⟨l.take j, (l.drop (j + 1)).eraseIdx k, ?_, .refl _, List.eraseIdx_sublist _ _⟩
    conv_lhs => rw [hl]
    rw [List.eraseIdx_append_of_length_le (by omega), hlength, Nat.add_assoc,
      Nat.add_sub_cancel_left, List.eraseIdx_cons_succ]

theorem workflowsExcept_eq_elim (s : Script) (i : Option Nat) :
    s.workflowsExcept i = i.elim s.workflows s.workflows.eraseIdx := by
  cases i with
  | none => exact s.workflowsExcept_none
  | some i => exact s.workflowsExcept_some i

theorem filterMap_ordinary?_declarations (s : Script) :
    s.declarations.filterMap Declaration.ordinary? = s.workflowsExcept s.entryIndex? := by
  have hentry : (s.entry?.map Declaration.entry).toList.filterMap Declaration.ordinary? = [] := by
    cases s.entry? <;> rfl
  have houtputs : (s.outputs.map Declaration.outputs).toList.filterMap Declaration.ordinary? =
      [] := by
    cases s.outputs <;> rfl
  simp [declarations, List.filterMap_append, List.filterMap_map, Function.comp_def,
    Declaration.ordinary?, hentry, houtputs]

theorem filterMap_workflow?_declarations (s : Script) :
    s.declarations.filterMap Declaration.workflow? =
      s.entry?.toList ++ s.workflowsExcept s.entryIndex? := by
  have hentry : (s.entry?.map Declaration.entry).toList.filterMap Declaration.workflow? =
      s.entry?.toList := by
    cases s.entry? <;> rfl
  have houtputs : (s.outputs.map Declaration.outputs).toList.filterMap Declaration.workflow? =
      [] := by
    cases s.outputs <;> rfl
  simp [declarations, List.filterMap_append, List.filterMap_map, Function.comp_def,
    Declaration.workflow?, hentry, houtputs]

/-- Every workflow is listed once. -/
theorem perm_filterMap_workflow?_declarations (s : Script) :
    (s.declarations.filterMap Declaration.workflow?).Perm s.workflows := by
  rw [filterMap_workflow?_declarations]
  exact s.perm_workflows.symm

theorem block_setEntry_of_ne (s : Script) (id : WorkflowId) {j : Nat} (h₃ : j ≠ 3) (h₅ : j ≠ 5) :
    (s.setEntry id).block j = s.block j := by
  unfold block
  split
  any_goals contradiction
  all_goals rfl

/-- The listing without the workflows depends on no entry. -/
theorem filter_kind_declarations_setEntry (s : Script) (id : WorkflowId) :
    (s.setEntry id).declarations.filter (·.kind != .workflow) =
      s.declarations.filter (·.kind != .workflow) := by
  have hnil : ∀ (t : Script) (k : Nat), k = 3 ∨ k = 5 →
      (t.block k).filter (·.kind != .workflow) = [] := by
    rintro t k hk
    rw [List.filter_eq_nil_iff]
    intro d hd
    have := precedence_of_mem_block hd
    cases d <;> simp [Declaration.precedence, Declaration.kind] at this ⊢ <;> omega
  -- Only the two blocks of workflows can differ, and the filter empties these.
  rw [declarations_eq_flatMap, declarations_eq_flatMap, List.filter_flatMap, List.filter_flatMap]
  refine List.flatMap_congr fun k _ => ?_
  by_cases hk : k = 3 ∨ k = 5
  · rw [hnil _ k hk, hnil _ k hk]
  · obtain ⟨h₃, h₅⟩ := not_or.1 hk
    rw [block_setEntry_of_ne s id h₃ h₅]

theorem entry?_setEntry (s : Script) (id : WorkflowId) : entry? (s.setEntry id) = s.workflow? id :=
  rfl

theorem entryIndex?_setEntry (s : Script) (id : WorkflowId) :
    (s.setEntry id).entryIndex? = s.ownedIndex? id :=
  rfl

theorem redesignates_setEntry (s : Script) (id : WorkflowId) :
    s.Redesignates id (s.setEntry id) where
  workflows := rfl
  others := s.filter_kind_declarations_setEntry id
  listed := (perm_filterMap_workflow?_declarations _).trans
    (perm_filterMap_workflow?_declarations s).symm
  entry w := by
    rw [getElem?_declarations_eq_entry_iff, entry?_setEntry]
    exact and_iff_right rfl
  ordinary := by
    rw [filterMap_ordinary?_declarations, workflowsExcept_eq_elim, entryIndex?_setEntry]
    rfl
  returned j w _ hw hne := by
    rw [filterMap_ordinary?_declarations, workflowsExcept_eq_elim, entryIndex?_setEntry]
    rcases hi : s.ownedIndex? id with _ | i
    · exact ⟨_, _, eq_take_append_cons_drop hw, .refl _, .refl _⟩
    · exact exists_append_eraseIdx hw fun hij => hne (hi.trans (congrArg some hij))
  same h := by
    refine declarations_congr fun k => ?_
    by_cases h₃ : k = 3
    · subst h₃
      have hentry : entry? (s.setEntry id) = s.entry? := entry?_congr h (List.prefix_refl _)
      simp only [block, hentry]
    · by_cases h₅ : k = 5
      · subst h₅
        simp only [block, entryIndex?_setEntry, h]
        rfl
      · exact s.block_setEntry_of_ne id h₃ h₅

/-! ## The listing after a building step -/

theorem listsAfter_apply (h : s.EntryIsPlaced) (c : Call) : s.ListsAfter c (s.apply c) := by
  have hne := h.entryId_ne
  cases c with
  | add item =>
    cases item with
    | outputs b => exact s.takesPlace_setOutputs b
    | hostClass c =>
      simp only [ListsAfter]
      split
      · next hnone => exact declarations_add_of_shown?_eq_none hnone
      · next d hd => exact joins_add hne (fun _ => by simp) hd
    | _ => exact joins_add hne (fun _ => by simp) rfl
  | setEntry id => exact s.redesignates_setEntry id
  | setShebang line => rfl

/-! ## The readings after a building step -/

/-- Every part of a script after a building step, the log apart. -/
theorem apply_eq (s : Script) (c : Call) :
    s.apply c =
      { identity := s.identity
        host := ⟨s.host.fileId, s.host.classes ++ c.hostClass?.toList⟩
        shebang := c.shebang?.or s.shebang
        featureFlags := s.featureFlags ++ c.featureFlag?.toList
        includes := s.includes ++ c.inclusion?.toList
        params := s.params ++ c.param?.toList
        entryId := c.entry?.or s.entryId
        outputs := c.outputs?.or s.outputs
        workflows := s.workflows ++ c.workflow?.toList
        processes := s.processes ++ c.process?.toList
        functions := s.functions ++ c.function?.toList
        overwrites := (s.apply c).overwrites } := by
  rcases c with (_ | _ | _ | _ | _ | _ | _ | _) | _ | _ <;>
    simp [apply, add, addFeatureFlag, addInclude, addParam, addWorkflow, addProcess, addFunction,
      addClass, HostModule.addClass, setOutputs, setEntry, setShebang, Call.featureFlag?,
      Call.inclusion?, Call.param?, Call.workflow?, Call.process?, Call.function?,
      Call.hostClass?, Call.outputs?, Call.entry?, Call.shebang?]

theorem workflow?_apply (s : Script) (c : Call) (id : WorkflowId) :
    (s.apply c).workflow? id = if id = s.nextId then c.workflow? else s.workflow? id := by
  ext w
  rw [workflow?_eq_some_iff, apply_eq]
  dsimp only
  split
  · next hid =>
    subst hid
    cases hw : c.workflow? <;> simp [nextId]
  · next hid =>
    rw [workflow?_eq_some_iff]
    refine and_congr_right fun hscript => ?_
    have hindex : id.index ≠ s.workflows.length := fun hindex =>
      hid (by rw [nextId, ← hscript, ← hindex])
    rcases Nat.lt_or_gt_of_ne hindex with hlt | hgt
    · rw [List.getElem?_append_left hlt]
    · have hone : c.workflow?.toList.length ≤ 1 := by cases c.workflow? <;> simp
      rw [List.getElem?_eq_none (by simp only [List.length_append]; omega),
        List.getElem?_eq_none (by omega)]

theorem entry?_apply (h : s.EntryIsPlaced) (c : Call) :
    entry? (s.apply c) = c.entry?.elim s.entry? s.workflow? := by
  -- The entry could only change along with its id, as the id does not name the next workflow.
  have hkept : (s.apply c).entryId = s.entryId → entry? (s.apply c) = s.entry? := by
    intro hid
    unfold entry?
    rw [hid]
    rcases hs : s.entryId with _ | id
    · rfl
    · have hne : id ≠ s.nextId := fun hnext => h.entryId_ne (hs.trans (congrArg some hnext))
      rw [Option.bind_some, Option.bind_some, workflow?_apply, if_neg hne]
  cases c with
  | add item => exact hkept (by rw [apply_eq]; rfl)
  | setEntry id => rfl
  | setShebang line => exact hkept rfl

theorem readsAfter_apply (h : s.EntryIsPlaced) (c : Call) : s.ReadsAfter c (s.apply c) where
  identity := by rw [apply_eq]
  fileId := by rw [apply_eq]
  classes := by rw [apply_eq]
  enums := by
    rw [apply_eq]
    exact List.filter_append _ _
  shebang := by rw [apply_eq]
  featureFlags := by rw [apply_eq]
  includes := by rw [apply_eq]
  params := by rw [apply_eq]
  entryId := by rw [apply_eq]
  entry := entry?_apply h c
  outputs := by rw [apply_eq]
  workflows := by rw [apply_eq]
  processes := by rw [apply_eq]
  functions := by rw [apply_eq]
  owns id := by
    unfold owns
    rw [apply_eq]
  workflow := s.workflow?_apply c

/-! ## Every building step -/

/-- What a building step does to the listing of a script whose entry is unset, foreign or in range,
and to what can be read off it: everything the step is not about stays. -/
theorem lists_and_reads_apply (h : s.EntryIsPlaced) (c : Call) :
    s.ListsAfter c (s.apply c) ∧ s.ReadsAfter c (s.apply c) :=
  ⟨listsAfter_apply h c, readsAfter_apply h c⟩

/-- Two unnamed workflows and a process, with the first workflow as the entry. -/
def twoUnnamed : Script :=
  (empty 0 0).applyAll
    [.add (.workflow ⟨none, ⟨0, 10⟩⟩), .add (.process ⟨"p", ⟨10, 20⟩⟩),
      .add (.workflow ⟨none, ⟨20, 30⟩⟩), .setEntry ⟨0, 0⟩]

theorem entryIsPlaced_twoUnnamed : twoUnnamed.EntryIsPlaced := by
  rintro id ⟨rfl⟩
  exact .inr (by decide)

/-- The designation of the second workflow makes the first one ordinary. -/
theorem lists_and_reads_apply_twoUnnamed :
    twoUnnamed.EntryIsPlaced ∧
      twoUnnamed.Redesignates ⟨0, 1⟩ (twoUnnamed.setEntry ⟨0, 1⟩) ∧
      twoUnnamed.ReadsAfter (.setEntry ⟨0, 1⟩) (twoUnnamed.setEntry ⟨0, 1⟩) ∧
      (twoUnnamed.setEntry ⟨0, 1⟩).declarations =
        [.entry ⟨none, ⟨20, 30⟩⟩, .workflow ⟨none, ⟨0, 10⟩⟩, .process ⟨"p", ⟨10, 20⟩⟩] := by
  have heffect := lists_and_reads_apply entryIsPlaced_twoUnnamed (.setEntry ⟨0, 1⟩)
  exact ⟨entryIsPlaced_twoUnnamed, heffect.1, heffect.2, rfl⟩

end Script

end WorkflowOutline
